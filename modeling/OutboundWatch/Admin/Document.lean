import OutboundWatch.Admin.Router
import OutboundWatch.Text.Document

/-!
# Answers of the admin interface as documents
-/

namespace OutboundWatch.Admin

open Document

def optional {α : Type} (write : α → Document) : Option α → Document
  | some a => write a
  | none => null

def SystemView.document (v : SystemView) : Document :=
  object [("version", text version), ("status", text v.status), ("uptime_secs", number v.uptimeSecs),
    ("candidates", number v.candidates), ("usable", number v.usable),
    ("held_best", optionText v.heldBest), ("open_connections", number v.openConnections),
    ("probes_in_flight", number v.probesInFlight), ("ranking_version", number v.rankingVersion)]

def CandidateView.document (v : CandidateView) : Document :=
  object [("rank", number v.rank), ("tag", text v.tag), ("state", text v.state.name),
    ("last_duration_ms", optional double v.lastDuration),
    ("last_measured_ms", optional double v.lastMeasured),
    ("last_probe_time", optional (fun n => number n.toNat) v.lastProbeTime),
    ("consecutive_failures", number v.consecutiveFailures.toNat),
    ("consecutive_borderline", number v.consecutiveBorderline.toNat),
    ("last_failure", optionText v.lastFailure)]

def BestView.document (v : BestView) : Document :=
  object [("available", bool v.available), ("held", optional CandidateView.document v.held)]

/-- The body of an answer; plain texts stand for themselves. -/
def Body.document : Body → Document
  | nothing => .text ""
  | text content => .text content
  | .system view => view.document
  | ranking views => list (views.map CandidateView.document)
  | candidate view => view.document
  | best view => view.document
  | failure message => object [("error", .text message)]

end OutboundWatch.Admin
