import OutboundWatch.Observatory.State

/-!
# Views of the admin interface

What the read-only admin interface shows of an observatory.
-/

namespace OutboundWatch.Admin

def version : String := "0.1.0"

/-- The observatory at a glance. -/
structure SystemView where
  status : String
  uptimeSecs : Nat
  candidates : Nat
  usable : Nat
  heldBest : Option String
  openConnections : Nat
  probesInFlight : Nat
  rankingVersion : Nat

/-- One candidate at its place in the ranking. Times are in milliseconds. -/
structure CandidateView where
  rank : Nat
  tag : String
  state : StateLabel
  /-- The ranking key, unless it is a reserved one. -/
  lastDuration : Option Binary64
  lastMeasured : Option Binary64
  lastProbeTime : Option UInt64
  consecutiveFailures : UInt32
  consecutiveBorderline : UInt32
  lastFailure : Option String

/-- The held best, as it was last chosen. -/
structure BestView where
  available : Bool
  held : Option CandidateView

/-- Milliseconds since the epoch, cut to 64 bits; none before the epoch. -/
def probeMillis (time : WallTime) : Option UInt64 :=
  if 0 ≤ time then some (UInt64.ofNat (time.toNat / nanosPerMilli)) else none

namespace CandidateView

def ofStatus (rank : Nat) (s : Status) : CandidateView where
  rank := rank
  tag := s.tag
  state := s.label
  lastDuration := match s.health.state with
    | .qualified rtt => some rtt.inMillis
    | _ => none
  lastMeasured := s.health.state.measured.map Span.inMillis
  lastProbeTime := s.health.lastProbe.bind probeMillis
  consecutiveFailures := s.health.consecutiveFailures
  consecutiveBorderline := s.health.consecutiveBorderline
  lastFailure := match s.health.state with
    | .failed reason => some reason.message
    | _ => none

/-- The view of a tag in a ranking. Places are counted from one. -/
def ofRanking? (ranking : Snapshot) (tag : String) : Option CandidateView :=
  match ranking.position? tag, ranking.get? tag with
  | some place, some status => some (ofStatus (place + 1) status)
  | _, _ => none

end CandidateView

def systemView (o : Observatory) (now : Moment) : SystemView where
  status := if o.isStopped then "stopped" else "operational"
  uptimeSecs := now / nanosPerSecond
  candidates := o.ranking.size
  usable := o.ranking.usable
  heldBest := o.heldBest
  openConnections := o.openConnections
  probesInFlight := o.probesInFlight
  rankingVersion := o.ranking.version

def rankingView (o : Observatory) : List CandidateView :=
  o.ranking.entries.zipIdx.map fun (status, place) => CandidateView.ofStatus (place + 1) status

def bestView (o : Observatory) : BestView where
  available := decide (o.ranking.availability ≠ .noneUsable)
  held := o.heldBest.bind (CandidateView.ofRanking? o.ranking)

end OutboundWatch.Admin
