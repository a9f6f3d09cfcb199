import OutboundWatch.Health.Classifier
import OutboundWatch.Probe.Prober
import OutboundWatch.Ranking.Status
import OutboundWatch.Schedule.Jitter

/-!
# Probe cycles

A cycle probes one registration of a candidate over and over: it sleeps, waits for a permit, makes one
round trip, classifies the result, reports the new status, and sleeps again.
-/

namespace OutboundWatch

/-- What all cycles of a scheduler have in common. -/
structure CycleSettings where
  interval : Span
  timeout : Span
  jitterRatio : Binary64
  classifier : Classifier
  epoch : WallTime

/-- Where a cycle is. -/
inductive CycleStage where
  | starting
  | sleeping (wakeAt : Moment)
  | queued (giveUpAt : Moment)
  | probing (trip : RoundTrip) (startedAt : Moment)
  | reporting (status : Status)

structure Cycle where
  id : Nat
  tag : String
  generation : Nat
  target : ProbeTarget
  health : Health
  stage : CycleStage
  /-- The pause before the next probe, drawn when the last sleep ended. -/
  pause : Span
  probes : Nat
  stopping : Bool

namespace Cycle

def create (id : Nat) (tag : String) (generation : Nat) (target : ProbeTarget) : Cycle :=
  ⟨id, tag, generation, target, Health.fresh, .starting, Span.zero, 0, false⟩

def holdsPermit (c : Cycle) : Bool :=
  match c.stage with
  | .probing _ _ => true
  | _ => false

def sleepFrom (c : Cycle) (now : Moment) : Cycle :=
  { c with stage := .sleeping (now + c.pause.nanos) }

def probeFrom (c : Cycle) (now : Moment) : Cycle :=
  { c with stage := .probing (c.target.reply c.probes) now, probes := c.probes + 1 }

/-- The moment at which the stage of the cycle ends by itself. -/
def dueAt (settings : CycleSettings) (c : Cycle) : Option Moment :=
  match c.stage with
  | .sleeping wakeAt => some wakeAt
  | .queued giveUpAt => some giveUpAt
  | .probing trip startedAt => some (startedAt + (trip.lasting settings.timeout).nanos)
  | .starting => none
  | .reporting _ => none

def status (c : Cycle) : Status := ⟨c.tag, c.generation, c.health⟩

/-- What is reported about a classification that changed the label. -/
def transitionRecords (tag : String) (before after : Health) (result : ProbeResult) : List Record :=
  let change := before.transition after
  if change.changed then
    match result, change.destination with
    | .failure reason, .failed =>
      [.notice (.candidateFailed tag change.source after.consecutiveFailures reason)]
    | _, _ =>
      [.notice (.stateChanged tag change.source change.destination after.state.measured)]
  else []

def finishTrip (settings : CycleSettings) (now : Moment) (trip : RoundTrip) (c : Cycle) :
    Cycle × List Record :=
  let result := trip.judge settings.timeout
  let health := settings.classifier.observe (settings.epoch + now) c.health result
  let after := { c with health := health }
  ({ after with stage := .reporting after.status },
    trip.report c.target.description settings.timeout ++
      [Record.measure (.probe c.tag result), .measure (.state c.tag health.state.label)] ++
      transitionRecords c.tag c.health health result)

end Cycle

end OutboundWatch
