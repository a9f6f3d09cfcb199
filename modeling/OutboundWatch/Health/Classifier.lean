import OutboundWatch.Health.State

/-!
# Classification of probe results

A usable candidate fails only after a run of failures as long as the threshold, a candidate that is
not usable fails at once, and a failed candidate passes through untested before it is graded again.
-/

namespace OutboundWatch

/-- Turns probe results into health. The threshold is never zero. -/
structure Classifier where
  failureThreshold : UInt32
  qualityCeiling : Span
  threshold_pos : failureThreshold ≠ 0

/-- A change of state label by one observation. -/
structure Transition where
  source : StateLabel
  destination : StateLabel
  deriving DecidableEq

def Transition.changed (t : Transition) : Bool := decide (t.source ≠ t.destination)

/-- One more, stopping at the largest count. -/
def saturatingSucc (n : UInt32) : UInt32 := if n = 0xffffffff then n else n + 1

namespace Classifier

def create (failureThreshold : UInt32) (qualityCeiling : Span) : Classifier :=
  if h : failureThreshold = 0 then ⟨1, qualityCeiling, by decide⟩
  else ⟨failureThreshold, qualityCeiling, h⟩

/-- The state of a reachable candidate that answered in `rtt`. -/
def grade (c : Classifier) (rtt : Span) : HealthState :=
  if c.qualityCeiling < rtt then .unqualified rtt else .qualified rtt

def onSuccess (c : Classifier) (h : Health) (rtt : Span) : Health :=
  { h with
    state := match h.state with
      | .failed _ => .untested
      | _ => c.grade rtt
    consecutiveFailures := 0
    consecutiveBorderline := 0 }

def onFailure (c : Classifier) (h : Health) (reason : ProbeFailure) : Health :=
  let failures := saturatingSucc h.consecutiveFailures
  let exhausted := decide (c.failureThreshold ≤ failures)
  let counted := { h with consecutiveFailures := failures }
  match h.state with
  | .untested => { counted with state := .failed reason }
  | .failed _ => { counted with state := .failed reason }
  | .qualified _ =>
    if exhausted then { counted with state := .failed reason, consecutiveBorderline := 0 }
    else { counted with consecutiveBorderline := saturatingSucc h.consecutiveBorderline }
  | .unqualified _ =>
    if exhausted then { counted with state := .failed reason, consecutiveBorderline := 0 }
    else counted

/-- The record after one more probe result, seen at `time`. -/
def observe (c : Classifier) (time : WallTime) (h : Health) (result : ProbeResult) : Health :=
  let seen := { h with lastProbe := some time }
  match result with
  | .success rtt => c.onSuccess seen rtt
  | .failure reason => c.onFailure seen reason

/-- The record after a sequence of results with their times. -/
def observeAll (c : Classifier) (h : Health) (results : List (WallTime × ProbeResult)) : Health :=
  results.foldl (fun acc r => c.observe r.1 acc r.2) h

end Classifier

def Health.transition (before after : Health) : Transition :=
  ⟨before.state.label, after.state.label⟩

end OutboundWatch
