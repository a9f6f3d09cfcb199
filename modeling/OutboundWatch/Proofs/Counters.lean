import Mathlib.Data.UInt
import OutboundWatch.Proofs.Hysteresis

/-!
# The counters of a health record

The failure counter is the number of failures since the last success, as far as it can count. How the two counters
go together depends on the state, and every observation keeps it. The threshold is a number that the counter can
reach, and so it does not matter where the counter stops.
-/

namespace OutboundWatch

/-- How the counters of a record go with its state, when a usable candidate fails after `needed` failures. -/
def Health.CountersFit (needed : Nat) (h : Health) : Prop :=
  match h.state with
  | .untested => h.consecutiveFailures = 0 ∧ h.consecutiveBorderline = 0
  | .qualified _ => h.consecutiveFailures.toNat < needed ∧ h.consecutiveBorderline = h.consecutiveFailures
  | .unqualified _ => h.consecutiveFailures.toNat < needed ∧ h.consecutiveBorderline = 0
  | .failed _ => 1 ≤ h.consecutiveFailures.toNat ∧ h.consecutiveBorderline = 0

lemma toNat_saturatingSucc_eq (n : UInt32) : (saturatingSucc n).toNat = min (2 ^ 32 - 1) (n.toNat + 1) := by
  have hbound := n.toNat_lt
  unfold saturatingSucc
  split
  · rename_i hlast
    rw [hlast]
    rfl
  · rename_i hless
    have hless' : n.toNat ≠ 2 ^ 32 - 1 := fun hlast => hless (UInt32.toNat_inj.mp hlast)
    rw [UInt32.toNat_add, show (1 : UInt32).toNat = 1 from rfl]
    omega

namespace Classifier

variable (c : Classifier)

lemma consecutiveFailures_onFailure (h : Health) (reason : ProbeFailure) :
    (c.onFailure h reason).consecutiveFailures = saturatingSucc h.consecutiveFailures := by
  unfold onFailure
  cases h.state with
  | untested => rfl
  | failed old => rfl
  | qualified rtt =>
    dsimp only
    split <;> rfl
  | unqualified rtt =>
    dsimp only
    split <;> rfl

lemma lastProbe_observe (time : WallTime) (h : Health) (result : ProbeResult) :
    (c.observe time h result).lastProbe = some time := by
  cases result with
  | success rtt => rfl
  | failure reason =>
    unfold observe onFailure
    dsimp only
    cases h.state with
    | untested => rfl
    | failed old => rfl
    | qualified rtt =>
      dsimp only
      split <;> rfl
    | unqualified rtt =>
      dsimp only
      split <;> rfl

/-- A success clears both counters, and with none of them a record can be in any state but a failed one. -/
lemma countersFit_onSuccess (h : Health) (rtt : Span) :
    (c.onSuccess h rtt).CountersFit c.failureThreshold.toNat := by
  have hgrade : ∀ lastProbe, (Health.mk (c.grade rtt) lastProbe 0 0).CountersFit c.failureThreshold.toNat := by
    intro lastProbe
    unfold grade
    by_cases hslow : c.qualityCeiling < rtt
    · rw [if_pos hslow]
      exact ⟨c.toNat_failureThreshold_pos, rfl⟩
    · rw [if_neg hslow]
      exact ⟨c.toNat_failureThreshold_pos, rfl⟩
  unfold onSuccess
  cases h.state with
  | failed reason => exact ⟨rfl, rfl⟩
  | untested => exact hgrade _
  | qualified old => exact hgrade _
  | unqualified old => exact hgrade _

/-- A failure is counted, and of the counts of a usable candidate only those below the threshold stay. -/
lemma countersFit_onFailure {h : Health} (hfit : h.CountersFit c.failureThreshold.toNat) (reason : ProbeFailure) :
    (c.onFailure h reason).CountersFit c.failureThreshold.toNat := by
  have hcounted : 1 ≤ (saturatingSucc h.consecutiveFailures).toNat := by
    rw [toNat_saturatingSucc_eq]
    omega
  unfold Health.CountersFit at hfit
  unfold onFailure
  cases hstate : h.state with
  | untested =>
    rw [hstate] at hfit
    exact ⟨hcounted, hfit.2⟩
  | failed old =>
    rw [hstate] at hfit
    exact ⟨hcounted, hfit.2⟩
  | qualified rtt =>
    rw [hstate] at hfit
    dsimp only
    split
    · exact ⟨hcounted, rfl⟩
    · rename_i hfew
      refine ⟨?_, congrArg saturatingSucc hfit.2⟩
      simpa [UInt32.lt_iff_toNat_lt] using hfew
  | unqualified rtt =>
    rw [hstate] at hfit
    dsimp only
    split
    · exact ⟨hcounted, rfl⟩
    · rename_i hfew
      refine ⟨?_, hfit.2⟩
      simpa [UInt32.lt_iff_toNat_lt] using hfew

lemma countersFit_observe {h : Health} (hfit : h.CountersFit c.failureThreshold.toNat) (time : WallTime)
    (result : ProbeResult) : (c.observe time h result).CountersFit c.failureThreshold.toNat := by
  cases result with
  | success rtt => exact c.countersFit_onSuccess _ rtt
  | failure reason => exact c.countersFit_onFailure (h := { h with lastProbe := some time }) hfit reason

theorem countersFit_observeAll (results : List (WallTime × ProbeResult)) :
    (c.observeAll Health.fresh results).CountersFit c.failureThreshold.toNat := by
  induction results using List.reverseRecOn with
  | nil => exact ⟨rfl, rfl⟩
  | append_singleton results last ih =>
    rw [observeAll_append_singleton]
    exact c.countersFit_observe ih last.1 last.2

/-- The failure counter is the number of failures since the last success, as far as it can count. -/
theorem toNat_consecutiveFailures (results : List (WallTime × ProbeResult)) :
    (c.observeAll Health.fresh results).consecutiveFailures.toNat =
      min (2 ^ 32 - 1) (failuresSince results) := by
  induction results using List.reverseRecOn with
  | nil => rfl
  | append_singleton results last ih =>
    obtain ⟨time, result⟩ := last
    rw [observeAll_append_singleton]
    cases result with
    | success rtt =>
      rw [failuresSince_success]
      rfl
    | failure reason =>
      have hcounted := c.consecutiveFailures_onFailure
        { c.observeAll Health.fresh results with lastProbe := some time } reason
      rw [failuresSince_failure, observe, hcounted, toNat_saturatingSucc_eq, ih]
      omega

theorem lastProbe_observeAll (results : List (WallTime × ProbeResult)) :
    (c.observeAll Health.fresh results).lastProbe = results.getLast?.map Prod.fst := by
  cases results using List.reverseRecOn with
  | nil => rfl
  | append_singleton results last =>
    rw [observeAll_append_singleton, lastProbe_observe, List.getLast?_append_cons, List.getLast?_singleton,
      Option.map_some]

/-- The counters of a record after any results, however many. The failure counter is the number of failures since
the last success, or the largest count when they are more. While the candidate is usable, it is below the threshold,
and the borderline counter is the same if the candidate is qualified and zero if it is not. An untested candidate
has counted nothing, and a failed one at least one failure. The time of the last probe is that of the last result.
The counter has reached the threshold exactly if the failures have. -/
theorem counters_after_results (threshold : UInt32) (ceiling : Span) (results : List (WallTime × ProbeResult)) :
    let needed := max 1 threshold.toNat
    let h := (create threshold ceiling).observeAll Health.fresh results
    h.consecutiveFailures.toNat = min (2 ^ 32 - 1) (failuresSince results) ∧
      (match h.state with
        | .untested => h.consecutiveFailures = 0 ∧ h.consecutiveBorderline = 0
        | .qualified _ =>
          h.consecutiveFailures.toNat < needed ∧ h.consecutiveBorderline = h.consecutiveFailures
        | .unqualified _ => h.consecutiveFailures.toNat < needed ∧ h.consecutiveBorderline = 0
        | .failed _ => 1 ≤ h.consecutiveFailures.toNat ∧ h.consecutiveBorderline = 0) ∧
      h.lastProbe = results.getLast?.map Prod.fst ∧
      (needed ≤ h.consecutiveFailures.toNat ↔ needed ≤ failuresSince results) := by
  intro needed h
  have hcount := (create threshold ceiling).toNat_consecutiveFailures results
  have hfit := (create threshold ceiling).countersFit_observeAll results
  rw [toNat_failureThreshold] at hfit
  have hreachable : needed ≤ 2 ^ 32 - 1 := by
    have hless := threshold.toNat_lt
    omega
  refine ⟨hcount, hfit, lastProbe_observeAll _ results, ?_⟩
  rw [hcount]
  omega

end Classifier

end OutboundWatch
