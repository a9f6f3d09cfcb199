import OutboundWatch.Proofs.Counters
import OutboundWatch.Proofs.Grading

/-!
# What tuning a classifier changes

Two classifiers see the same results. The lenient one has the larger threshold and the larger ceiling. The two may
come apart: one has failed or recovers while the other has not noticed anything. But where the strict one lets a
candidate be used the lenient one does too, for it has failed only if the strict one has failed as well. With
one threshold they differ in nothing but the class of a usable candidate and the borderline counter.
-/

namespace OutboundWatch

namespace HealthState

lemma isUsable_eq_isSome_measured (s : HealthState) : s.isUsable = s.measured.isSome := by cases s <;> rfl

/-- The state with the class of a usable candidate left open. -/
def unclassed : HealthState → HealthState
  | unqualified rtt => .qualified rtt
  | s => s

lemma isUsable_unclassed (s : HealthState) : s.unclassed.isUsable = s.isUsable := by cases s <;> rfl

lemma measured_unclassed (s : HealthState) : s.unclassed.measured = s.measured := by cases s <;> rfl

lemma unclassed_eq_failed_iff {s : HealthState} {reason : ProbeFailure} :
    s.unclassed = .failed reason ↔ s = .failed reason := by
  cases s <;> simp [unclassed]

lemma unclassed_eq_untested_iff {s : HealthState} : s.unclassed = .untested ↔ s = .untested := by
  cases s <;> simp [unclassed]

/-- A lenient classifier has `lenient` where a strict one has `strict`: it keeps every measured time of the strict
one, and it has failed only if that one has. The second part is what carries the first over a success. -/
structure Permits (strict lenient : HealthState) : Prop where
  measured : ∀ rtt, strict.measured = some rtt → lenient.measured = some rtt
  failed : ∀ reason, lenient = .failed reason → ∃ earlier, strict = .failed earlier

lemma Permits.isUsable {strict lenient : HealthState} (h : strict.Permits lenient)
    (husable : strict.isUsable = true) : lenient.isUsable = true := by
  rw [isUsable_eq_isSome_measured] at husable ⊢
  obtain ⟨rtt, hrtt⟩ := Option.isSome_iff_exists.mp husable
  rw [h.measured rtt hrtt]
  rfl

end HealthState

namespace Classifier

lemma unclassed_grade (c : Classifier) (rtt : Span) : (c.grade rtt).unclassed = .qualified rtt := by
  unfold grade
  split <;> rfl

lemma measured_grade (c : Classifier) (rtt : Span) : (c.grade rtt).measured = some rtt := by
  rw [← HealthState.measured_unclassed, unclassed_grade]
  rfl

/-- What a success leaves, with the class left open, does not depend on the class before. -/
lemma unclassed_stateAfter_success (c : Classifier) (results : List (WallTime × ProbeResult)) (time : WallTime)
    (rtt : Span) :
    (c.stateAfter (results ++ [(time, .success rtt)])).unclassed =
      match (c.stateAfter results).unclassed with
      | .failed _ => .untested
      | _ => .qualified rtt := by
  rw [stateAfter_success]
  cases c.stateAfter results with
  | failed reason => rfl
  | untested => exact c.unclassed_grade rtt
  | qualified old => exact c.unclassed_grade rtt
  | unqualified old => exact c.unclassed_grade rtt

variable {strict lenient : Classifier}

lemma permits_success {results : List (WallTime × ProbeResult)}
    (h : (strict.stateAfter results).Permits (lenient.stateAfter results)) (time : WallTime) (rtt : Span) :
    (strict.stateAfter (results ++ [(time, .success rtt)])).Permits
      (lenient.stateAfter (results ++ [(time, .success rtt)])) := by
  rw [stateAfter_success, stateAfter_success]
  constructor
  · intro measured hmeasured
    split at hmeasured
    · cases hmeasured
    · rename_i hunfailed
      rw [measured_grade] at hmeasured
      cases hmeasured
      split
      · rename_i reason hfailed
        obtain ⟨earlier, hstrict⟩ := h.failed reason hfailed
        exact absurd hstrict (hunfailed earlier)
      · exact lenient.measured_grade rtt
  · intro reason hfailed
    have husable := lenient.isUsable_grade rtt
    split at hfailed
    · cases hfailed
    · rw [hfailed] at husable
      cases husable

/-- A failure that the strict classifier lets pass is let pass by the lenient one. -/
lemma permits_failure (hthreshold : strict.failureThreshold.toNat ≤ lenient.failureThreshold.toNat)
    {results : List (WallTime × ProbeResult)}
    (h : (strict.stateAfter results).Permits (lenient.stateAfter results)) (time : WallTime)
    (reason : ProbeFailure) :
    (strict.stateAfter (results ++ [(time, .failure reason)])).Permits
      (lenient.stateAfter (results ++ [(time, .failure reason)])) := by
  rw [stateAfter_failure, stateAfter_failure]
  by_cases hpasses : (strict.stateAfter results).isUsable = true ∧
      failuresSince results + 1 < strict.failureThreshold.toNat
  · obtain ⟨husable, hfew⟩ := hpasses
    rw [if_pos ⟨husable, hfew⟩, if_pos ⟨h.isUsable husable, hfew.trans_le hthreshold⟩]
    exact h
  · rw [if_neg hpasses]
    exact ⟨fun _ hnone => (by cases hnone), fun _ _ => ⟨reason, rfl⟩⟩

/-- Where the strict classifier lets a candidate be used, the lenient one does too. -/
theorem permits_stateAfter (hthreshold : strict.failureThreshold.toNat ≤ lenient.failureThreshold.toNat)
    (results : List (WallTime × ProbeResult)) :
    (strict.stateAfter results).Permits (lenient.stateAfter results) := by
  induction results using List.reverseRecOn with
  | nil => exact ⟨fun _ hsame => hsame, fun _ hnone => (by cases hnone)⟩
  | append_singleton results last ih =>
    obtain ⟨time, result⟩ := last
    cases result with
    | success rtt => exact permits_success ih time rtt
    | failure reason => exact permits_failure hthreshold ih time reason

/-- The ceiling has no influence but on the class. -/
theorem unclassed_stateAfter {c d : Classifier} (hthreshold : c.failureThreshold.toNat = d.failureThreshold.toNat)
    (results : List (WallTime × ProbeResult)) :
    (c.stateAfter results).unclassed = (d.stateAfter results).unclassed := by
  induction results using List.reverseRecOn with
  | nil => rfl
  | append_singleton results last ih =>
    obtain ⟨time, result⟩ := last
    cases result with
    | success rtt => rw [unclassed_stateAfter_success, unclassed_stateAfter_success, ih]
    | failure reason =>
      have husable : (c.stateAfter results).isUsable = (d.stateAfter results).isUsable := by
        rw [← HealthState.isUsable_unclassed, ih, HealthState.isUsable_unclassed]
      rw [stateAfter_failure, stateAfter_failure, ← hthreshold, ← husable]
      split
      · exact ih
      · rfl

/-- A measured time within the smaller ceiling is within the larger one. -/
lemma qualified_of_permits (hceiling : strict.qualityCeiling ≤ lenient.qualityCeiling)
    {results : List (WallTime × ProbeResult)}
    (h : (strict.stateAfter results).Permits (lenient.stateAfter results)) {rtt : Span}
    (hqualified : strict.stateAfter results = .qualified rtt) : lenient.stateAfter results = .qualified rtt := by
  -- No round trip is longer than the longest span, so the times are graded whatever the timeout is.
  have hwithin : ∀ r ∈ results, r.2.Within Span.longest := by
    intro r _
    cases r.2 with
    | success rtt => exact Span.le_def.mpr (Nat.le_sub_one_of_lt rtt.nanos_lt)
    | failure reason => trivial
  have hstrict := strict.graded_observeAll hwithin
  have hlenient := lenient.graded_observeAll hwithin
  have hmeasured := h.measured rtt (by rw [hqualified]; rfl)
  change (strict.stateAfter results).Graded _ _ at hstrict
  change (lenient.stateAfter results).Graded _ _ at hlenient
  rw [hqualified] at hstrict
  cases hstate : lenient.stateAfter results with
  | qualified other =>
    rw [hstate] at hmeasured
    cases hmeasured
    rfl
  | unqualified other =>
    rw [hstate] at hmeasured hlenient
    cases hmeasured
    have hslow := Span.lt_def.mp hlenient.1
    have hquick := Span.le_def.mp hstrict
    have hless := Span.le_def.mp hceiling
    omega
  | untested =>
    rw [hstate] at hmeasured
    cases hmeasured
  | failed reason =>
    rw [hstate] at hmeasured
    cases hmeasured

/-- Two classifiers after the same results, the second with a threshold and a ceiling that are not smaller. Their
records count the same failures and have the same time of the last probe. Where the first lets the candidate be
used, so does the second, with the same measured time, and where it is qualified for the first it is so for the
second. With equal thresholds, it is untested, failed for a reason or usable with a measured time for one exactly
if it is for the other. -/
theorem tuning_monotone {strictThreshold lenientThreshold : UInt32} {strictCeiling lenientCeiling : Span}
    (hthreshold : max 1 strictThreshold.toNat ≤ max 1 lenientThreshold.toNat)
    (hceiling : strictCeiling ≤ lenientCeiling) (results : List (WallTime × ProbeResult)) :
    let strict := (create strictThreshold strictCeiling).observeAll Health.fresh results
    let lenient := (create lenientThreshold lenientCeiling).observeAll Health.fresh results
    strict.consecutiveFailures = lenient.consecutiveFailures ∧ strict.lastProbe = lenient.lastProbe ∧
      (strict.state.isUsable = true →
        lenient.state.isUsable = true ∧ lenient.state.measured = strict.state.measured) ∧
      (∀ rtt, strict.state = .qualified rtt → lenient.state = .qualified rtt) ∧
      (max 1 strictThreshold.toNat = max 1 lenientThreshold.toNat →
        (strict.state = .untested ↔ lenient.state = .untested) ∧
          (∀ reason, strict.state = .failed reason ↔ lenient.state = .failed reason) ∧
          strict.state.isUsable = lenient.state.isUsable ∧ strict.state.measured = lenient.state.measured) := by
  intro strict lenient
  rw [← toNat_failureThreshold _ strictCeiling, ← toNat_failureThreshold _ lenientCeiling] at hthreshold
  have hpermits := permits_stateAfter hthreshold results
  refine ⟨?_, ?_, fun husable => ⟨hpermits.isUsable husable, ?_⟩, fun rtt => ?_, fun hequal => ?_⟩
  · exact UInt32.toNat_inj.mp
      ((toNat_consecutiveFailures _ results).trans (toNat_consecutiveFailures _ results).symm)
  · exact (lastProbe_observeAll _ results).trans (lastProbe_observeAll _ results).symm
  · rw [HealthState.isUsable_eq_isSome_measured] at husable
    obtain ⟨rtt, hrtt⟩ := Option.isSome_iff_exists.mp husable
    exact (hpermits.measured rtt hrtt).trans hrtt.symm
  · refine qualified_of_permits ?_ hpermits
    rw [qualityCeiling_create, qualityCeiling_create]
    exact hceiling
  · rw [← toNat_failureThreshold _ strictCeiling, ← toNat_failureThreshold _ lenientCeiling] at hequal
    have hsame : strict.state.unclassed = lenient.state.unclassed := unclassed_stateAfter hequal results
    refine ⟨?_, fun reason => ?_, ?_, ?_⟩
    · rw [← HealthState.unclassed_eq_untested_iff, hsame, HealthState.unclassed_eq_untested_iff]
    · rw [← HealthState.unclassed_eq_failed_iff, hsame, HealthState.unclassed_eq_failed_iff]
    · rw [← HealthState.isUsable_unclassed, hsame, HealthState.isUsable_unclassed]
    · rw [← HealthState.measured_unclassed, hsame, HealthState.measured_unclassed]

/-- With a threshold of one, a single failure sends a candidate through recovery, of which a threshold of three
knows nothing. Both have it qualified in the end. -/
theorem tuning_through_recovery :
    let results := [(0, .success (Span.ofMillis 40)), (1, .failure (.connect "refused")),
      (2, .success (Span.ofMillis 50)), (3, .success (Span.ofMillis 60))]
    let strict := create 1 (Span.ofMillis 100)
    let lenient := create 3 (Span.ofMillis 500)
    strict.stateAfter (results.take 3) = .untested ∧
      lenient.stateAfter (results.take 3) = .qualified (Span.ofMillis 50) ∧
      (strict.observeAll Health.fresh results).state = .qualified (Span.ofMillis 60) ∧
      (lenient.observeAll Health.fresh results).state = .qualified (Span.ofMillis 60) := by
  intro results strict lenient
  have hqualified : (strict.observeAll Health.fresh results).state = .qualified (Span.ofMillis 60) := by
    decide +kernel
  have hceiling : Span.ofMillis 100 ≤ Span.ofMillis 500 := by decide +kernel
  have hthreshold : max 1 (1 : UInt32).toNat ≤ max 1 (3 : UInt32).toNat := by decide
  exact ⟨by decide +kernel, by decide +kernel, hqualified,
    (tuning_monotone hthreshold hceiling results).2.2.2.1 _ hqualified⟩

end Classifier

end OutboundWatch
