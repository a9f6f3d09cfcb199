import Mathlib.Data.List.Chain
import Mathlib.Data.List.Induction
import OutboundWatch.Proofs.Verdicts

/-!
# Hysteresis of the classification

A usable candidate stays as it is until a run of failures is as long as the threshold, and a failed one becomes
usable with the first two successes in a row. The counter of the record matters only while the candidate is
usable, and then it is the number of failures since the last success.
-/

namespace OutboundWatch

/-- The number of failures since the last success. -/
def failuresSince (results : List (WallTime × ProbeResult)) : Nat :=
  (results.reverse.takeWhile fun r => !r.2.isSuccess).length

@[simp] lemma failuresSince_success (results : List (WallTime × ProbeResult)) (time : WallTime) (rtt : Span) :
    failuresSince (results ++ [(time, .success rtt)]) = 0 := by
  simp [failuresSince, ProbeResult.isSuccess]

@[simp] lemma failuresSince_failure (results : List (WallTime × ProbeResult)) (time : WallTime)
    (reason : ProbeFailure) :
    failuresSince (results ++ [(time, .failure reason)]) = failuresSince results + 1 := by
  simp [failuresSince, ProbeResult.isSuccess]

/-- Failures as results. -/
def failureResults (failures : List (WallTime × ProbeFailure)) : List (WallTime × ProbeResult) :=
  failures.map fun r => (r.1, .failure r.2)

lemma failureResults_append_singleton (failures : List (WallTime × ProbeFailure))
    (last : WallTime × ProbeFailure) :
    failureResults (failures ++ [last]) = failureResults failures ++ [(last.1, .failure last.2)] :=
  List.map_append

lemma failuresSince_append_failureResults (results : List (WallTime × ProbeResult))
    (failures : List (WallTime × ProbeFailure)) :
    failuresSince (results ++ failureResults failures) = failuresSince results + failures.length := by
  induction failures using List.reverseRecOn with
  | nil => simp [failureResults]
  | append_singleton failures last ih =>
    rw [failureResults_append_singleton, ← List.append_assoc, failuresSince_failure, ih, List.length_append,
      List.length_singleton, Nat.add_assoc]

/-- No two successes follow each other. -/
def SuccessesApart (results : List (WallTime × ProbeResult)) : Prop :=
  results.IsChain fun r next => ¬(r.2.isSuccess = true ∧ next.2.isSuccess = true)

/-- The results end with two successes in a row, the first such pair in them. -/
def EndsFirstPair (results : List (WallTime × ProbeResult)) : Prop :=
  ∃ earlier first second, results = earlier ++ [first, second] ∧ first.2.isSuccess = true ∧
    second.2.isSuccess = true ∧ SuccessesApart (earlier ++ [first])

lemma successesApart_append_singleton {results : List (WallTime × ProbeResult)} {r : WallTime × ProbeResult} :
    SuccessesApart (results ++ [r]) ↔
      SuccessesApart results ∧
        ∀ last ∈ results.getLast?, ¬(last.2.isSuccess = true ∧ r.2.isSuccess = true) := by
  rw [SuccessesApart, List.isChain_append]
  simp [SuccessesApart]

/-- Where two successes follow each other, some pair is the first. -/
lemma exists_firstPair {results : List (WallTime × ProbeResult)} (h : ¬SuccessesApart results) :
    ∃ earlier, earlier <+: results ∧ EndsFirstPair earlier := by
  induction results using List.reverseRecOn with
  | nil => exact absurd List.isChain_nil h
  | append_singleton results r ih =>
    by_cases hresults : SuccessesApart results
    · refine ⟨results ++ [r], List.prefix_rfl, ?_⟩
      simp only [successesApart_append_singleton, hresults, true_and, not_forall, not_not] at h
      obtain ⟨last, hlast, hpair⟩ := h
      obtain ⟨earlier, rfl⟩ := List.getLast?_eq_some_iff.mp hlast
      exact ⟨earlier, last, r, by simp, hpair.1, hpair.2, hresults⟩
    · obtain ⟨earlier, hprefix, hpair⟩ := ih hresults
      exact ⟨earlier, hprefix.trans (List.prefix_append results [r]), hpair⟩

lemma toNat_saturatingSucc {n bound : UInt32} (h : n.toNat < bound.toNat) :
    (saturatingSucc n).toNat = n.toNat + 1 := by
  have hbound := bound.toNat_lt
  unfold saturatingSucc
  split
  · rename_i hlast
    rw [hlast, show (0xffffffff : UInt32).toNat = 2 ^ 32 - 1 from rfl] at h
    omega
  · rw [UInt32.toNat_add, show (1 : UInt32).toNat = 1 from rfl]
    omega

namespace Classifier

variable (c : Classifier)

lemma toNat_failureThreshold (threshold : UInt32) (ceiling : Span) :
    (create threshold ceiling).failureThreshold.toNat = max 1 threshold.toNat := by
  unfold create
  split
  · rename_i hzero
    rw [hzero]
    rfl
  · rename_i hpos
    have hpos' : threshold.toNat ≠ 0 := fun hzero => hpos (UInt32.toNat_inj.mp hzero)
    change threshold.toNat = _
    omega

lemma qualityCeiling_create (threshold : UInt32) (ceiling : Span) :
    (create threshold ceiling).qualityCeiling = ceiling := by
  unfold create
  split <;> rfl

/-- The state of a new candidate after some results. -/
def stateAfter (results : List (WallTime × ProbeResult)) : HealthState :=
  (c.observeAll Health.fresh results).state

lemma toNat_failureThreshold_pos : 0 < c.failureThreshold.toNat := by
  have hne : c.failureThreshold.toNat ≠ 0 := fun hzero => c.threshold_pos (UInt32.toNat_inj.mp hzero)
  omega

/-- A failure leaves a usable record as it is while the counter stays below the threshold. -/
lemma observe_of_usable {h : Health} (husable : h.state.isUsable = true)
    (hfew : h.consecutiveFailures.toNat < c.failureThreshold.toNat) (time : WallTime) (reason : ProbeFailure) :
    (c.observe time h (.failure reason)).state =
        (if h.consecutiveFailures.toNat + 1 < c.failureThreshold.toNat then h.state else .failed reason) ∧
      (c.observe time h (.failure reason)).consecutiveFailures.toNat = h.consecutiveFailures.toNat + 1 := by
  have hsucc := toNat_saturatingSucc hfew
  have hexhausted : c.failureThreshold ≤ saturatingSucc h.consecutiveFailures ↔
      ¬h.consecutiveFailures.toNat + 1 < c.failureThreshold.toNat := by
    rw [UInt32.le_iff_toNat_le, hsucc, Nat.not_lt]
  cases hstate : h.state with
  | untested => simp [hstate, HealthState.isUsable] at husable
  | failed old => simp [hstate, HealthState.isUsable] at husable
  | qualified rtt =>
    simp only [observe, onFailure, hstate, hexhausted]
    split <;> simp_all
  | unqualified rtt =>
    simp only [observe, onFailure, hstate, hexhausted]
    split <;> simp_all

lemma observe_of_not_usable {h : Health} (hstate : h.state.isUsable = false) (time : WallTime)
    (reason : ProbeFailure) : (c.observe time h (.failure reason)).state = .failed reason := by
  cases hcase : h.state <;> simp_all [observe, onFailure, HealthState.isUsable]

/-- While a candidate is usable, the counter is the number of failures since the last success, and these are
fewer than the threshold. -/
lemma failures_of_usable {results : List (WallTime × ProbeResult)}
    (husable : (c.stateAfter results).isUsable = true) :
    (c.observeAll Health.fresh results).consecutiveFailures.toNat = failuresSince results ∧
      failuresSince results < c.failureThreshold.toNat := by
  induction results using List.reverseRecOn with
  | nil => cases husable
  | append_singleton results r ih =>
    obtain ⟨time, result⟩ := r
    rw [stateAfter, observeAll_append_singleton] at husable
    rw [observeAll_append_singleton]
    cases result with
    | success rtt =>
      rw [failuresSince_success]
      exact ⟨rfl, c.toNat_failureThreshold_pos⟩
    | failure reason =>
      rw [failuresSince_failure]
      cases hbefore : (c.stateAfter results).isUsable with
      | false =>
        rw [c.observe_of_not_usable hbefore] at husable
        cases husable
      | true =>
        obtain ⟨hcount, hfew⟩ := ih hbefore
        rw [← hcount] at hfew ⊢
        obtain ⟨hstate, hnext⟩ := c.observe_of_usable hbefore hfew time reason
        rw [hstate] at husable
        split at husable
        · rename_i hless
          exact ⟨hnext, hless⟩
        · cases husable

/-- What a success makes of the state. -/
lemma stateAfter_success (results : List (WallTime × ProbeResult)) (time : WallTime) (rtt : Span) :
    c.stateAfter (results ++ [(time, .success rtt)]) =
      match c.stateAfter results with
      | .failed _ => .untested
      | _ => c.grade rtt := by
  rw [stateAfter, observeAll_append_singleton]
  rfl

/-- A failure shows only if the candidate was not usable or the failures are as many as the threshold. -/
lemma stateAfter_failure (results : List (WallTime × ProbeResult)) (time : WallTime) (reason : ProbeFailure) :
    c.stateAfter (results ++ [(time, .failure reason)]) =
      if (c.stateAfter results).isUsable = true ∧ failuresSince results + 1 < c.failureThreshold.toNat
        then c.stateAfter results
        else .failed reason := by
  rw [stateAfter, observeAll_append_singleton]
  cases hbefore : (c.stateAfter results).isUsable with
  | false =>
    rw [c.observe_of_not_usable hbefore, if_neg (by simp)]
  | true =>
    obtain ⟨hcount, hfew⟩ := c.failures_of_usable hbefore
    rw [← hcount] at hfew ⊢
    simp only [true_and]
    exact (c.observe_of_usable hbefore hfew time reason).1

lemma isUsable_grade (rtt : Span) : (c.grade rtt).isUsable = true := by
  unfold grade
  split <;> rfl

variable {c} {history : List (WallTime × ProbeResult)}

/-- A run of failures that stays short is not seen, and a long one ends in its last reason. -/
theorem stateAfter_failures (husable : (c.stateAfter history).isUsable = true)
    (failures : List (WallTime × ProbeFailure)) :
    (failuresSince history + failures.length < c.failureThreshold.toNat →
        c.stateAfter (history ++ failureResults failures) = c.stateAfter history) ∧
      (c.failureThreshold.toNat ≤ failuresSince history + failures.length →
        ∀ last ∈ failures.getLast?, c.stateAfter (history ++ failureResults failures) = .failed last.2) := by
  induction failures using List.reverseRecOn with
  | nil => simp [failureResults]
  | append_singleton failures last ih =>
    have hlast := c.stateAfter_failure (history ++ failureResults failures) last.1 last.2
    rw [List.append_assoc, ← failureResults_append_singleton, failuresSince_append_failureResults] at hlast
    rw [List.length_append, List.length_singleton]
    constructor
    · intro hshort
      have hsame := ih.1 (by omega)
      rw [hlast, hsame, if_pos ⟨husable, by omega⟩]
    · intro hlong other hother
      rw [List.getLast?_append_cons, List.getLast?_singleton, Option.mem_some_iff] at hother
      rw [hlast, if_neg, hother]
      rintro ⟨-, hshort⟩
      omega

/-- While successes come one at a time, a failed candidate stays unusable: the last result says how. -/
theorem stateAfter_apart {reason : ProbeFailure} (hfailed : c.stateAfter history = .failed reason)
    {earlier : List (WallTime × ProbeResult)} {last : WallTime × ProbeResult}
    (hapart : SuccessesApart (earlier ++ [last])) :
    c.stateAfter (history ++ (earlier ++ [last])) =
      match last.2 with
      | .failure reason => .failed reason
      | .success _ => .untested := by
  induction earlier using List.reverseRecOn generalizing last with
  | nil =>
    obtain ⟨time, result⟩ := last
    rw [List.nil_append]
    cases result with
    | success rtt => rw [stateAfter_success, hfailed]
    | failure reason =>
      rw [stateAfter_failure, hfailed]
      rfl
  | append_singleton earlier before ih =>
    rw [successesApart_append_singleton] at hapart
    have hbefore := ih hapart.1
    have hpair := hapart.2 before (by simp)
    obtain ⟨time, result⟩ := last
    rw [← List.append_assoc]
    cases result with
    | success rtt =>
      rw [stateAfter_success, hbefore]
      cases hresult : before.2 with
      | success other => simp [hresult, ProbeResult.isSuccess] at hpair
      | failure reason => rfl
    | failure reason =>
      rw [stateAfter_failure, if_neg]
      rintro ⟨husable, -⟩
      rw [hbefore] at husable
      split at husable <;> cases husable

lemma not_usable_of_apart {reason : ProbeFailure} (hfailed : c.stateAfter history = .failed reason)
    {more : List (WallTime × ProbeResult)} (hapart : SuccessesApart more) :
    (c.stateAfter (history ++ more)).isUsable = false := by
  cases more using List.reverseRecOn with
  | nil =>
    rw [List.append_nil, hfailed]
    rfl
  | append_singleton earlier last =>
    rw [stateAfter_apart hfailed hapart]
    split <;> rfl

lemma usable_of_firstPair {reason : ProbeFailure} (hfailed : c.stateAfter history = .failed reason)
    {more : List (WallTime × ProbeResult)} (hpair : EndsFirstPair more) :
    (c.stateAfter (history ++ more)).isUsable = true := by
  obtain ⟨earlier, ⟨time, result⟩, ⟨time', result'⟩, rfl, hfirst, hsecond, hapart⟩ := hpair
  have huntested := stateAfter_apart hfailed hapart
  cases result with
  | failure reason => cases hfirst
  | success rtt =>
    cases result' with
    | failure reason => cases hsecond
    | success rtt' =>
      rw [List.append_cons earlier, ← List.append_assoc, stateAfter_success, huntested]
      exact c.isUsable_grade rtt'

/-- A failed candidate becomes usable exactly with the first two successes in a row. -/
theorem first_usable_iff {reason : ProbeFailure} (hfailed : c.stateAfter history = .failed reason)
    (more : List (WallTime × ProbeResult)) :
    ((c.stateAfter (history ++ more)).isUsable = true ∧
        ∀ earlier, earlier <+: more → earlier ≠ more → (c.stateAfter (history ++ earlier)).isUsable = false) ↔
      EndsFirstPair more := by
  constructor
  · rintro ⟨husable, hfirst⟩
    have hpaired : ¬SuccessesApart more := fun hapart => by
      rw [not_usable_of_apart hfailed hapart] at husable
      cases husable
    obtain ⟨earlier, hprefix, hpair⟩ := exists_firstPair hpaired
    by_cases hwhole : earlier = more
    · exact hwhole ▸ hpair
    · have hunusable := hfirst earlier hprefix hwhole
      rw [usable_of_firstPair hfailed hpair] at hunusable
      cases hunusable
  · intro hpair
    refine ⟨usable_of_firstPair hfailed hpair, fun earlier hprefix hproper => ?_⟩
    obtain ⟨before, first, second, rfl, -, -, hapart⟩ := hpair
    rw [List.append_cons before] at hprefix hproper
    obtain ⟨rest, hrest⟩ := (List.prefix_concat_iff.mp hprefix).resolve_left hproper
    rw [← hrest] at hapart
    exact not_usable_of_apart hfailed hapart.left_of_append

/-- The hysteresis of a classifier, after any results. A usable candidate keeps its state and its measured time
until the failures since its last success are as many as the threshold, and then has the last reason. A failed
candidate becomes usable exactly with the first two successes in a row, and until then has the last reason after
a failure and is untested after a success. After a success that finds it not failed, it is graded. -/
theorem hysteresis (threshold : UInt32) (ceiling : Span) (history : List (WallTime × ProbeResult)) :
    let c := create threshold ceiling
    let needed := max 1 threshold.toNat
    ((c.stateAfter history).isUsable = true → ∀ failures : List (WallTime × ProbeFailure),
        (failuresSince history + failures.length < needed →
          c.stateAfter (history ++ failureResults failures) = c.stateAfter history) ∧
        (needed ≤ failuresSince history + failures.length → ∀ last ∈ failures.getLast?,
          c.stateAfter (history ++ failureResults failures) = .failed last.2)) ∧
      (∀ reason, c.stateAfter history = .failed reason →
        (∀ earlier last, SuccessesApart (earlier ++ [last]) →
          c.stateAfter (history ++ (earlier ++ [last])) =
            match last.2 with
            | .failure reason => .failed reason
            | .success _ => .untested) ∧
        ∀ more, ((c.stateAfter (history ++ more)).isUsable = true ∧
            ∀ earlier, earlier <+: more → earlier ≠ more →
              (c.stateAfter (history ++ earlier)).isUsable = false) ↔
          EndsFirstPair more) ∧
      (∀ time rtt, (∀ reason, c.stateAfter history ≠ .failed reason) →
        c.stateAfter (history ++ [(time, .success rtt)]) =
          if rtt ≤ ceiling then .qualified rtt else .unqualified rtt) := by
  intro c needed
  have hneeded : c.failureThreshold.toNat = needed := toNat_failureThreshold threshold ceiling
  refine ⟨fun husable failures => ?_, fun reason hfailed => ⟨fun earlier last hapart => ?_, ?_⟩, ?_⟩
  · rw [← hneeded]
    exact stateAfter_failures husable failures
  · exact stateAfter_apart hfailed hapart
  · exact first_usable_iff hfailed
  · intro time rtt hgraded
    have hgrade : c.grade rtt = if rtt ≤ ceiling then .qualified rtt else .unqualified rtt := by
      rw [grade, qualityCeiling_create]
      simp only [Span.le_def, Span.lt_def]
      split <;> split <;> first | rfl | omega
    rw [stateAfter_success, ← hgrade]
    split
    · rename_i reason hfailed
      exact absurd hfailed (hgraded reason)
    · rfl

/-- With a threshold of two, a candidate that had one failure keeps its time, and a second one fails it. It is
untested after one more success and graded after the next. -/
theorem hysteresis_of_two :
    let c := create 2 (Span.ofMillis 500)
    let history := [(0, .success (Span.ofMillis 40)), (0, .failure (.connect "refused"))]
    let dead := history ++ failureResults [(0, .timeout (Span.ofMillis 100))]
    let back := [(0, .success (Span.ofMillis 60)), (0, .success (Span.ofMillis 700))]
    c.stateAfter history = .qualified (Span.ofMillis 40) ∧
      c.stateAfter dead = .failed (.timeout (Span.ofMillis 100)) ∧
      (c.stateAfter (dead ++ back)).isUsable = true := by
  intro c history dead back
  have hstate : c.stateAfter history = .qualified (Span.ofMillis 40) := by decide +kernel
  have hdead : c.stateAfter dead = .failed (.timeout (Span.ofMillis 100)) :=
    ((hysteresis 2 (Span.ofMillis 500) history).1 (by rw [hstate]; rfl)
      [(0, .timeout (Span.ofMillis 100))]).2 (by decide) _ rfl
  have hback : EndsFirstPair back := ⟨[], _, _, rfl, rfl, rfl, List.isChain_singleton _⟩
  exact ⟨hstate, hdead, (((hysteresis 2 (Span.ofMillis 500) dead).2.1 _ hdead).2 back |>.mpr hback).1⟩

end Classifier

end OutboundWatch
