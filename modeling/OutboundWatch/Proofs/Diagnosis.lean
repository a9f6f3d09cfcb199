import Mathlib.Data.List.DropRight
import Mathlib.Data.Nat.Digits.Lemmas
import OutboundWatch.Proofs.Magnitudes
import OutboundWatch.Proofs.Validity

/-!
# What the validation reports

A configuration can break each rule in one way only, so that what is wrong with it is a set of violations. The
validation lists this set: each violation once, the settings first and then the candidates, each in their order.
-/

namespace OutboundWatch

namespace Binary64

/-- A number of `[0, 1)`. The zero with a sign is one. -/
structure IsFraction (x : Binary64) : Prop where
  number : x.isNaN = false
  nonneg : x.negative = true → x.units = 0
  below_one : x.units < unitsPerOne

lemma units_lt_unitsPerOne_iff (x : Binary64) :
    x.units < unitsPerOne ↔ x.magnitude < 1023 * patternsPerExponent := by
  have hpatterns : patternsPerExponent = 2 ^ 52 := by decide
  have hone : oneExponent = 1074 := rfl
  have hfraction : x.magnitude % patternsPerExponent < 2 ^ 52 := by
    rw [← hpatterns]
    exact Nat.mod_lt _ (by decide)
  rw [← Nat.div_lt_iff_lt_mul (by decide), unitsPerOne_eq]
  unfold units
  dsimp only
  generalize x.magnitude / patternsPerExponent = exponent at *
  generalize x.magnitude % patternsPerExponent = fraction at *
  rw [hpatterns]
  split
  · rename_i hzero
    have hless : fraction < 2 ^ oneExponent :=
      hfraction.trans_le (Nat.pow_le_pow_right (by decide) (by omega))
    simp [hless, hzero]
  · rename_i hpositive
    rw [Nat.shiftLeft_eq]
    constructor
    · -- From the exponent of one on, the leading bit alone counts as many units as one has.
      contrapose!
      intro hlarge
      calc 2 ^ oneExponent ≤ 2 ^ (52 + (exponent - 1)) := Nat.pow_le_pow_right (by decide) (by omega)
        _ = 2 ^ 52 * 2 ^ (exponent - 1) := Nat.pow_add ..
        _ ≤ (2 ^ 52 + fraction) * 2 ^ (exponent - 1) := Nat.mul_le_mul_right _ (Nat.le_add_right _ _)
    · intro hsmall
      calc (2 ^ 52 + fraction) * 2 ^ (exponent - 1) < 2 ^ 53 * 2 ^ (exponent - 1) :=
            Nat.mul_lt_mul_of_pos_right (by omega) (by positivity)
        _ = 2 ^ (53 + (exponent - 1)) := (Nat.pow_add ..).symm
        _ ≤ 2 ^ oneExponent := Nat.pow_le_pow_right (by decide) (by omega)

lemma units_eq_zero_iff (x : Binary64) : x.units = 0 ↔ x.magnitude = 0 := by
  have hpatterns : patternsPerExponent = 4503599627370496 := rfl
  refine ⟨fun hunits => ?_, units_of_magnitude_zero⟩
  have hsplit := Nat.div_add_mod x.magnitude patternsPerExponent
  unfold units at hunits
  dsimp only at hunits
  split at hunits
  · rename_i hexponent
    rw [hexponent, hunits] at hsplit
    omega
  · rw [Nat.shiftLeft_eq, Nat.mul_eq_zero] at hunits
    have hpower : 2 ^ (x.magnitude / patternsPerExponent - 1) ≠ 0 := by positivity
    omega

/-- The membership that is computed on patterns is that of the numbers they stand for. -/
theorem inUnitInterval_iff (x : Binary64) : x.inUnitInterval = true ↔ x.IsFraction := by
  have hzero : zero.isNaN = false ∧ zero.orderKey = 0 := by decide
  have hone : one.isNaN = false ∧ one.orderKey = 4607182418800017408 := by decide +kernel
  have hbound : 1023 * patternsPerExponent = 4607182418800017408 := by decide
  have hiff : x.inUnitInterval = true ↔
      x.isNaN = false ∧ 0 ≤ x.orderKey ∧ x.orderKey < 4607182418800017408 := by
    rw [inUnitInterval, le, lt, hzero.1, hzero.2, hone.1, hone.2]
    cases x.isNaN <;> simp
  rw [hiff]
  unfold orderKey
  constructor
  · rintro ⟨hnumber, hlower, hupper⟩
    refine ⟨hnumber, fun hnegative => ?_, ?_⟩
    · rw [if_pos hnegative] at hlower
      rw [units_eq_zero_iff]
      omega
    · rw [units_lt_unitsPerOne_iff, hbound]
      split at hupper
      · rename_i hnegative
        rw [if_pos hnegative] at hlower
        omega
      · omega
  · rintro ⟨hnumber, hnonneg, hbelow⟩
    rw [units_lt_unitsPerOne_iff, hbound] at hbelow
    rw [units_eq_zero_iff] at hnonneg
    refine ⟨hnumber, ?_, ?_⟩
    · split
      · rename_i hnegative
        rw [hnonneg hnegative]
        decide
      · omega
    · split <;> omega

end Binary64

/-- What is left of a text without the white space at its ends. -/
def trimmed (s : String) : List Char := (s.toList.dropWhile isBlank).rdropWhile isBlank

lemma isBlankText_iff (s : String) : isBlankText s = true ↔ trimmed s = [] := by
  rw [trimmed, List.rdropWhile_eq_nil_iff, isBlankText, List.all_eq_true]
  constructor
  · intro hall c hc
    exact hall c ((List.dropWhile_suffix isBlank).subset hc)
  · intro hrest c hc
    rw [← List.takeWhile_append_dropWhile (p := isBlank) (l := s.toList), List.mem_append] at hc
    cases hc with
    | inl hfirst => exact List.mem_takeWhile_imp hfirst
    | inr hlater => exact hrest c hlater

/-- The rules for single settings. -/
inductive SettingRule where
  | intervalPositive
  | timeoutPositive
  | timeoutBelowInterval
  | concurrencyPositive
  | jitterFraction
  | thresholdPositive
  | ceilingPositive
  | ceilingWithinTimeout
  | marginFraction
  | metricsAddress
  deriving DecidableEq

namespace SettingRule

/-- The rules in the order of the settings. -/
def all : List SettingRule :=
  [intervalPositive, timeoutPositive, timeoutBelowInterval, concurrencyPositive, jitterFraction, thresholdPositive,
    ceilingPositive, ceilingWithinTimeout, marginFraction, metricsAddress]

/-- Whether a configuration breaks a rule. A setting that has to be positive and is not is compared with no
other one. -/
def BrokenIn (c : Config) : SettingRule → Prop
  | intervalPositive => c.probe.intervalMs = 0
  | timeoutPositive => c.probe.timeoutMs = 0
  | timeoutBelowInterval =>
    c.probe.timeoutMs ≠ 0 ∧ c.probe.intervalMs ≠ 0 ∧ c.probe.intervalMs ≤ c.probe.timeoutMs
  | concurrencyPositive => c.probe.concurrency = 0
  | jitterFraction => ¬c.probe.jitterRatio.IsFraction
  | thresholdPositive => c.classifier.failureThreshold = 0
  | ceilingPositive => c.classifier.qualityCeilingMs = 0
  | ceilingWithinTimeout =>
    c.classifier.qualityCeilingMs ≠ 0 ∧ c.probe.timeoutMs < c.classifier.qualityCeilingMs
  | marginFraction => ∃ ratio, c.selector.switchMargin = .relative ratio ∧ ¬ratio.IsFraction
  | metricsAddress =>
    c.reporting.metricsEnabled = true ∧ Net.isSocketAddress c.reporting.metricsAddress = false

def error : SettingRule → ValidationError
  | intervalPositive => ⟨"probe.interval_ms", "must be greater than 0"⟩
  | timeoutPositive => ⟨"probe.timeout_ms", "must be greater than 0"⟩
  | timeoutBelowInterval => ⟨"probe.timeout_ms", "must be less than probe.interval_ms"⟩
  | concurrencyPositive => ⟨"probe.concurrency", "must be greater than 0"⟩
  | jitterFraction => ⟨"probe.jitter_ratio", "must be in [0, 1)"⟩
  | thresholdPositive => ⟨"classifier.failure_threshold", "must be greater than 0"⟩
  | ceilingPositive => ⟨"classifier.quality_ceiling_ms", "must be greater than 0"⟩
  | ceilingWithinTimeout => ⟨"classifier.quality_ceiling_ms", "must not exceed probe.timeout_ms"⟩
  | marginFraction => ⟨"selector.switch_margin.relative", "must be in [0, 1)"⟩
  | metricsAddress => ⟨"observability.metrics_address", "must be a socket address"⟩

end SettingRule

/-- What can be wrong with a configuration. -/
inductive Violation where
  | setting (rule : SettingRule)
  | blankTag (index : Nat)
  | repeatedTag (index : Nat) (tag : String)
  | target (index : Nat) (reason : TargetError)

namespace Violation

def candidateField (index : Nat) (part : String) : String := "candidates[" ++ toString index ++ "]" ++ part

def error : Violation → ValidationError
  | setting rule => rule.error
  | blankTag index => ⟨candidateField index ".tag", "must not be empty"⟩
  | repeatedTag index tag => ⟨candidateField index ".tag", "duplicate tag '" ++ tag ++ "'"⟩
  | target index reason => ⟨candidateField index ".target", reason.message⟩

/-- The place of a violation: the settings come first, the tag of a candidate before its target. -/
def place : Violation → Nat × Nat
  | setting rule => (0, SettingRule.all.idxOf rule)
  | blankTag index => (index + 1, 0)
  | repeatedTag index _ => (index + 1, 0)
  | target index _ => (index + 1, 1)

def Precedes (v w : Violation) : Prop :=
  v.place.1 < w.place.1 ∨ (v.place.1 = w.place.1 ∧ v.place.2 < w.place.2)

/-- Whether something is wrong with one of some candidates. The first candidate with a tag does not repeat it. -/
def OccursIn (candidates : List CandidateConfig) : Violation → Prop
  | setting _ => False
  | blankTag index => ∃ candidate, candidates[index]? = some candidate ∧ trimmed candidate.tag = []
  | repeatedTag index tag => trimmed tag ≠ [] ∧
    (∃ candidate, candidates[index]? = some candidate ∧ candidate.tag = tag) ∧
    ∃ earlier < index, ∃ candidate, candidates[earlier]? = some candidate ∧ candidate.tag = tag
  | target index reason =>
    ∃ candidate, candidates[index]? = some candidate ∧ candidate.target.check = .error reason

/-- Whether something is wrong with a configuration. -/
def Occurs (c : Config) (v : Violation) : Prop :=
  (∃ rule, v = setting rule ∧ rule.BrokenIn c) ∨ v.OccursIn c.candidates

end Violation

/-- The errors are those of all violations of a kind, each once and in order. -/
def Lists (kind : Violation → Prop) (errors : List ValidationError) : Prop :=
  ∃ violations : List Violation, violations.Pairwise Violation.Precedes ∧ (∀ v, v ∈ violations ↔ kind v) ∧
    errors = violations.map Violation.error

namespace Lists

variable {kind other : Violation → Prop} {errors more : List ValidationError}

lemma none (hnone : ∀ v, ¬kind v) : Lists kind [] := ⟨[], .nil, by simpa using hnone, rfl⟩

lemma one (v : Violation) : Lists (· = v) [v.error] := ⟨[v], List.pairwise_singleton .., by simp, rfl⟩

lemma congr (h : Lists kind errors) (hsame : ∀ v, kind v ↔ other v) : Lists other errors := by
  obtain ⟨violations, hordered, hmem, rfl⟩ := h
  exact ⟨violations, hordered, fun v => (hmem v).trans (hsame v), rfl⟩

lemma append (h : Lists kind errors) (hmore : Lists other more)
    (hordered : ∀ v w, kind v → other w → v.Precedes w) :
    Lists (fun v => kind v ∨ other v) (errors ++ more) := by
  obtain ⟨xs, hxs, hmem, rfl⟩ := h
  obtain ⟨ys, hys, hmem', rfl⟩ := hmore
  refine ⟨xs ++ ys, ?_, ?_, List.map_append.symm⟩
  · rw [List.pairwise_append]
    refine ⟨hxs, hys, fun v hv w hw => ?_⟩
    exact hordered v w ((hmem v).mp hv) ((hmem' w).mp hw)
  · intro v
    rw [List.mem_append, hmem, hmem']

end Lists

namespace Config

/-- A violation of one of some rules for single settings. -/
def Breaks (c : Config) (rules : List SettingRule) (v : Violation) : Prop :=
  ∃ rule ∈ rules, v = .setting rule ∧ rule.BrokenIn c

variable {c : Config} {rules later : List SettingRule} {errors more : List ValidationError}

lemma lists_errorIf (rule : SettingRule) (bad : Bool) (hbad : bad = true ↔ rule.BrokenIn c) :
    Lists (c.Breaks [rule]) (errorIf bad rule.error.field rule.error.message) := by
  unfold errorIf Breaks
  simp only [List.mem_singleton, exists_eq_left]
  cases bad with
  | false =>
    have hkept : ¬rule.BrokenIn c := fun hbroken => Bool.false_ne_true (hbad.mpr hbroken)
    exact .none fun v hv => hkept hv.2
  | true => exact (Lists.one (.setting rule)).congr fun v => (and_iff_left (hbad.mp rfl)).symm

lemma lists_append (h : Lists (c.Breaks rules) errors) (hmore : Lists (c.Breaks later) more)
    (hordered : ∀ r ∈ rules, ∀ s ∈ later, SettingRule.all.idxOf r < SettingRule.all.idxOf s) :
    Lists (c.Breaks (rules ++ later)) (errors ++ more) := by
  apply (h.append hmore ?_).congr
  · intro v
    simp only [Breaks, List.mem_append, or_and_right, exists_or]
  · rintro v w ⟨r, hr, rfl, -⟩ ⟨s, hs, rfl, -⟩
    exact .inr ⟨rfl, hordered r hr s hs⟩

/-- Of two rules for a setting, the second one is asked only if the first one is kept. -/
lemma ite_errorIf (zero : Prop) [Decidable zero] (bad : Bool) (field first second : String) :
    (if zero then [⟨field, first⟩] else errorIf bad field second) =
      errorIf (decide zero) field first ++ errorIf (decide (¬zero) && bad) field second := by
  by_cases hzero : zero <;> simp [errorIf, hzero]

lemma lists_probeErrors (c : Config) :
    Lists (c.Breaks [.intervalPositive, .timeoutPositive, .timeoutBelowInterval, .concurrencyPositive,
      .jitterFraction]) (probeErrors c.probe) := by
  unfold probeErrors
  rw [ite_errorIf, ← List.append_assoc]
  have hinterval := lists_errorIf (c := c) .intervalPositive (c.probe.intervalMs == 0) beq_iff_eq
  have htimeout := lists_errorIf (c := c) .timeoutPositive (decide (c.probe.timeoutMs = 0)) decide_eq_true_iff
  have hbelow := lists_errorIf (c := c) .timeoutBelowInterval
    (decide (¬c.probe.timeoutMs = 0) &&
      (decide (0 < c.probe.intervalMs) && decide (c.probe.intervalMs ≤ c.probe.timeoutMs))) (by
    simp [SettingRule.BrokenIn, UInt64.pos_iff_ne_zero])
  have hconcurrency := lists_errorIf (c := c) .concurrencyPositive (c.probe.concurrency == 0) beq_iff_eq
  have hjitter := lists_errorIf (c := c) .jitterFraction (!c.probe.jitterRatio.inUnitInterval) (by
    simp [SettingRule.BrokenIn, ← Binary64.inUnitInterval_iff])
  refine lists_append (lists_append (lists_append (lists_append hinterval htimeout ?_) hbelow ?_) hconcurrency ?_)
    hjitter ?_ <;> decide

lemma lists_classifierErrors (c : Config) :
    Lists (c.Breaks [.thresholdPositive, .ceilingPositive, .ceilingWithinTimeout])
      (classifierErrors c.classifier c.probe.timeoutMs) := by
  unfold classifierErrors
  rw [ite_errorIf, ← List.append_assoc]
  have hthreshold := lists_errorIf (c := c) .thresholdPositive (c.classifier.failureThreshold == 0) beq_iff_eq
  have hceiling := lists_errorIf (c := c) .ceilingPositive
    (decide (c.classifier.qualityCeilingMs = 0)) decide_eq_true_iff
  have hwithin := lists_errorIf (c := c) .ceilingWithinTimeout
    (decide (¬c.classifier.qualityCeilingMs = 0) &&
      decide (c.probe.timeoutMs < c.classifier.qualityCeilingMs)) (by simp [SettingRule.BrokenIn])
  refine lists_append (lists_append hthreshold hceiling ?_) hwithin ?_ <;> decide

lemma lists_marginErrors (c : Config) :
    Lists (c.Breaks [.marginFraction]) (marginErrors c.selector.switchMargin) := by
  cases hmargin : c.selector.switchMargin with
  | relative ratio =>
    apply lists_errorIf .marginFraction
    simp [SettingRule.BrokenIn, hmargin, ← Binary64.inUnitInterval_iff]
  | absoluteMs ms =>
    refine .none ?_
    rintro v ⟨rule, hrule, -, hbroken⟩
    rw [List.mem_singleton.mp hrule] at hbroken
    obtain ⟨ratio, hrelative, -⟩ := hbroken
    rw [hmargin] at hrelative
    cases hrelative

lemma lists_reportingErrors (c : Config) :
    Lists (c.Breaks [.metricsAddress]) (reportingErrors c.reporting) := by
  apply lists_errorIf .metricsAddress
  simp [SettingRule.BrokenIn]

/-- The errors before those of the candidates are those of the single settings. -/
theorem lists_settingErrors (c : Config) :
    Lists (c.Breaks SettingRule.all) (probeErrors c.probe ++ classifierErrors c.classifier c.probe.timeoutMs ++
      marginErrors c.selector.switchMargin ++ reportingErrors c.reporting) := by
  refine lists_append (lists_append (lists_append (lists_probeErrors c) (lists_classifierErrors c) ?_)
    (lists_marginErrors c) ?_) (lists_reportingErrors c) ?_ <;> decide

section Candidates

variable {candidates : List CandidateConfig} {candidate : CandidateConfig} {index : Nat} {seen : List String}

/-- The tags that are kept when the scan has come to an index: those of the candidates before it that have one. -/
def SeenBefore (candidates : List CandidateConfig) (index : Nat) (seen : List String) : Prop :=
  ∀ tag, trimmed tag ≠ [] →
    (tag ∈ seen ↔ ∃ earlier < index, ∃ candidate, candidates[earlier]? = some candidate ∧ candidate.tag = tag)

lemma SeenBefore.next (hseen : SeenBefore candidates index seen) (hat : candidates[index]? = some candidate) :
    SeenBefore candidates (index + 1) (if isBlankText candidate.tag then seen else candidate.tag :: seen) := by
  intro tag hnamed
  have hhere : (∃ other, candidates[index]? = some other ∧ other.tag = tag) ↔ tag = candidate.tag := by
    simp [hat, eq_comm]
  have hkept : tag ∈ (if isBlankText candidate.tag then seen else candidate.tag :: seen) ↔
      tag ∈ seen ∨ tag = candidate.tag := by
    split
    · rename_i hblank
      have hother : tag ≠ candidate.tag := by
        rintro rfl
        exact hnamed ((isBlankText_iff _).mp hblank)
      simp [hother]
    · rw [List.mem_cons, or_comm]
  rw [hkept, hseen tag hnamed, ← hhere]
  simp only [Nat.lt_succ_iff_lt_or_eq, or_and_right, exists_or, exists_eq_left]

/-- What can be wrong with the tag of a candidate. -/
lemma occursIn_tag_iff (hat : candidates[index]? = some candidate) (v : Violation) :
    (v.OccursIn candidates ∧ v.place = (index + 1, 0)) ↔
      (v = .blankTag index ∧ trimmed candidate.tag = []) ∨
      (v = .repeatedTag index candidate.tag ∧ trimmed candidate.tag ≠ [] ∧
        ∃ earlier < index, ∃ other, candidates[earlier]? = some other ∧ other.tag = candidate.tag) := by
  constructor
  · rintro ⟨hoccurs, hplace⟩
    cases v with
    | setting rule => exact hoccurs.elim
    | blankTag i =>
      obtain rfl : i = index := by simpa [Violation.place] using hplace
      obtain ⟨other, hother, hblank⟩ := hoccurs
      rw [hat] at hother
      cases hother
      exact .inl ⟨rfl, hblank⟩
    | repeatedTag i tag =>
      obtain rfl : i = index := by simpa [Violation.place] using hplace
      obtain ⟨hnamed, ⟨other, hother, rfl⟩, hearlier⟩ := hoccurs
      rw [hat] at hother
      cases hother
      exact .inr ⟨rfl, hnamed, hearlier⟩
    | target i reason => simp [Violation.place] at hplace
  · rintro (⟨rfl, hblank⟩ | ⟨rfl, hnamed, hearlier⟩)
    · exact ⟨⟨candidate, hat, hblank⟩, rfl⟩
    · exact ⟨⟨hnamed, ⟨candidate, hat, rfl⟩, hearlier⟩, rfl⟩

/-- What can be wrong with the target of a candidate. -/
lemma occursIn_target_iff (hat : candidates[index]? = some candidate) (v : Violation) :
    (v.OccursIn candidates ∧ v.place = (index + 1, 1)) ↔
      ∃ reason, v = .target index reason ∧ candidate.target.check = .error reason := by
  constructor
  · rintro ⟨hoccurs, hplace⟩
    cases v with
    | target i reason =>
      obtain rfl : i = index := by simpa [Violation.place] using hplace
      obtain ⟨other, hother, hcheck⟩ := hoccurs
      rw [hat] at hother
      cases hother
      exact ⟨reason, rfl, hcheck⟩
    | setting rule => exact hoccurs.elim
    | blankTag i => simp [Violation.place] at hplace
    | repeatedTag i tag => simp [Violation.place] at hplace
  · rintro ⟨reason, rfl, hcheck⟩
    exact ⟨⟨candidate, hat, hcheck⟩, rfl⟩

lemma lists_tagErrors (hseen : SeenBefore candidates index seen) (hat : candidates[index]? = some candidate) :
    Lists (fun v => v.OccursIn candidates ∧ v.place = (index + 1, 0))
      (tagErrors ("candidates[" ++ toString index ++ "]") seen candidate.tag) := by
  unfold tagErrors errorIf
  split
  · rename_i hblank
    rw [isBlankText_iff] at hblank
    refine (Lists.one (.blankTag index)).congr fun v => ?_
    simp [occursIn_tag_iff hat, hblank]
  · rename_i hnamed
    rw [isBlankText_iff] at hnamed
    split
    · rename_i hearlier
      rw [List.contains_iff_mem, hseen _ hnamed] at hearlier
      refine (Lists.one (.repeatedTag index candidate.tag)).congr fun v => ?_
      rw [occursIn_tag_iff hat, or_iff_right fun hblank => hnamed hblank.2]
      exact (and_iff_left ⟨hnamed, hearlier⟩).symm
    · rename_i hfirst
      rw [List.contains_iff_mem, hseen _ hnamed] at hfirst
      refine .none fun v hv => ?_
      cases (occursIn_tag_iff hat v).mp hv with
      | inl hblank => exact hnamed hblank.2
      | inr hrepeated => exact hfirst hrepeated.2.2

lemma lists_targetErrors (hat : candidates[index]? = some candidate) :
    Lists (fun v => v.OccursIn candidates ∧ v.place = (index + 1, 1))
      (targetErrors ("candidates[" ++ toString index ++ "]") candidate.target) := by
  unfold targetErrors
  split
  · rename_i hcheck
    refine .none fun v hv => ?_
    obtain ⟨reason, -, herror⟩ := (occursIn_target_iff hat v).mp hv
    rw [hcheck] at herror
    cases herror
  · rename_i reason hcheck
    refine (Lists.one (.target index reason)).congr fun v => ?_
    rw [occursIn_target_iff hat]
    simp [hcheck]

/-- A violation in a candidate is about its tag or its target, and the candidate is one of the list. -/
lemma place_of_occursIn {v : Violation} (h : v.OccursIn candidates) :
    ∃ i < candidates.length, v.place = (i + 1, 0) ∨ v.place = (i + 1, 1) := by
  cases v with
  | setting rule => exact h.elim
  | blankTag i =>
    obtain ⟨candidate, hat, -⟩ := h
    exact ⟨i, (List.getElem?_eq_some_iff.mp hat).1, .inl rfl⟩
  | repeatedTag i tag =>
    obtain ⟨-, ⟨candidate, hat, -⟩, -⟩ := h
    exact ⟨i, (List.getElem?_eq_some_iff.mp hat).1, .inl rfl⟩
  | target i reason =>
    obtain ⟨candidate, hat, -⟩ := h
    exact ⟨i, (List.getElem?_eq_some_iff.mp hat).1, .inr rfl⟩

/-- The scan from an index on reports what is wrong with the candidates from there on. The induction is on the
candidates that are left, and the kept tags are those of the candidates before them. -/
theorem lists_candidateErrors {rest : List CandidateConfig} (hrest : candidates.drop index = rest)
    (hseen : SeenBefore candidates index seen) :
    Lists (fun v => v.OccursIn candidates ∧ index < v.place.1) (candidateErrors index seen rest) := by
  induction rest generalizing index seen with
  | nil =>
    refine .none fun v hv => ?_
    obtain ⟨hoccurs, hlater⟩ := hv
    obtain ⟨i, hi, hplace | hplace⟩ := place_of_occursIn hoccurs <;>
      · rw [hplace] at hlater
        rw [List.drop_eq_nil_iff] at hrest
        omega
  | cons candidate rest ih =>
    have hat : candidates[index]? = some candidate := by
      rw [← List.head?_drop, hrest, List.head?_cons]
    have hnext : candidates.drop (index + 1) = rest := by
      rw [← List.tail_drop, hrest, List.tail_cons]
    unfold candidateErrors
    apply (((lists_tagErrors hseen hat).append (lists_targetErrors hat) ?_).append
      (ih hnext (hseen.next hat)) ?_).congr
    · intro v
      rw [← and_or_left, ← and_or_left]
      apply and_congr_right
      intro hoccurs
      obtain ⟨i, -, hplace | hplace⟩ := place_of_occursIn hoccurs <;>
        · rw [hplace]
          simp only [Prod.mk.injEq, and_true, zero_ne_one, one_ne_zero, and_false, or_false, false_or]
          omega
    · rintro v w ⟨-, hv⟩ ⟨-, hw⟩
      exact .inr (by simp [hv, hw])
    · rintro v w (⟨-, hv⟩ | ⟨-, hv⟩) ⟨-, hw⟩ <;>
        · apply Or.inl
          rwa [hv]

end Candidates

/-- The validation lists what is wrong. -/
theorem lists_errors (c : Config) : Lists (Violation.Occurs c) c.errors := by
  have hseen : SeenBefore c.candidates 0 [] := fun tag _ => by simp
  apply ((lists_settingErrors c).append (lists_candidateErrors (List.drop_zero ..) hseen) ?_).congr
  · intro v
    have hall : ∀ rule : SettingRule, rule ∈ SettingRule.all := by
      intro rule
      cases rule <;> decide
    have hplace : v.OccursIn c.candidates → 0 < v.place.1 := by
      intro hoccurs
      obtain ⟨i, -, hplace | hplace⟩ := place_of_occursIn hoccurs <;> simp [hplace]
    simp only [Breaks, Violation.Occurs, hall, true_and, and_iff_left_of_imp hplace]
  · rintro v w ⟨rule, -, rfl, -⟩ ⟨-, hlater⟩
    exact .inl hlater

end Config

namespace Violation

/-- Digits and the bracket after them say which candidate a field is of. -/
lemma candidateField_inj {i j : Nat} {p q : String} (hp : ']' ∉ p.toList)
    (h : candidateField i p = candidateField j q) : i = j ∧ p = q := by
  have hdigits (n : Nat) : ']' ∉ (toString n).toList := by
    intro hin
    have hdigit := Nat.isDigit_of_mem_toDigits (by decide) (by decide) (Nat.toList_repr (n := n) ▸ hin)
    exact absurd hdigit (by decide)
  have hchars := congrArg String.toList h
  have hbracket : "]".toList = [']'] := by decide
  simp only [candidateField, String.toList_append, List.append_assoc, List.append_cancel_left_eq, hbracket,
    List.singleton_append] at hchars
  obtain ⟨hindex, -, hpart⟩ := (List.append_cons_inj_of_notMem (hdigits i) hp).mp hchars
  refine ⟨?_, String.toList_injective hpart⟩
  have hsame : Nat.toDigits 10 i = Nat.toDigits 10 j := by
    rw [← Nat.toList_repr, ← Nat.toList_repr]
    exact hindex
  calc i = Nat.ofDigitChars 10 (Nat.toDigits 10 i) 0 := (Nat.ofDigitChars_toDigits (by decide) (by decide)).symm
    _ = Nat.ofDigitChars 10 (Nat.toDigits 10 j) 0 := by rw [hsame]
    _ = j := Nat.ofDigitChars_toDigits (by decide) (by decide)

end Violation

namespace SettingRule

/-- Two rules of one field exclude one another. -/
lemma exclusive {c : Config} {r s : SettingRule} (hr : r.BrokenIn c) (hs : s.BrokenIn c)
    (hless : all.idxOf r < all.idxOf s) : r.error.field ≠ s.error.field := by
  have hpairs : r.error.field = s.error.field → all.idxOf r < all.idxOf s →
      (r = timeoutPositive ∧ s = timeoutBelowInterval) ∨ (r = ceilingPositive ∧ s = ceilingWithinTimeout) := by
    cases r <;> cases s <;> decide +kernel
  intro hfield
  obtain ⟨rfl, rfl⟩ | ⟨rfl, rfl⟩ := hpairs hfield hless
  · exact hs.1 hr
  · exact hs.1 hr

end SettingRule

namespace Violation

variable {c : Config} {v w : Violation}

/-- Which part of a candidate a violation is about. -/
lemma field_of_occursIn {candidates : List CandidateConfig} (h : v.OccursIn candidates) :
    ∃ index, ∃ part ∈ [".tag", ".target"],
      v.place = (index + 1, [".tag", ".target"].idxOf part) ∧ v.error.field = candidateField index part := by
  cases v with
  | setting rule => exact h.elim
  | blankTag index => exact ⟨index, ".tag", by simp, rfl, rfl⟩
  | repeatedTag index tag => exact ⟨index, ".tag", by simp, rfl, rfl⟩
  | target index reason => exact ⟨index, ".target", by simp, rfl, rfl⟩

lemma setting_field_ne (rule : SettingRule) (index : Nat) (part : String) :
    rule.error.field ≠ candidateField index part := by
  intro hfield
  have hstart : (candidateField index part).toList.take 2 = ['c', 'a'] := by
    simp [candidateField]
  rw [← hfield] at hstart
  revert hstart
  cases rule <;> decide

/-- No field is reported twice. -/
lemma Precedes.field_ne (h : v.Precedes w) (hv : v.Occurs c) (hw : w.Occurs c) : v.error.field ≠ w.error.field := by
  obtain ⟨r, rfl, hr⟩ | hv := hv
  · obtain ⟨s, rfl, hs⟩ | hw := hw
    · exact SettingRule.exclusive hr hs (h.resolve_left (lt_irrefl _)).2
    · obtain ⟨index, part, -, -, hfield⟩ := field_of_occursIn hw
      rw [hfield]
      apply setting_field_ne
  · obtain ⟨i, part, hpart, hplace, hfield⟩ := field_of_occursIn hv
    obtain ⟨s, rfl, -⟩ | hw := hw
    · unfold Precedes at h
      rw [hplace] at h
      simp [place] at h
    · obtain ⟨j, part', -, hplace', hfield'⟩ := field_of_occursIn hw
      have hbracket : ∀ name ∈ [".tag", ".target"], ']' ∉ name.toList := by decide
      rw [hfield, hfield']
      intro hsame
      obtain ⟨rfl, rfl⟩ := candidateField_inj (hbracket part hpart) hsame
      unfold Precedes at h
      rw [hplace, hplace'] at h
      omega

end Violation

namespace Config

/-- The validation reports what is wrong and nothing else: each violation once, the settings in their order, then the
candidates in theirs with the tag before the target, and no field twice. It reports nothing exactly about the
configurations whose times and numbers are in range, whose ratios are numbers of `[0, 1)`, whose metrics have an
address, and whose candidates have distinct names and targets that pass their check. -/
theorem errors_are_violations (c : Config) :
    (∃ violations : List Violation, violations.Pairwise Violation.Precedes ∧
      (∀ v, v ∈ violations ↔ v.Occurs c) ∧ c.errors = violations.map Violation.error) ∧
    (c.errors.map ValidationError.field).Nodup ∧
    (c.errors = [] ↔
      (0 < c.probe.timeoutMs ∧ c.probe.timeoutMs < c.probe.intervalMs ∧ 0 < c.probe.concurrency ∧
        c.probe.jitterRatio.IsFraction) ∧
      (0 < c.classifier.failureThreshold ∧ 0 < c.classifier.qualityCeilingMs ∧
        c.classifier.qualityCeilingMs ≤ c.probe.timeoutMs) ∧
      (∀ ratio, c.selector.switchMargin = .relative ratio → ratio.IsFraction) ∧
      (c.reporting.metricsEnabled = true → Net.isSocketAddress c.reporting.metricsAddress = true) ∧
      (∀ candidate ∈ c.candidates, trimmed candidate.tag ≠ []) ∧ (c.candidates.map CandidateConfig.tag).Nodup ∧
      ∀ candidate ∈ c.candidates, candidate.target.check = .ok ()) := by
  obtain ⟨violations, hordered, hmem, herrors⟩ := c.lists_errors
  refine ⟨⟨violations, hordered, hmem, herrors⟩, ?_, ?_⟩
  · rw [herrors, List.map_map, List.Nodup, List.pairwise_map]
    apply hordered.imp_of_mem
    intro v w hv hw hprecedes
    exact hprecedes.field_ne ((hmem v).mp hv) ((hmem w).mp hw)
  · have hnamed (tag : String) : isBlankText tag = false ↔ trimmed tag ≠ [] := by
      rw [← Bool.not_eq_true, isBlankText_iff]
    rw [errors_eq_nil_iff]
    constructor
    · rintro ⟨hprobe, hclassifier, hmargin, haddress, hformed⟩
      refine ⟨⟨hprobe.timeout_pos, hprobe.timeout_lt, hprobe.concurrency_pos, ?_⟩,
        ⟨hclassifier.threshold_pos, hclassifier.ceiling_pos, hclassifier.ceiling_le⟩, ?_, haddress, ?_,
        hformed.distinct, hformed.checked⟩
      · exact (Binary64.inUnitInterval_iff _).mp hprobe.jitterRatio
      · exact fun ratio hratio => (Binary64.inUnitInterval_iff _).mp (hmargin ratio hratio)
      · exact fun candidate hin => (hnamed _).mp (hformed.named candidate hin)
    · rintro ⟨⟨htimeout, hless, hconcurrency, hjitter⟩, ⟨hthreshold, hceiling, hwithin⟩, hmargin, haddress, htags,
        hdistinct, hchecked⟩
      refine ⟨⟨htimeout, hless, hconcurrency, ?_⟩, ⟨hthreshold, hceiling, hwithin⟩, ?_, haddress,
        ⟨hdistinct, ?_, hchecked⟩⟩
      · exact (Binary64.inUnitInterval_iff _).mpr hjitter
      · exact fun ratio hratio => (Binary64.inUnitInterval_iff _).mpr (hmargin ratio hratio)
      · exact fun candidate hin => (hnamed _).mpr (htags candidate hin)

example :
    let nan : Binary64 := ⟨0x7FF8000000000000⟩
    let candidate (tag : String) : CandidateConfig := ⟨tag, .tcp "127.0.0.1:80"⟩
    let config : Config := {
      probe := { timeoutMs := 0, jitterRatio := nan }
      classifier := ⟨3, 1000⟩
      selector := ⟨.relative nan⟩
      candidates := ["a", " ", "a", " ", "b"].map candidate }
    config.errors.map ValidationError.field =
      ["probe.timeout_ms", "probe.jitter_ratio", "classifier.quality_ceiling_ms", "selector.switch_margin.relative",
        "candidates[1].tag", "candidates[2].tag", "candidates[3].tag"] := by decide +kernel

end Config

end OutboundWatch
