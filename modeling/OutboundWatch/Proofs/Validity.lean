import OutboundWatch.Proofs.Reconciliation

/-!
# What a valid configuration promises

The validation reports nothing exactly when every setting is in its range and the candidates are well formed. For
the candidates this is an induction along the list, over the tags that the scan has seen.
-/

namespace OutboundWatch

namespace Config

@[simp] lemma errorIf_eq_nil_iff (bad : Bool) (field message : String) :
    errorIf bad field message = [] ↔ bad = false := by
  unfold errorIf
  cases bad <;> simp

variable (index : Nat) (seen : List String)

lemma tagErrors_eq_nil_iff (field : String) (tag : String) :
    tagErrors field seen tag = [] ↔ isBlankText tag = false ∧ tag ∉ seen := by
  unfold tagErrors
  cases hblank : isBlankText tag <;> simp

lemma targetErrors_eq_nil_iff (field : String) (target : TargetConfig) :
    targetErrors field target = [] ↔ target.check = .ok () := by
  unfold targetErrors
  cases hcheck : target.check <;> simp

/-- The scan of the candidates finds nothing wrong if they are well formed and have none of the seen tags. -/
theorem candidateErrors_eq_nil_iff (candidates : List CandidateConfig) :
    candidateErrors index seen candidates = [] ↔
      WellFormed candidates ∧ ∀ candidate ∈ candidates, candidate.tag ∉ seen := by
  induction candidates generalizing index seen with
  | nil =>
    simp only [candidateErrors, List.not_mem_nil, false_implies, implies_true, and_true, true_iff]
    exact ⟨List.nodup_nil, by simp, by simp⟩
  | cons candidate rest ih =>
    simp only [candidateErrors, List.append_eq_nil_iff, tagErrors_eq_nil_iff, targetErrors_eq_nil_iff, ih]
    constructor
    · rintro ⟨⟨⟨hnamed, hnew⟩, hchecked⟩, hrest, hapart⟩
      rw [if_neg (by simp [hnamed])] at hapart
      have htag : candidate.tag ∉ rest.map CandidateConfig.tag := by
        intro hin
        obtain ⟨other, hother, heq⟩ := List.mem_map.mp hin
        exact hapart other hother (heq ▸ List.mem_cons_self)
      refine ⟨⟨List.nodup_cons.mpr ⟨htag, hrest.distinct⟩, ?_, ?_⟩, ?_⟩
      · exact List.forall_mem_cons.mpr ⟨hnamed, hrest.named⟩
      · exact List.forall_mem_cons.mpr ⟨hchecked, hrest.checked⟩
      · exact List.forall_mem_cons.mpr
          ⟨hnew, fun other hother hin => hapart other hother (List.mem_cons_of_mem _ hin)⟩
    · rintro ⟨hformed, hapart⟩
      obtain ⟨hnamed, hrestNamed⟩ := List.forall_mem_cons.mp hformed.named
      obtain ⟨hchecked, hrestChecked⟩ := List.forall_mem_cons.mp hformed.checked
      obtain ⟨hnew, hrestNew⟩ := List.forall_mem_cons.mp hapart
      obtain ⟨htag, hdistinct⟩ := List.nodup_cons.mp hformed.distinct
      refine ⟨⟨⟨hnamed, hnew⟩, hchecked⟩, ⟨hdistinct, hrestNamed, hrestChecked⟩, fun other hother hin => ?_⟩
      rw [if_neg (by simp [hnamed])] at hin
      rcases List.mem_cons.mp hin with heq | hseen
      · exact htag (heq ▸ List.mem_map_of_mem hother)
      · exact hrestNew other hother hseen

end Config

namespace ProbeSettings

/-- A round trip ends before the next probe is due, and somebody may probe. -/
structure InRange (s : ProbeSettings) : Prop where
  timeout_pos : 0 < s.timeoutMs
  timeout_lt : s.timeoutMs < s.intervalMs
  concurrency_pos : 0 < s.concurrency
  jitterRatio : s.jitterRatio.inUnitInterval = true

lemma probeErrors_eq_nil_iff (s : ProbeSettings) : Config.probeErrors s = [] ↔ s.InRange := by
  unfold Config.probeErrors
  simp only [List.append_eq_nil_iff, Config.errorIf_eq_nil_iff, beq_eq_false_iff_ne, ne_eq, Bool.not_eq_false']
  constructor
  · rintro ⟨⟨⟨hinterval, htimeout⟩, hconcurrency⟩, hjitter⟩
    split at htimeout
    · cases htimeout
    · rename_i hpositive
      simp only [Config.errorIf_eq_nil_iff, Bool.and_eq_false_iff, decide_eq_false_iff_not] at htimeout
      refine ⟨?_, ?_, ?_, hjitter⟩ <;> simp only [UInt64.lt_iff_toNat_lt, UInt64.le_iff_toNat_le,
        ← UInt64.toNat_inj, UInt64.toNat_zero] at * <;> omega
  · rintro ⟨hpositive, hless, hconcurrency, hjitter⟩
    have hne : ¬s.timeoutMs = 0 := by
      rintro hzero
      simp [hzero] at hpositive
    refine ⟨⟨⟨?_, ?_⟩, ?_⟩, hjitter⟩
    · simp only [UInt64.lt_iff_toNat_lt, ← UInt64.toNat_inj, UInt64.toNat_zero] at *
      omega
    · rw [if_neg hne]
      simp only [Config.errorIf_eq_nil_iff, Bool.and_eq_false_iff, decide_eq_false_iff_not,
        UInt64.lt_iff_toNat_lt, UInt64.le_iff_toNat_le] at *
      omega
    · simp only [UInt64.lt_iff_toNat_lt, ← UInt64.toNat_inj, UInt64.toNat_zero] at *
      omega

end ProbeSettings

namespace ClassifierSettings

/-- Failures count, and no time within the ceiling is beyond the timeout. -/
structure InRange (s : ClassifierSettings) (timeoutMs : UInt64) : Prop where
  threshold_pos : 0 < s.failureThreshold
  ceiling_pos : 0 < s.qualityCeilingMs
  ceiling_le : s.qualityCeilingMs ≤ timeoutMs

lemma classifierErrors_eq_nil_iff (s : ClassifierSettings) (timeoutMs : UInt64) :
    Config.classifierErrors s timeoutMs = [] ↔ s.InRange timeoutMs := by
  unfold Config.classifierErrors
  simp only [List.append_eq_nil_iff, Config.errorIf_eq_nil_iff, beq_eq_false_iff_ne, ne_eq]
  constructor
  · rintro ⟨hthreshold, hceiling⟩
    split at hceiling
    · cases hceiling
    · rename_i hpositive
      simp only [Config.errorIf_eq_nil_iff, decide_eq_false_iff_not] at hceiling
      refine ⟨?_, ?_, ?_⟩ <;> simp only [UInt64.lt_iff_toNat_lt, UInt64.le_iff_toNat_le,
        UInt32.lt_iff_toNat_lt, ← UInt64.toNat_inj, ← UInt32.toNat_inj, UInt64.toNat_zero, UInt32.toNat_zero] at *
        <;> omega
  · rintro ⟨hthreshold, hpositive, hle⟩
    have hne : ¬s.qualityCeilingMs = 0 := by
      rintro hzero
      simp [hzero] at hpositive
    refine ⟨?_, ?_⟩
    · simp only [UInt32.lt_iff_toNat_lt, ← UInt32.toNat_inj, UInt32.toNat_zero] at *
      omega
    · rw [if_neg hne]
      simp only [Config.errorIf_eq_nil_iff, decide_eq_false_iff_not, UInt64.lt_iff_toNat_lt,
        UInt64.le_iff_toNat_le] at *
      omega

end ClassifierSettings

namespace Config

/-- Every setting is in its range, and the candidates are well formed. -/
structure Valid (c : Config) : Prop where
  probe : c.probe.InRange
  classifier : c.classifier.InRange c.probe.timeoutMs
  margin : ∀ ratio, c.selector.switchMargin = .relative ratio → ratio.inUnitInterval = true
  address : c.reporting.metricsEnabled = true → Net.isSocketAddress c.reporting.metricsAddress = true
  candidates : WellFormed c.candidates

lemma marginErrors_eq_nil_iff (margin : SwitchMargin) :
    marginErrors margin = [] ↔ ∀ ratio, margin = .relative ratio → ratio.inUnitInterval = true := by
  cases margin <;> simp [marginErrors]

/-- The validation reports nothing exactly about valid configurations. -/
theorem errors_eq_nil_iff (c : Config) : c.errors = [] ↔ c.Valid := by
  have hreporting : reportingErrors c.reporting = [] ↔
      (c.reporting.metricsEnabled = true → Net.isSocketAddress c.reporting.metricsAddress = true) := by
    unfold reportingErrors
    rw [errorIf_eq_nil_iff]
    cases c.reporting.metricsEnabled <;> simp
  have hcandidates : candidateErrors 0 [] c.candidates = [] ↔ WellFormed c.candidates := by
    rw [candidateErrors_eq_nil_iff]
    simp
  unfold errors
  simp only [List.append_eq_nil_iff, ProbeSettings.probeErrors_eq_nil_iff,
    ClassifierSettings.classifierErrors_eq_nil_iff, marginErrors_eq_nil_iff, hreporting, hcandidates]
  constructor
  · rintro ⟨⟨⟨⟨hprobe, hclassifier⟩, hmargin⟩, haddress⟩, hformed⟩
    exact ⟨hprobe, hclassifier, hmargin, haddress, hformed⟩
  · rintro ⟨hprobe, hclassifier, hmargin, haddress, hformed⟩
    exact ⟨⟨⟨⟨hprobe, hclassifier⟩, hmargin⟩, haddress⟩, hformed⟩

end Config

end OutboundWatch
