import OutboundWatch.Proofs.Refusals

/-!
# Reconciling again

A list may define a tag more than once. A candidate that is replaced gets the last definition of its tag, a
candidate that is added the first one. So a list that was admitted can still ask for something when it comes
again at once: whatever it has just added under a definition that is not the last one is replaced. Nothing else
is ever touched, and when the list comes for the third time, it asks for nothing.
-/

namespace OutboundWatch

namespace Observatory

/-- The definition with which a missing tag is added; the first one counts. -/
def firstFor (desired : List CandidateConfig) (tag : String) : Option CandidateConfig :=
  desired.find? fun candidate => candidate.tag == tag

/-- The first and the last definition of a tag have different targets. -/
def IsDivided (desired : List CandidateConfig) (tag : String) : Prop :=
  (firstFor desired tag).map CandidateConfig.target ≠ (wantedFor desired tag).map CandidateConfig.target

/-- The definition behind the registration of a tag, if the tag is registered. -/
def sourceOf (o : Observatory) (tag : String) : Option (Option TargetConfig) :=
  (o.registry.get? tag).map Candidate.source

/-- The definition of a registered tag after a reconciliation, from the one before. -/
def sourceAfter (desired : List CandidateConfig) (tag : String) (source : Option TargetConfig) :
    Option (Option TargetConfig) :=
  match wantedFor desired tag with
  | some candidate => some (some candidate.target)
  | none => if source.isSome then none else some none

variable {o : Observatory} {desired : List CandidateConfig}

lemma firstFor_eq_none_iff (desired : List CandidateConfig) (tag : String) :
    firstFor desired tag = none ↔ tag ∉ desired.map CandidateConfig.tag := by
  simp [firstFor, List.find?_eq_none]

lemma firstFor_of_unwanted {tag : String} (h : wantedFor desired tag = none) : firstFor desired tag = none :=
  (firstFor_eq_none_iff desired tag).mpr ((wantedFor_eq_none_iff desired tag).mp h)

lemma exists_firstFor {tag : String} {last : CandidateConfig} (h : wantedFor desired tag = some last) :
    ∃ first, firstFor desired tag = some first := by
  refine Option.ne_none_iff_exists'.mp fun hnone => ?_
  have hunwanted := (wantedFor_eq_none_iff desired tag).mpr ((firstFor_eq_none_iff desired tag).mp hnone)
  cases h.symm.trans hunwanted

lemma exists_wantedFor {candidate : CandidateConfig} (hmem : candidate ∈ desired) :
    ∃ last, wantedFor desired candidate.tag = some last :=
  Option.ne_none_iff_exists'.mp fun hnone =>
    (wantedFor_eq_none_iff _ _).mp hnone (List.mem_map_of_mem hmem)

lemma sourceOf_eq_none_iff (o : Observatory) (tag : String) :
    o.sourceOf tag = none ↔ o.registry.contains tag = false := by
  simp [sourceOf, Registry.contains, TagMap.contains, Registry.get?]

lemma contains_of_sourceOf {tag : String} {source : Option TargetConfig} (h : o.sourceOf tag = some source) :
    o.registry.contains tag = true := by
  obtain ⟨c, hc, -⟩ := Option.map_eq_some_iff.mp h
  exact (Registry.contains_iff _ _).mpr ⟨c, hc⟩

lemma sourceOf_enroll (o : Observatory) (tag : String) (target : ProbeTarget) (source : Option TargetConfig)
    (key : String) :
    (o.enroll tag target source).sourceOf key = if key = tag then some source else o.sourceOf key := by
  rw [sourceOf, get?_registry_enroll]
  split <;> rfl

lemma isDropped_eq (o : Observatory) (desired : List CandidateConfig) (tag : String) :
    o.isDropped desired tag = ((wantedFor desired tag).isNone && (o.sourceOf tag).any Option.isSome) := by
  unfold isDropped sourceOf
  cases o.registry.get? tag <;> cases wantedFor desired tag <;> rfl

lemma isReplaced_eq (o : Observatory) (desired : List CandidateConfig) (tag : String) :
    o.isReplaced desired tag = (wantedFor desired tag).any fun candidate =>
      (o.sourceOf tag).any fun source => decide (source ≠ some candidate.target) := by
  unfold isReplaced sourceOf
  cases o.registry.get? tag <;> cases wantedFor desired tag <;> rfl

/-- Only an admissible list is admitted, and only by a running observatory. -/
lemma admissible_of_ok (ho : Reachable o) {report : ReconcileReport}
    (hok : (o.reconcile desired).result = .ok report) :
    o.isStopped = false ∧ firstInvalid? desired = none ∧ Admissible desired := by
  cases hgoing : o.isStopped with
  | true => simp [reconcile, hgoing] at hok
  | false =>
    cases hnone : firstInvalid? desired with
    | some e => simp [reconcile, hgoing, hnone] at hok
    | none =>
      refine ⟨rfl, rfl, fun candidate hmem => ?_, checked_of_firstInvalid? hnone⟩
      rw [← Bool.not_eq_true]
      intro hblank
      have herror := ((reconcile_outcome ho hgoing hnone).2 ⟨candidate, hmem, hblank⟩).1
      cases herror.symm.trans hok

/-- What is missing is added with its first definition, and what is there keeps its definition. -/
lemma sourceOf_addMissing (ho : Reachable o) (hgoing : o.isStopped = false) (hdesired : Admissible desired)
    (report : ReconcileReport) :
    let filled := o.addMissing report desired
    (∃ r, filled.result = .ok r) ∧ ∀ tag, filled.after.sourceOf tag =
      (o.sourceOf tag).or ((firstFor desired tag).map fun candidate => some candidate.target) := by
  induction desired generalizing o report with
  | nil =>
    refine ⟨⟨report, rfl⟩, fun tag => ?_⟩
    simp [addMissing, firstFor]
  | cons candidate rest ih =>
    obtain ⟨hnamed, hrestNamed⟩ := List.forall_mem_cons.mp hdesired.named
    obtain ⟨hchecked, hrestChecked⟩ := List.forall_mem_cons.mp hdesired.checked
    have hrest : Admissible rest := ⟨hrestNamed, hrestChecked⟩
    dsimp only
    rcases addMissing_turn ho hgoing hchecked report rest with ⟨hpresent, -, heq⟩ | ⟨-, hblank, -⟩ |
      ⟨habsent, -, target, report', hmade, hafter, hresult⟩
    · obtain ⟨hok, hsources⟩ := ih ho hgoing hrest report
      rw [heq]
      refine ⟨hok, fun tag => (hsources tag).trans ?_⟩
      by_cases htag : candidate.tag = tag
      · subst htag
        obtain ⟨c, hc⟩ := (Registry.contains_iff _ _).mp hpresent
        simp [sourceOf, hc]
      · simp [firstFor, htag]
    · cases hnamed.symm.trans hblank
    · obtain ⟨hok, hsources⟩ := ih (hmade.reachable ho) (hmade.isStopped_eq.trans hgoing) hrest report'
      rw [hafter, hresult]
      refine ⟨hok, fun tag => (hsources tag).trans ?_⟩
      rw [sourceOf_enroll]
      by_cases htag : candidate.tag = tag
      · subst htag
        have hnone := (sourceOf_eq_none_iff o candidate.tag).mpr habsent
        simp [hnone, firstFor]
      · simp [Ne.symm htag, firstFor, htag]

/-- What the removals and replacements leave of the definitions. -/
lemma sourceOf_reconcileTags (ho : Reachable o) (hgoing : o.isStopped = false) (hdesired : Admissible desired)
    (report : ReconcileReport) (tag : String) :
    (o.reconcileTags desired report o.registry.tags).after.sourceOf tag =
      (o.sourceOf tag).bind (sourceAfter desired tag) := by
  obtain ⟨-, houtside, hinside, -⟩ := reconcileTags_eq hdesired o.registry.nodup_tags
    (fun key hkey => (o.registry.mem_tags_iff key).mp hkey) ho.ordered hgoing report
  generalize (o.reconcileTags desired report o.registry.tags).after = p at houtside hinside
  cases hc : o.registry.get? tag with
  | none =>
    have hunregistered : tag ∉ o.registry.tags := by simp [Registry.mem_tags_iff, hc]
    have hview := houtside tag hunregistered
    have hsame : p.registry.get? tag = o.registry.get? tag := congrArg TagView.candidate hview
    simp [sourceOf, hsame, hc]
  | some c =>
    have hturn := hinside tag ((o.registry.mem_tags_iff tag).mpr ⟨c, hc⟩)
    cases hwanted : wantedFor desired tag with
    | some candidate =>
      obtain ⟨d, hd, hsource⟩ := hturn.registered hwanted
      have hd : p.registry.get? tag = some d := hd
      simp [sourceOf, sourceAfter, hc, hd, hwanted, hsource]
    | none =>
      by_cases hsource : c.source = none
      · have hsame : p.registry.get? tag = o.registry.get? tag :=
          congrArg TagView.candidate (hturn.untouched hc hwanted hsource)
        simp [sourceOf, sourceAfter, hsame, hc, hwanted, hsource]
      · have hgone : p.registry.get? tag = none := (hturn.ended hc hwanted hsource).candidate
        simp [sourceOf, sourceAfter, hgone, hc, hwanted, Option.isSome_iff_ne_none.mpr hsource]

/-- What a reconciliation makes of the definitions. -/
theorem sourceOf_reconcile (ho : Reachable o) (hgoing : o.isStopped = false)
    (hnone : firstInvalid? desired = none) (hdesired : Admissible desired) (tag : String) :
    (o.reconcile desired).after.sourceOf tag =
      match o.sourceOf tag with
      | some source => sourceAfter desired tag source
      | none => (firstFor desired tag).map fun candidate => some candidate.target := by
  obtain ⟨middle, hmiddle⟩ := (reconcileTags_outcome ho hgoing hdesired.checked o.registry.nodup_tags
    ReconcileReport.empty).1
  have hsource := sourceOf_reconcileTags ho hgoing hdesired ReconcileReport.empty tag
  have hmade := Registrations.reconcileTags o desired ReconcileReport.empty o.registry.tags
  generalize hkept : o.reconcileTags desired ReconcileReport.empty o.registry.tags = kept at *
  obtain ⟨⟨report, hreport⟩, hfilled⟩ := sourceOf_addMissing (hmade.reachable ho)
    (hmade.isStopped_eq.trans hgoing) hdesired middle
  have hparts := reconcile_of_ok hgoing hnone (congrArg Effect.after hkept)
    ((congrArg Effect.result hkept).trans hmiddle) hreport
  rw [hparts.1, hfilled, hsource]
  cases o.sourceOf tag with
  | none => rfl
  | some source =>
    -- What was dropped is not in the list, so that nothing is added in its place.
    unfold sourceAfter
    cases hwanted : wantedFor desired tag with
    | some candidate => simp
    | none => simp [firstFor_of_unwanted hwanted]

/-- After a reconciliation nobody is to be dropped and whoever is wanted is there. Who would be replaced now was
missing before and has two definitions. -/
lemma settled_reconcile (ho : Reachable o) (hgoing : o.isStopped = false) (hnone : firstInvalid? desired = none)
    (hdesired : Admissible desired) :
    let p := (o.reconcile desired).after
    (∀ tag, p.isDropped desired tag = false) ∧
      (∀ candidate ∈ desired, p.registry.contains candidate.tag = true) ∧
      ∀ tag, p.isReplaced desired tag = true ↔ o.registry.contains tag = false ∧ IsDivided desired tag := by
  have hsource := sourceOf_reconcile ho hgoing hnone hdesired
  dsimp only
  refine ⟨fun tag => ?_, fun candidate hmem => ?_, fun tag => ?_⟩
  · rw [isDropped_eq, hsource]
    cases hwanted : wantedFor desired tag with
    | some candidate => rfl
    | none =>
      cases o.sourceOf tag with
      | none => simp [firstFor_of_unwanted hwanted]
      | some source => cases source <;> simp [sourceAfter, hwanted]
  · obtain ⟨last, hwanted⟩ := exists_wantedFor hmem
    obtain ⟨first, hfirst⟩ := exists_firstFor hwanted
    have hthere := hsource candidate.tag
    cases hbefore : o.sourceOf candidate.tag with
    | none =>
      rw [hbefore, hfirst] at hthere
      exact contains_of_sourceOf hthere
    | some source =>
      simp only [hbefore, sourceAfter, hwanted] at hthere
      exact contains_of_sourceOf hthere
  · rw [isReplaced_eq, hsource, ← sourceOf_eq_none_iff, IsDivided]
    cases hwanted : wantedFor desired tag with
    | none => simp [firstFor_of_unwanted hwanted]
    | some last =>
      obtain ⟨first, hfirst⟩ := exists_firstFor hwanted
      cases hbefore : o.sourceOf tag with
      | some source => simp [sourceAfter, hwanted]
      | none => simp [hfirst]

/-- When whoever is wanted is there, nothing is added. -/
lemma addMissing_of_present (report : ReconcileReport)
    (hpresent : ∀ candidate ∈ desired, o.registry.contains candidate.tag = true) :
    o.addMissing report desired = ⟨o, [], .ok report⟩ := by
  induction desired with
  | nil => rfl
  | cons candidate rest ih =>
    obtain ⟨hfirst, hrest⟩ := List.forall_mem_cons.mp hpresent
    rw [addMissing, if_pos hfirst]
    exact ih hrest

/-- When no registration is to be ended, the first loop does nothing. -/
lemma reconcileTags_of_kept (report : ReconcileReport) {tags : List String}
    (hkept : ∀ tag ∈ tags, o.isRevoked desired tag = false) :
    o.reconcileTags desired report tags = ⟨o, [], .ok report⟩ := by
  induction tags with
  | nil => rfl
  | cons tag rest ih =>
    obtain ⟨hfirst, hrest⟩ := List.forall_mem_cons.mp hkept
    obtain ⟨hdropped, hreplaced⟩ := Bool.or_eq_false_iff.mp hfirst
    unfold isDropped at hdropped
    unfold isReplaced at hreplaced
    rw [reconcileTags]
    split
    · exact ih hrest
    · rename_i c hc
      split
      · rename_i hwanted
        rw [hc, hwanted] at hdropped
        simp only [hdropped, Bool.false_eq_true, if_false]
        exact ih hrest
      · rename_i last hwanted
        rw [hc, hwanted] at hreplaced
        rw [if_pos (by simpa using hreplaced)]
        exact ih hrest

/-- A reconciliation that has nothing to do does nothing. -/
lemma reconcile_of_settled (hgoing : o.isStopped = false) (hnone : firstInvalid? desired = none)
    (hpresent : ∀ candidate ∈ desired, o.registry.contains candidate.tag = true)
    (hkept : ∀ tag, o.isRevoked desired tag = false) :
    o.reconcile desired = ⟨o, [], .ok ReconcileReport.empty⟩ := by
  have htags : o.reconcileTags desired ReconcileReport.empty o.registry.tags =
      ⟨o, [], .ok ReconcileReport.empty⟩ := reconcileTags_of_kept _ fun tag _ => hkept tag
  have hempty : ReconcileReport.empty.isEmpty = true := rfl
  simp [reconcile, hgoing, hnone, htags, addMissing_of_present _ hpresent, hempty]

/-- A reconciliation that has nobody to drop or to add replaces whoever has another definition, and nobody else
is touched. -/
lemma reconcile_of_present (ho : Reachable o) (hgoing : o.isStopped = false)
    (hnone : firstInvalid? desired = none) (hdesired : Admissible desired)
    (hkept : ∀ tag, o.isDropped desired tag = false)
    (hpresent : ∀ candidate ∈ desired, o.registry.contains candidate.tag = true) :
    (o.reconcile desired).result = .ok ⟨[], [], o.registry.tags.filter (o.isReplaced desired)⟩ ∧
      ∀ tag, o.isReplaced desired tag = false → (o.reconcile desired).after.view tag = o.view tag := by
  obtain ⟨-, houtside, hinside, hresult⟩ := reconcileTags_eq hdesired o.registry.nodup_tags
    (fun key hkey => (o.registry.mem_tags_iff key).mp hkey) ho.ordered hgoing ReconcileReport.empty
  have hdropped : o.registry.tags.filter (o.isDropped desired) = [] :=
    List.filter_eq_nil_iff.mpr fun tag _ => by simp [hkept tag]
  generalize hp : (o.reconcileTags desired ReconcileReport.empty o.registry.tags).after = p
    at houtside hinside
  have hstill : ∀ candidate ∈ desired, p.registry.contains candidate.tag = true := by
    intro candidate hmem
    obtain ⟨c, hc⟩ := (Registry.contains_iff _ _).mp (hpresent candidate hmem)
    obtain ⟨last, hwanted⟩ := exists_wantedFor hmem
    obtain ⟨d, hd, -⟩ := (hinside _ ((o.registry.mem_tags_iff _).mpr ⟨c, hc⟩)).registered hwanted
    exact (Registry.contains_iff _ _).mpr ⟨d, hd⟩
  have hfilled := addMissing_of_present (o := p)
    { ReconcileReport.empty with
      removed := ReconcileReport.empty.removed ++ o.registry.tags.filter (o.isDropped desired)
      replaced := ReconcileReport.empty.replaced ++ o.registry.tags.filter (o.isReplaced desired) } hstill
  obtain ⟨hafter, hreport⟩ := reconcile_of_ok hgoing hnone hp hresult (congrArg Effect.result hfilled)
  rw [hafter, hreport, hfilled, hdropped]
  refine ⟨rfl, fun tag hsame => ?_⟩
  cases hc : o.registry.get? tag with
  | none =>
    have hunregistered : tag ∉ o.registry.tags := by simp [Registry.mem_tags_iff, hc]
    exact houtside tag hunregistered
  | some c =>
    have hturn := hinside tag ((o.registry.mem_tags_iff tag).mpr ⟨c, hc⟩)
    have hdrops := hkept tag
    cases hwanted : wantedFor desired tag with
    | none =>
      simp only [isDropped, hc, hwanted, Option.isSome_eq_false_iff, Option.isNone_iff_eq_none] at hdrops
      exact hturn.untouched hc hwanted hdrops
    | some last =>
      simp only [isReplaced, hc, hwanted, ne_eq, decide_eq_false_iff_not, not_not] at hsame
      exact hturn.kept hc hwanted hsame

end Observatory

/-- A list that was admitted is admitted again at once. It then replaces whatever it has added under a
definition that is not the last one of its tag, and touches nothing else. If there is no such tag, nothing
changes at all, and nothing ever changes when the list comes for the third time. -/
theorem Reachable.reconcile_again {o : Observatory} (ho : Reachable o) {desired : List CandidateConfig}
    {report : ReconcileReport} (hok : (o.reconcile desired).result = .ok report) :
    let first := (o.reconcile desired).after
    let again := first.reconcile desired
    ∃ replaced, again.result = .ok ⟨[], [], replaced⟩ ∧ replaced.Pairwise (· < ·) ∧
      (∀ tag, tag ∈ replaced ↔ o.registry.contains tag = false ∧ Observatory.IsDivided desired tag) ∧
      (∀ tag, tag ∉ replaced → again.after.view tag = first.view tag) ∧
      (replaced = [] → again = ⟨first, [], .ok ReconcileReport.empty⟩) ∧
      again.after.reconcile desired = ⟨again.after, [], .ok ReconcileReport.empty⟩ := by
  obtain ⟨hgoing, hnone, hdesired⟩ := Observatory.admissible_of_ok ho hok
  intro first again
  have hmade : Registrations o first := .reconcile o desired
  have hmadeAgain : Registrations first again.after := .reconcile first desired
  have hfirst : Reachable first := hmade.reachable ho
  have hgoingFirst : first.isStopped = false := hmade.isStopped_eq.trans hgoing
  obtain ⟨hkept, hpresent, hreplaced⟩ := Observatory.settled_reconcile ho hgoing hnone hdesired
  obtain ⟨hkeptAgain, hpresentAgain, hreplacedAgain⟩ :=
    Observatory.settled_reconcile hfirst hgoingFirst hnone hdesired
  obtain ⟨hresult, hframe⟩ :=
    Observatory.reconcile_of_present hfirst hgoingFirst hnone hdesired hkept hpresent
  have hmem : ∀ tag, tag ∈ first.registry.tags.filter (first.isReplaced desired) ↔
      first.isReplaced desired tag = true := fun tag =>
    ⟨fun h => (List.mem_filter.mp h).2, fun h =>
      List.mem_filter.mpr ⟨Observatory.mem_tags_of_isRevoked (Bool.or_eq_true_iff.mpr (.inr h)), h⟩⟩
  refine ⟨_, hresult, first.registry.candidates.sortedTags_ascending.filter _,
    fun tag => (hmem tag).trans (hreplaced tag), fun tag htag => ?_, fun hnobody => ?_, ?_⟩
  · rw [hmem, Bool.not_eq_true] at htag
    exact hframe tag htag
  · refine Observatory.reconcile_of_settled hgoingFirst hnone hpresent fun tag => ?_
    have hsame : first.isReplaced desired tag = false := by
      rw [← Bool.not_eq_true, ← hmem, hnobody]
      exact List.not_mem_nil
    rw [Observatory.isRevoked, hkept, hsame]
    rfl
  · -- Whoever is wanted was there the second time already.
    refine Observatory.reconcile_of_settled (hmadeAgain.isStopped_eq.trans hgoingFirst) hnone hpresentAgain
      fun tag => ?_
    have hsame : again.after.isReplaced desired tag = false := by
      rw [← Bool.not_eq_true, hreplacedAgain]
      rintro ⟨habsent, hdivided⟩
      have hunnamed : tag ∉ desired.map CandidateConfig.tag := by
        rintro hnamed
        obtain ⟨candidate, hwanted, rfl⟩ := List.mem_map.mp hnamed
        cases habsent.symm.trans (hpresent candidate hwanted)
      refine hdivided ?_
      rw [(Observatory.firstFor_eq_none_iff _ _).mpr hunnamed,
        (Observatory.wantedFor_eq_none_iff _ _).mpr hunnamed]
    rw [Observatory.isRevoked, hkeptAgain, hsame]
    rfl

/-- A tag that is defined three times is added with its first definition, gets its last one the second time and
keeps it the third time. -/
theorem reconcile_thrice :
    let o := Observatory.create Config.bare World.desert
    let desired : List CandidateConfig :=
      [⟨"a", .tcp "127.0.0.1:9"⟩, ⟨"a", .tcp "127.0.0.1:7"⟩, ⟨"a", .tcp "127.0.0.1:10"⟩]
    let first := o.reconcile desired
    let again := first.after.reconcile desired
    first.result = .ok ⟨["a"], [], []⟩ ∧ again.result = .ok ⟨[], [], ["a"]⟩ ∧
      again.after.reconcile desired = ⟨again.after, [], .ok ReconcileReport.empty⟩ := by
  intro o desired first again
  have hok : first.result = .ok ⟨["a"], [], []⟩ := by decide +kernel
  have hagain : again.result = .ok ⟨[], [], ["a"]⟩ := by decide +kernel
  obtain ⟨replaced, -, -, -, -, -, hthird⟩ := reachable_bare.reconcile_again hok
  exact ⟨hok, hagain, hthird⟩

/-- A list that defines a tag in two ways is admitted, and when it comes again at once, the candidate that it
has added is replaced by a new one. -/
theorem reconcile_restarts :
    let o := Observatory.create Config.bare World.desert
    let desired : List CandidateConfig := [⟨"a", .tcp "127.0.0.1:9"⟩, ⟨"a", .tcp "127.0.0.1:10"⟩]
    let first := o.reconcile desired
    let again := first.after.reconcile desired
    Reachable o ∧ o.isStopped = false ∧ first.result = .ok ⟨["a"], [], []⟩ ∧
      again.result = .ok ⟨[], [], ["a"]⟩ ∧
      (first.after.registry.get? "a").map Candidate.generation = some 1 ∧
      (again.after.registry.get? "a").map Candidate.generation = some 2 := by
  intro o desired first again
  exact ⟨reachable_bare, rfl, by decide +kernel, by decide +kernel, by decide +kernel, by decide +kernel⟩

end OutboundWatch
