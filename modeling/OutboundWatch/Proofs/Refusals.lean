import OutboundWatch.Proofs.Reconciliation

/-!
# Reconciliations that are refused

A reconciliation checks the targets of the whole list before it changes anything, but the names one by one,
when it registers. What is registered has a name, so that replacements never fail. The additions end at the
first candidate without a name, and what was done until then stays.
-/

namespace OutboundWatch

/-- Nothing is registered under a blank tag. -/
def Registry.Named (r : Registry) : Prop := ∀ tag c, r.get? tag = some c → isBlankText tag = false

/-- Whatever is registered under the tag has a generation that was not given out before `next`. -/
def Registry.NewSince (r : Registry) (next : Nat) (tag : String) : Prop :=
  next ≤ r.nextGeneration ∧ ∀ c, r.get? tag = some c → next ≤ c.generation

namespace Observatory

variable {o : Observatory}

lemma named_enroll (h : o.registry.Named) {tag : String} (hnamed : isBlankText tag = false)
    (target : ProbeTarget) (source : Option TargetConfig) : (o.enroll tag target source).registry.Named := by
  intro key c hc
  rw [get?_registry_enroll] at hc
  split at hc
  · rename_i hkey
    exact hkey ▸ hnamed
  · exact h key c hc

lemma named_dismiss (h : o.registry.Named) (tag : String) (generation : Nat) :
    (o.dismiss tag generation).registry.Named := by
  intro key c hc
  rw [get?_registry_dismiss] at hc
  split at hc
  · cases hc
  · exact h key c hc

/-- Every step but a reconciliation keeps what is registered named. -/
lemma named_perform? (h : o.registry.Named) {p : Observatory} {event : Event} {records : List Record}
    (hsingle : ∀ desired, event ≠ .reconcile desired) (happens : o.perform? event = some (p, records)) :
    p.registry.Named := by
  cases event with
  | register tag target =>
    rw [eq_of_perform?_effect happens]
    rcases o.register_cases tag target none with ⟨e, hrefused⟩ | ⟨-, hnamed, -, henrolled, -⟩
    · rw [hrefused]
      exact h
    · rw [henrolled]
      exact named_enroll h hnamed target none
  | registerConfigured candidate =>
    rw [eq_of_perform?_effect happens]
    rcases o.registerConfigured_cases candidate with ⟨e, hrefused⟩ | ⟨target, -, hnamed, -, henrolled, -⟩
    · rw [hrefused]
      exact h
    · rw [henrolled]
      exact named_enroll h hnamed target (some candidate.target)
  | unregister tag =>
    rw [eq_of_perform?_effect happens]
    exact o.unregister_keeps (P := fun q => q.registry.Named) tag h fun c _ => named_dismiss h tag c.generation
  | reconcile desired => exact absurd rfl (hsingle desired)
  | selectBest =>
    cases happens
    rcases o.selectBest_cases with hsame | ⟨chosen, -, -, hselected⟩
    · rw [hsame]
      exact h
    · rw [hselected]
      exact h
  | openConnection tag =>
    rw [eq_of_perform?_effect happens]
    rcases o.openConnection_cases tag with ⟨e, hrefused⟩ | ⟨-, -, hopened, -⟩
    · rw [hrefused]
      exact h
    · rw [hopened]
      exact h
  | stop =>
    cases happens
    rcases o.stop_cases with ⟨-, hsame⟩ | ⟨-, hstopped⟩
    · rw [hsame]
      exact h
    · rw [hstopped]
      exact h
  | cycle now id move =>
    obtain ⟨scheduler, -, rfl⟩ := perform?_cycle happens
    exact h
  | deliver now id =>
    obtain ⟨c, status, -, -, hdeliver⟩ := perform?_deliver happens
    rcases deliver?_cases hdeliver with ⟨feed, -, rfl⟩ | ⟨-, rfl⟩
    · exact h
    · exact h
  | publisher move =>
    obtain ⟨publisher, table, -, rfl⟩ := perform?_publisher happens
    exact h
  | connection move =>
    obtain ⟨drains, -, rfl⟩ := perform?_connection happens
    exact h
  | signal move =>
    cases happens
    exact h
  | proceedStop now =>
    obtain ⟨-, drains, stage, -, -, -, -, rfl⟩ := proceedStop?_cases happens
    exact h

end Observatory

theorem Reachable.named {o : Observatory} (ho : Reachable o) : o.registry.Named := by
  refine ho.invariant (P := fun o => o.registry.Named) ?_ fun _ _ _ _ hsingle h happens =>
    Observatory.named_perform? h hsingle happens
  intro config world tag c hc
  cases hc

namespace Registrations

variable {o p : Observatory}

lemma reachable (h : Registrations o p) (ho : Reachable o) : Reachable p := by
  obtain ⟨steps, run, -⟩ := h
  exact ho.run run

lemma isStopped_eq (h : Registrations o p) : p.isStopped = o.isStopped := by
  refine h.invariant (P := fun q => q.isStopped = o.isStopped) (fun q event r records hevent hq happens => ?_) rfl
  cases event with
  | registerConfigured candidate =>
    rw [Observatory.eq_of_perform?_effect happens]
    exact q.registerConfigured_keeps (P := fun r => r.isStopped = o.isStopped) candidate hq fun _ _ _ => hq
  | unregister tag =>
    rw [Observatory.eq_of_perform?_effect happens]
    exact q.unregister_keeps (P := fun r => r.isStopped = o.isStopped) tag hq fun _ _ => hq
  | _ => exact hevent.elim

/-- Further registrations have later generations still. -/
lemma newSince (h : Registrations o p) {next : Nat} {tag : String} (ho : o.registry.NewSince next tag) :
    p.registry.NewSince next tag := by
  refine h.invariant (P := fun q => q.registry.NewSince next tag)
    (fun q event r records hevent hq happens => ?_) ho
  obtain ⟨hnext, hnew⟩ := hq
  cases event with
  | registerConfigured candidate =>
    rw [Observatory.eq_of_perform?_effect happens]
    refine q.registerConfigured_keeps (P := fun r => r.registry.NewSince next tag) candidate ⟨hnext, hnew⟩
      fun target _ _ => ⟨Nat.le_succ_of_le hnext, ?_⟩
    intro c hc
    rw [Observatory.get?_registry_enroll] at hc
    split at hc
    · cases hc
      exact hnext
    · exact hnew c hc
  | unregister key =>
    rw [Observatory.eq_of_perform?_effect happens]
    refine q.unregister_keeps (P := fun r => r.registry.NewSince next tag) key ⟨hnext, hnew⟩
      fun d _ => ⟨hnext, ?_⟩
    intro c hc
    rw [Observatory.get?_registry_dismiss] at hc
    split at hc
    · cases hc
    · exact hnew c hc
  | _ => exact hevent.elim

end Registrations

lemma Registry.NewSince.mono {r : Registry} {first next : Nat} {tag : String} (h : r.NewSince next tag)
    (hle : first ≤ next) : r.NewSince first tag :=
  ⟨Nat.le_trans hle h.1, fun c hc => Nat.le_trans hle (h.2 c hc)⟩

/-- The wanted candidates before the first one without a name. -/
def namedPart (desired : List CandidateConfig) : List CandidateConfig :=
  desired.takeWhile fun candidate => !isBlankText candidate.tag

namespace Observatory

variable {o : Observatory} {desired : List CandidateConfig}

/-- Whether a reconciliation ends the registration of a tag, for good or for a new one. -/
def isRevoked (o : Observatory) (desired : List CandidateConfig) (tag : String) : Bool :=
  o.isDropped desired tag || o.isReplaced desired tag

lemma checked_of_firstInvalid? (hnone : firstInvalid? desired = none) :
    ∀ candidate ∈ desired, candidate.target.check = .ok () := by
  induction desired with
  | nil =>
    intro candidate hmem
    cases hmem
  | cons candidate rest ih =>
    simp only [firstInvalid?] at hnone
    split at hnone
    · cases hnone
    · rename_i hchecked
      exact List.forall_mem_cons.mpr ⟨hchecked, ih hnone⟩

/-- The turn of one tag never fails. Either it changes nothing, or the tag is registered anew or not at all
afterwards; no other registration changes. -/
lemma reconcileTags_turn (ho : Reachable o) (hgoing : o.isStopped = false)
    (hchecked : ∀ candidate ∈ desired, candidate.target.check = .ok ()) (report : ReconcileReport)
    (tag : String) (rest : List String) :
    ∃ p report' records, Registrations o p ∧ o.registry.nextGeneration ≤ p.registry.nextGeneration ∧
      (∀ key, key ≠ tag → p.registry.get? key = o.registry.get? key) ∧
      (o.isRevoked desired tag = false ∧ p = o ∧ records = [] ∨
        o.isRevoked desired tag = true ∧ p.registry.NewSince o.registry.nextGeneration tag) ∧
      let others := p.reconcileTags desired report' rest
      o.reconcileTags desired report (tag :: rest) = { others with records := records ++ others.records } := by
  cases hc : o.registry.get? tag with
  | none =>
    exact ⟨o, report, [], .refl o, Nat.le_refl _, fun _ _ => rfl,
      .inl ⟨by simp [isRevoked, isDropped, isReplaced, hc], rfl, rfl⟩, by simp [reconcileTags, hc]⟩
  | some c =>
    have hdismissed := unregister_eq hc
    have hgone := o.get?_registry_dismiss tag c.generation
    cases hwanted : wantedFor desired tag with
    | none =>
      by_cases hsource : c.source.isSome = true
      · refine ⟨o.dismiss tag c.generation, { report with removed := report.removed ++ [tag] },
          (o.unregister tag).records, hdismissed ▸ .unregister o tag, Nat.le_refl _, ?_,
          .inr ⟨?_, Nat.le_refl _, ?_⟩, ?_⟩
        · intro key hkey
          rw [hgone, if_neg hkey]
        · simp [isRevoked, isDropped, hc, hwanted, hsource]
        · intro d hd
          rw [hgone, if_pos rfl] at hd
          cases hd
        · simp only [reconcileTags, hc, hwanted, hsource, if_true, hdismissed]
      · exact ⟨o, report, [], .refl o, Nat.le_refl _, fun _ _ => rfl,
          .inl ⟨by simp [isRevoked, isDropped, isReplaced, hc, hwanted, hsource], rfl, rfl⟩,
          by simp [reconcileTags, hc, hwanted, hsource]⟩
    | some candidate =>
      by_cases hsource : c.source = some candidate.target
      · exact ⟨o, report, [], .refl o, Nat.le_refl _, fun _ _ => rfl,
          .inl ⟨by simp [isRevoked, isDropped, isReplaced, hc, hwanted, hsource], rfl, rfl⟩,
          by simp [reconcileTags, hc, hwanted, hsource]⟩
      · -- The tag is free once the old registration has ended, and it has a name because it was registered.
        obtain ⟨hmem, rfl⟩ := mem_of_wantedFor hwanted
        have hnone : (o.dismiss candidate.tag c.generation).registry.get? candidate.tag = none :=
          (hgone _).trans (if_pos rfl)
        obtain ⟨target, henrolled, hresult⟩ := registerConfigured_eq (o := o.dismiss candidate.tag c.generation)
          hgoing (ho.named _ _ hc) (hchecked candidate hmem) hnone
        have hmade : Registrations o ((o.dismiss candidate.tag c.generation).registerConfigured candidate).after :=
          (hdismissed ▸ Registrations.unregister o candidate.tag).trans (.registerConfigured _ candidate)
        rw [henrolled] at hmade
        refine ⟨_, { report with replaced := report.replaced ++ [candidate.tag] },
          (o.unregister candidate.tag).records ++
            ((o.dismiss candidate.tag c.generation).registerConfigured candidate).records,
          hmade, Nat.le_succ _, ?_, .inr ⟨?_, Nat.le_succ _, ?_⟩, ?_⟩
        · intro key hkey
          rw [get?_registry_enroll, if_neg hkey, hgone, if_neg hkey]
        · simp [isRevoked, isReplaced, hc, hwanted, hsource]
        · intro d hd
          rw [get?_registry_enroll, if_pos rfl] at hd
          cases hd
          exact Nat.le_refl _
        · simp only [reconcileTags, hc, hwanted, hsource, if_false, hdismissed, hresult, henrolled]

/-- The removals and replacements never fail. If there are none, nothing changes, and otherwise every tag
concerned is registered anew or not at all afterwards. -/
lemma reconcileTags_outcome (ho : Reachable o) (hgoing : o.isStopped = false)
    (hchecked : ∀ candidate ∈ desired, candidate.target.check = .ok ()) {tags : List String}
    (hdistinct : tags.Nodup) (report : ReconcileReport) :
    let kept := o.reconcileTags desired report tags
    (∃ r, kept.result = .ok r) ∧
      ((∀ tag ∈ tags, o.isRevoked desired tag = false) → kept.after = o ∧ kept.records = []) ∧
      ∀ tag ∈ tags, o.isRevoked desired tag = true →
        kept.after.registry.NewSince o.registry.nextGeneration tag := by
  induction tags generalizing o report with
  | nil =>
    refine ⟨⟨report, rfl⟩, fun _ => ⟨rfl, rfl⟩, ?_⟩
    intro tag htag
    cases htag
  | cons tag rest ih =>
    obtain ⟨hfirst, hdistinct⟩ := List.nodup_cons.mp hdistinct
    obtain ⟨p, report', records, hmade, hlater, hothers, hturn, heq⟩ :=
      reconcileTags_turn ho hgoing hchecked report tag rest
    have hgoing' : p.isStopped = false := hmade.isStopped_eq.trans hgoing
    obtain ⟨⟨r, hresult⟩, hsame, hnew⟩ := ih (hmade.reachable ho) hgoing' hdistinct report'
    have hrevoked : ∀ key ∈ rest, p.isRevoked desired key = o.isRevoked desired key := by
      intro key hkey
      have hregistered := hothers key fun heq => hfirst (heq ▸ hkey)
      simp only [isRevoked, isDropped, isReplaced, hregistered]
    dsimp only at heq ⊢
    rw [heq]
    refine ⟨⟨r, hresult⟩, ?_, ?_⟩
    · intro hnone
      rcases hturn with ⟨-, rfl, rfl⟩ | ⟨hrevokes, -⟩
      · obtain ⟨hafter, hrecords⟩ := hsame fun key hkey => hnone key (List.mem_cons_of_mem _ hkey)
        exact ⟨hafter, by simp [hrecords]⟩
      · rw [hnone tag List.mem_cons_self] at hrevokes
        cases hrevokes
    · intro key hkey hrevokes
      rcases List.mem_cons.mp hkey with rfl | hkey
      · rcases hturn with ⟨hkeeps, -⟩ | ⟨-, hself⟩
        · rw [hkeeps] at hrevokes
          cases hrevokes
        · exact (Registrations.reconcileTags p desired report' rest).newSince hself
      · exact (hnew key hkey ((hrevoked key hkey).trans hrevokes)).mono hlater

lemma registerConfigured_of_blank (hgoing : o.isStopped = false) {candidate : CandidateConfig}
    (hchecked : candidate.target.check = .ok ()) (hblank : isBlankText candidate.tag = true) :
    o.registerConfigured candidate = ⟨o, [], .error .emptyTag⟩ := by
  obtain ⟨built, hbuilt⟩ := TargetConfig.build_of_check hchecked
  simp [registerConfigured, hbuilt, register, hgoing, Registry.insertWith, hblank, ObservatoryError.ofRegistry]

lemma namedPart_of_blank {candidate : CandidateConfig} (hblank : isBlankText candidate.tag = true)
    (rest : List CandidateConfig) : namedPart (candidate :: rest) = [] := by
  simp [namedPart, hblank]

lemma namedPart_of_named {candidate : CandidateConfig} (hnamed : isBlankText candidate.tag = false)
    (rest : List CandidateConfig) : namedPart (candidate :: rest) = candidate :: namedPart rest := by
  simp [namedPart, hnamed]

/-- The turn of one candidate that is to be added if it is missing: it is there, or it has no name and ends the
additions, or it is registered. -/
lemma addMissing_turn (ho : Reachable o) (hgoing : o.isStopped = false) {candidate : CandidateConfig}
    (hchecked : candidate.target.check = .ok ()) (report : ReconcileReport) (rest : List CandidateConfig) :
    let filled := o.addMissing report (candidate :: rest)
    (o.registry.contains candidate.tag = true ∧ isBlankText candidate.tag = false ∧
        filled = o.addMissing report rest) ∨
      (o.registry.contains candidate.tag = false ∧ isBlankText candidate.tag = true ∧
        filled = ⟨o, [], .error .emptyTag⟩) ∨
      (o.registry.contains candidate.tag = false ∧ isBlankText candidate.tag = false ∧ ∃ target report',
        let enrolled := o.enroll candidate.tag target (some candidate.target)
        Registrations o enrolled ∧ filled.after = (enrolled.addMissing report' rest).after ∧
          filled.result = (enrolled.addMissing report' rest).result) := by
  dsimp only
  cases hpresent : o.registry.contains candidate.tag with
  | true =>
    obtain ⟨c, hc⟩ := (Registry.contains_iff _ _).mp hpresent
    exact .inl ⟨rfl, ho.named _ c hc, by simp [addMissing, hpresent]⟩
  | false =>
    cases hblank : isBlankText candidate.tag with
    | true =>
      have hrefused := registerConfigured_of_blank hgoing hchecked hblank
      exact .inr (.inl ⟨rfl, rfl, by simp [addMissing, hpresent, hrefused]⟩)
    | false =>
      have hnone : o.registry.get? candidate.tag = none :=
        TagMap.get?_eq_none_of_not_contains (Bool.eq_false_iff.mp hpresent)
      obtain ⟨target, henrolled, hresult⟩ := registerConfigured_eq hgoing hblank hchecked hnone
      have hmade := henrolled ▸ Registrations.registerConfigured o candidate
      refine .inr (.inr ⟨rfl, rfl, target, { report with added := report.added ++ [candidate.tag] }, hmade, ?_⟩)
      simp [addMissing, hpresent, henrolled, hresult]

/-- What becomes of the registry when missing candidates are added: nobody leaves it, and the candidates
before the first one without a name are in it. -/
lemma addMissing_registers (ho : Reachable o) (hgoing : o.isStopped = false)
    (hchecked : ∀ candidate ∈ desired, candidate.target.check = .ok ()) (report : ReconcileReport) :
    let filled := o.addMissing report desired
    (∀ tag c, o.registry.get? tag = some c → filled.after.registry.get? tag = some c) ∧
      ∀ candidate ∈ namedPart desired, filled.after.registry.contains candidate.tag = true := by
  induction desired generalizing o report with
  | nil =>
    refine ⟨fun _ _ hc => hc, ?_⟩
    intro candidate hmem
    cases hmem
  | cons candidate rest ih =>
    obtain ⟨hfirst, hrest⟩ := List.forall_mem_cons.mp hchecked
    dsimp only
    rcases addMissing_turn ho hgoing hfirst report rest with ⟨hpresent, hnamed, heq⟩ | ⟨-, hblank, heq⟩ |
      ⟨habsent, hnamed, target, report', hmade, hafter, -⟩
    · obtain ⟨hstays, hadded⟩ := ih ho hgoing hrest report
      obtain ⟨c, hc⟩ := (Registry.contains_iff _ _).mp hpresent
      rw [heq, namedPart_of_named hnamed]
      exact ⟨hstays, List.forall_mem_cons.mpr
        ⟨(Registry.contains_iff _ _).mpr ⟨c, hstays _ c hc⟩, hadded⟩⟩
    · rw [heq, namedPart_of_blank hblank]
      refine ⟨fun _ _ hc => hc, ?_⟩
      intro other hmem
      cases hmem
    · obtain ⟨hstays, hadded⟩ := ih (hmade.reachable ho) hgoing hrest report'
      have hself := o.get?_registry_enroll candidate.tag target (some candidate.target) candidate.tag
      rw [if_pos rfl] at hself
      rw [hafter, namedPart_of_named hnamed]
      refine ⟨fun tag c hc => ?_, List.forall_mem_cons.mpr
        ⟨(Registry.contains_iff _ _).mpr ⟨_, hstays _ _ hself⟩, hadded⟩⟩
      have hother : tag ≠ candidate.tag := by
        rintro rfl
        cases habsent.symm.trans ((Registry.contains_iff _ _).mpr ⟨c, hc⟩)
      exact hstays tag c (by rw [get?_registry_enroll, if_neg hother]; exact hc)

/-- The additions fail at the first candidate without a name and for no other reason. Nothing has changed
then if all candidates before it were registered. -/
lemma addMissing_outcome (ho : Reachable o) (hgoing : o.isStopped = false)
    (hchecked : ∀ candidate ∈ desired, candidate.target.check = .ok ()) (report : ReconcileReport) :
    let filled := o.addMissing report desired
    ((∀ candidate ∈ desired, isBlankText candidate.tag = false) → ∃ r, filled.result = .ok r) ∧
      ((∃ candidate ∈ desired, isBlankText candidate.tag = true) → filled.result = .error .emptyTag ∧
        ((∀ candidate ∈ namedPart desired, o.registry.contains candidate.tag = true) →
          filled = ⟨o, [], .error .emptyTag⟩)) := by
  induction desired generalizing o report with
  | nil =>
    refine ⟨fun _ => ⟨report, rfl⟩, ?_⟩
    rintro ⟨candidate, hmem, -⟩
    cases hmem
  | cons candidate rest ih =>
    obtain ⟨hfirst, hrest⟩ := List.forall_mem_cons.mp hchecked
    rw [List.forall_mem_cons, List.exists_mem_cons_iff]
    dsimp only
    rcases addMissing_turn ho hgoing hfirst report rest with ⟨-, hnamed, heq⟩ | ⟨-, hblank, heq⟩ |
      ⟨habsent, hnamed, target, report', hmade, -, hresult⟩
    · obtain ⟨hok, hfails⟩ := ih ho hgoing hrest report
      rw [heq, namedPart_of_named hnamed, List.forall_mem_cons, hnamed]
      refine ⟨fun hall => hok hall.2, fun hunnamed => ?_⟩
      obtain ⟨herror, hwhole⟩ := hfails (hunnamed.resolve_left Bool.false_ne_true)
      exact ⟨herror, fun hall => hwhole hall.2⟩
    · rw [heq, hblank]
      exact ⟨fun hall => absurd hall.1.symm Bool.false_ne_true, fun _ => ⟨rfl, fun _ => rfl⟩⟩
    · obtain ⟨hok, hfails⟩ := ih (hmade.reachable ho) hgoing hrest report'
      rw [hresult, namedPart_of_named hnamed, List.forall_mem_cons, hnamed, habsent]
      refine ⟨fun hall => hok hall.2, fun hunnamed => ⟨?_, fun hall => absurd hall.1 Bool.false_ne_true⟩⟩
      exact (hfails (hunnamed.resolve_left Bool.false_ne_true)).1

/-- A reconciliation that is refused after it has begun to change something: the targets are all right, a
candidate has no name, and before that shows, a registration is ended or a candidate is added. -/
structure BreaksOff (o : Observatory) (desired : List CandidateConfig) : Prop where
  going : o.isStopped = false
  checked : firstInvalid? desired = none
  unnamed : ∃ candidate ∈ desired, isBlankText candidate.tag = true
  begun : (∃ tag, o.isRevoked desired tag = true) ∨
    ∃ candidate ∈ namedPart desired, o.registry.contains candidate.tag = false

lemma mem_tags_of_isRevoked {tag : String} (hrevokes : o.isRevoked desired tag = true) :
    tag ∈ o.registry.tags := by
  refine (o.registry.mem_tags_iff tag).mpr ?_
  cases hc : o.registry.get? tag with
  | none => simp [isRevoked, isDropped, isReplaced, hc] at hrevokes
  | some c => exact ⟨c, rfl⟩

/-- With targets that pass their checks, a running observatory refuses exactly the lists in which a candidate
has no name. -/
lemma reconcile_outcome (ho : Reachable o) (hgoing : o.isStopped = false)
    (hnone : firstInvalid? desired = none) :
    ((∀ candidate ∈ desired, isBlankText candidate.tag = false) → ∃ r, (o.reconcile desired).result = .ok r) ∧
      ((∃ candidate ∈ desired, isBlankText candidate.tag = true) →
        (o.reconcile desired).result = .error .emptyTag ∧
          (¬o.BreaksOff desired → o.reconcile desired = ⟨o, [], .error .emptyTag⟩) ∧
          (o.BreaksOff desired →
            ∃ tag, (o.reconcile desired).after.registry.get? tag ≠ o.registry.get? tag)) := by
  have hchecked := checked_of_firstInvalid? hnone
  obtain ⟨⟨middle, hkept⟩, hsame, hnew⟩ :=
    reconcileTags_outcome ho hgoing hchecked o.registry.nodup_tags ReconcileReport.empty
  have hmade := Registrations.reconcileTags o desired ReconcileReport.empty o.registry.tags
  generalize hkeptdef : o.reconcileTags desired ReconcileReport.empty o.registry.tags = kept at *
  have hgoing' : kept.after.isStopped = false := hmade.isStopped_eq.trans hgoing
  obtain ⟨hok, hfails⟩ := addMissing_outcome (hmade.reachable ho) hgoing' hchecked middle
  obtain ⟨hstays, hadded⟩ := addMissing_registers (hmade.reachable ho) hgoing' hchecked middle
  refine ⟨fun hnamed => ?_, fun hunnamed => ?_⟩
  · obtain ⟨r, hr⟩ := hok hnamed
    exact ⟨r, (reconcile_of_ok hgoing hnone (by rw [hkeptdef]) (by rw [hkeptdef, hkept]) hr).2⟩
  · obtain ⟨hresult, hunchanged⟩ := hfails hunnamed
    have heq : o.reconcile desired = { kept.after.addMissing middle desired with
        records := kept.records ++ (kept.after.addMissing middle desired).records } := by
      simp [reconcile, hgoing, hnone, hkeptdef, hkept, hresult]
    refine ⟨by rw [heq, hresult], fun hwhole => ?_, fun hbroken => ?_⟩
    · have hkeeps : ∀ tag ∈ o.registry.tags, o.isRevoked desired tag = false := by
        intro tag _
        rw [← Bool.not_eq_true]
        exact fun hrevokes => hwhole ⟨hgoing, hnone, hunnamed, .inl ⟨tag, hrevokes⟩⟩
      have hpresent : ∀ candidate ∈ namedPart desired, o.registry.contains candidate.tag = true := by
        intro candidate hmem
        rw [← Bool.not_eq_false]
        exact fun habsent => hwhole ⟨hgoing, hnone, hunnamed, .inr ⟨candidate, hmem, habsent⟩⟩
      obtain ⟨hafter, hrecords⟩ := hsame hkeeps
      rw [hafter] at hunchanged heq
      rw [heq, hrecords, hunchanged hpresent]
      rfl
    · rw [heq]
      rcases hbroken.begun with ⟨tag, hrevokes⟩ | ⟨candidate, hmem, habsent⟩
      · refine ⟨tag, fun hback => ?_⟩
        have htag := mem_tags_of_isRevoked hrevokes
        obtain ⟨c, hc⟩ := (o.registry.mem_tags_iff tag).mp htag
        have hlater := (Registrations.addMissing kept.after middle desired).newSince (hnew tag htag hrevokes)
        have hless := ho.ordered.registered tag c hc
        have hle := hlater.2 c (hback.trans hc)
        omega
      · refine ⟨candidate.tag, fun hback => ?_⟩
        have hpresent := hadded candidate hmem
        obtain ⟨c, hc⟩ := (Registry.contains_iff _ _).mp hpresent
        rw [(Registry.contains_iff _ _).mpr ⟨c, hback.symm.trans hc⟩] at habsent
        cases habsent

end Observatory

/-- A reconciliation is refused if the observatory is stopped, if a target fails its check or if a candidate
has no name, and in no other case. A refusal changes nothing, unless a candidate has no name and something was
to be done before that shows. Then the registrations are no longer what they were. -/
theorem Reachable.reconcile_refusals {o : Observatory} (ho : Reachable o) (desired : List CandidateConfig) :
    ((∃ e, (o.reconcile desired).result = .error e) ↔
        o.isStopped = true ∨ Observatory.firstInvalid? desired ≠ none ∨
          ∃ candidate ∈ desired, isBlankText candidate.tag = true) ∧
      (∀ e, (o.reconcile desired).result = .error e → ¬o.BreaksOff desired →
        o.reconcile desired = ⟨o, [], .error e⟩) ∧
      (o.BreaksOff desired → (o.reconcile desired).result = .error .emptyTag ∧
        ∃ tag, (o.reconcile desired).after.registry.get? tag ≠ o.registry.get? tag) := by
  by_cases hgoing : o.isStopped = false
  · cases hfirst : Observatory.firstInvalid? desired with
    | some e =>
      have heq : o.reconcile desired = ⟨o, [], .error e⟩ := by simp [Observatory.reconcile, hgoing, hfirst]
      rw [heq]
      refine ⟨⟨fun _ => .inr (.inl (by simp)), fun _ => ⟨e, rfl⟩⟩, ?_, fun hbroken => ?_⟩
      · intro e' he' _
        cases he'
        rfl
      · cases hfirst.symm.trans hbroken.checked
    | none =>
      obtain ⟨hok, hfails⟩ := Observatory.reconcile_outcome ho hgoing hfirst
      by_cases hunnamed : ∃ candidate ∈ desired, isBlankText candidate.tag = true
      · obtain ⟨hresult, hwhole, hbroken⟩ := hfails hunnamed
        refine ⟨⟨fun _ => .inr (.inr hunnamed), fun _ => ⟨_, hresult⟩⟩, ?_, fun h => ⟨hresult, hbroken h⟩⟩
        intro e he
        cases hresult.symm.trans he
        exact hwhole
      · have hnamed : ∀ candidate ∈ desired, isBlankText candidate.tag = false := by
          intro candidate hmem
          rw [← Bool.not_eq_true]
          exact fun hblank => hunnamed ⟨candidate, hmem, hblank⟩
        obtain ⟨r, hr⟩ := hok hnamed
        rw [hr]
        refine ⟨⟨?_, ?_⟩, ?_, fun hbroken => absurd hbroken.unnamed hunnamed⟩
        · rintro ⟨e, he⟩
          cases he
        · rintro (hstopped | hinvalid | hblank)
          · cases hgoing.symm.trans hstopped
          · exact absurd rfl hinvalid
          · exact absurd hblank hunnamed
        · intro e he
          cases he
  · have hstopped : o.isStopped = true := by simpa using hgoing
    have heq : o.reconcile desired = ⟨o, [], .error .stopped⟩ := by simp [Observatory.reconcile, hstopped]
    rw [heq]
    refine ⟨⟨fun _ => .inl hstopped, fun _ => ⟨_, rfl⟩⟩, ?_, fun hbroken => absurd hbroken.going hgoing⟩
    intro e he _
    cases he
    rfl

/-- A list that begins with a candidate without a name is refused by an empty observatory before anything is
done. -/
theorem reconcile_refuses_whole :
    let o := Observatory.create Config.bare World.desert
    o.reconcile [⟨" ", .tcp "127.0.0.1:9"⟩, ⟨"a", .tcp "127.0.0.1:9"⟩] = ⟨o, [], .error .emptyTag⟩ := by
  intro o
  have hresult : (o.reconcile [⟨" ", .tcp "127.0.0.1:9"⟩, ⟨"a", .tcp "127.0.0.1:9"⟩]).result =
      .error .emptyTag := by decide +kernel
  refine (Reachable.reconcile_refusals reachable_bare _).2.1 _ hresult ?_
  rintro ⟨-, -, -, ⟨tag, hrevokes⟩ | ⟨candidate, hmem, -⟩⟩
  · obtain ⟨c, hc⟩ := (Registry.mem_tags_iff _ _).mp (Observatory.mem_tags_of_isRevoked hrevokes)
    cases hc
  · have hpart : namedPart [⟨" ", .tcp "127.0.0.1:9"⟩, ⟨"a", .tcp "127.0.0.1:9"⟩] = [] := by decide +kernel
    rw [hpart] at hmem
    cases hmem

/-- In the other order the candidate with a name has been registered when the list is refused. -/
theorem reconcile_breaks_off :
    let o := Observatory.create Config.bare World.desert
    let effect := o.reconcile [⟨"a", .tcp "127.0.0.1:9"⟩, ⟨" ", .tcp "127.0.0.1:9"⟩]
    Reachable o ∧ effect.result = .error .emptyTag ∧ o.registry.tags = [] ∧
      (effect.after.registry.get? "a").map Candidate.source = some (some (.tcp "127.0.0.1:9")) := by
  intro o effect
  exact ⟨reachable_bare, by decide +kernel, by decide +kernel, by decide +kernel⟩

end OutboundWatch
