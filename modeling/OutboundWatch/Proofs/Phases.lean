import OutboundWatch.Proofs.Tracking

/-!
# The phases of connections

The phase of a connection is determined by what has happened since it was opened: whether a closing has
forced it, whether its tag was unregistered, and whether its tag was replaced as held best. Each step pushes
the connections of a tag to one phase, and a run pushes them to the latest of these.
-/

namespace OutboundWatch

/-- Whether a registration of the tag that there was in `o` has ended in `p`. -/
def Observatory.ended (o p : Observatory) (tag : String) : Bool :=
  o.registry.contains tag &&
    decide ((p.registry.get? tag).map Candidate.generation ≠ (o.registry.get? tag).map Candidate.generation)

namespace Step

/-- Whether the closing of a stop ends and force-closes what is open. -/
def forces (s : Step) : Bool :=
  match s.event with
  | .connection (.look _ _) => !s.before.routing.drains.forceClosing && s.after.routing.drains.forceClosing
  | _ => false

/-- Whether the tag is unregistered, directly or by a reconciliation. -/
def unregisters (tag : String) (s : Step) : Bool :=
  match s.event with
  | .unregister key => decide (key = tag) && s.before.registry.contains tag
  | .reconcile _ => s.before.ended s.after tag
  | _ => false

/-- Whether a selection replaces the tag as held best by another one. -/
def demotes (tag : String) (s : Step) : Bool :=
  match s.event with
  | .selectBest =>
    decide (s.before.heldBest = some tag) && s.after.heldBest.any fun other => decide (other ≠ tag)
  | _ => false

/-- Whether the handle of a connection ends: it is dropped, or its drain is over. -/
def releases (id : Nat) (s : Step) : Bool :=
  match s.event with
  | .connection move => decide (move.ending? = some id) && (s.after.routing.drains.get? id).isNone
  | _ => false

end Step

/-- The phase to which steps bring a connection of a tag that was open before them. -/
def lawfulPhase (tag : String) (steps : List Step) : DrainPhase :=
  if steps.any Step.forces then .forceClosed
  else if steps.any (Step.unregisters tag) then .retired
  else if steps.any (Step.demotes tag) then .draining
  else .active

lemma rank_lawfulPhase_append (tag : String) (steps more : List Step) :
    (lawfulPhase tag (steps ++ more)).rank =
      max (lawfulPhase tag steps).rank (lawfulPhase tag more).rank := by
  unfold lawfulPhase
  rw [List.any_append, List.any_append, List.any_append]
  -- What is left is about six truth values.
  generalize steps.any Step.forces = forced, steps.any (Step.unregisters tag) = unregistered,
    steps.any (Step.demotes tag) = demoted, more.any Step.forces = forced',
    more.any (Step.unregisters tag) = unregistered', more.any (Step.demotes tag) = demoted'
  revert forced unregistered demoted forced' unregistered' demoted'
  decide

/-- The phase to which a step pushes the connections of a tag. -/
def Step.push (s : Step) (tag : String) : DrainPhase :=
  if s.forces then .forceClosed
  else if s.unregisters tag then .retired
  else if s.demotes tag then .draining
  else .active

/-- The number of connections that a closing of the observatory has forced, once it has ended. -/
def Observatory.forcedCount? (o : Observatory) : Option Nat :=
  match o.stage with
  | .draining ticket => o.routing.drains.closed.lookup ticket
  | .stopped forced => some forced
  | _ => none

namespace Observatory

variable {o p q : Observatory}

/-- The connections of `p` that were open in `o` come from them, those of a tag pushed to the phase for the
tag. Of those open in `o`, the ones in `gone` are missing in `p`. -/
structure Pushes (o p : Observatory) (push : String → DrainPhase) (gone : Nat → Bool) : Prop where
  nextId : o.routing.drains.nextId ≤ p.routing.drains.nextId
  phases : ∀ d ∈ p.routing.drains.opened, d.id < o.routing.drains.nextId →
    ∃ c ∈ o.routing.drains.opened, c.id = d.id ∧ c.tag = d.tag ∧
      d.phase.rank = max c.phase.rank (push d.tag).rank
  stays : ∀ c ∈ o.routing.drains.opened, gone c.id = false → ∃ d ∈ p.routing.drains.opened, d.id = c.id
  lost : ∀ d ∈ p.routing.drains.opened, d.id < o.routing.drains.nextId → gone d.id = false

lemma Pushes.refl (o : Observatory) : o.Pushes o (fun _ => .active) fun _ => false where
  nextId := Nat.le_refl _
  phases d hd _ := ⟨d, hd, rfl, rfl, (Nat.max_zero _).symm⟩
  stays c hc _ := ⟨c, hc, rfl⟩
  lost _ _ _ := rfl

lemma Pushes.trans {first second push : String → DrainPhase} {gone gone' : Nat → Bool}
    (h₁ : o.Pushes p first gone) (h₂ : p.Pushes q second gone')
    (hpush : ∀ tag, (push tag).rank = max (first tag).rank (second tag).rank) :
    o.Pushes q push fun id => gone id || gone' id := by
  have hback : ∀ d ∈ q.routing.drains.opened, d.id < o.routing.drains.nextId →
      d.id < p.routing.drains.nextId := fun d _ hless => Nat.lt_of_lt_of_le hless h₁.nextId
  refine ⟨Nat.le_trans h₁.nextId h₂.nextId, ?_, ?_, ?_⟩
  · intro d hd hless
    obtain ⟨e, he, hid, htag, hrank⟩ := h₂.phases d hd (hback d hd hless)
    obtain ⟨c, hc, hid', htag', hrank'⟩ := h₁.phases e he (hid ▸ hless)
    refine ⟨c, hc, hid'.trans hid, htag'.trans htag, ?_⟩
    rw [hrank, hrank', htag, hpush, Nat.max_assoc]
  · intro c hc hstays
    rw [Bool.or_eq_false_iff] at hstays
    obtain ⟨e, he, hid⟩ := h₁.stays c hc hstays.1
    obtain ⟨d, hd, hid'⟩ := h₂.stays e he (hid ▸ hstays.2)
    exact ⟨d, hd, hid'.trans hid⟩
  · intro d hd hless
    obtain ⟨e, he, hid, -, -⟩ := h₂.phases d hd (hback d hd hless)
    have hfirst := h₁.lost e he (hid ▸ hless)
    rw [hid] at hfirst
    rw [hfirst, h₂.lost d hd (hback d hd hless)]
    rfl

lemma pushes_of_carries {event : Event} {records : List Record} {push : String → DrainPhase}
    {gone : Option Nat}
    (hgone : gone = none ∨ ∃ move, event = .connection move ∧ gone = move.ending?)
    (h : o.routing.drains.Carries p.routing.drains push gone) :
    o.Pushes p push (Step.releases · ⟨o, event, p, records⟩) where
  nextId := Nat.le_of_eq h.nextId.symm
  phases d hd _ := h.phases d hd
  stays c hc hstays := by
    by_cases hends : gone = some c.id
    · rcases hgone with hnone | ⟨move, rfl, rfl⟩
      · rw [hnone] at hends
        cases hends
      · simp only [Step.releases, hends, decide_true, Bool.true_and, Option.isNone_eq_false_iff,
          Option.isSome_iff_exists] at hstays
        obtain ⟨d, hd⟩ := hstays
        exact ⟨d, DrainTracker.id_of_get? hd⟩
    · have hmem : c.id ∈ p.routing.drains.opened.map Connection.id := by
        rw [h.ids]
        exact List.mem_filter.mpr ⟨List.mem_map_of_mem hc, decide_eq_true hends⟩
      obtain ⟨d, hd, hid⟩ := List.mem_map.mp hmem
      exact ⟨d, hd, hid⟩
  lost d hd _ := by
    have hfound : (p.routing.drains.get? d.id).isNone = false := by
      rw [Option.isNone_eq_false_iff, DrainTracker.get?, List.find?_isSome]
      exact ⟨d, hd, by simp⟩
    unfold Step.releases
    split
    · simp [hfound]
    · rfl

lemma push_eq_unpushed {event : Event} {records : List Record}
    (hforces : Step.forces ⟨o, event, p, records⟩ = false)
    (hunregisters : ∀ tag, Step.unregisters tag ⟨o, event, p, records⟩ = false)
    (hdemotes : ∀ tag, Step.demotes tag ⟨o, event, p, records⟩ = false) :
    Step.push ⟨o, event, p, records⟩ = DrainTracker.unpushed := by
  funext tag
  simp [Step.push, hforces, hunregisters, hdemotes, DrainTracker.unpushed]

lemma forces_of_forceClosing {event : Event} {records : List Record}
    (hforce : p.routing.drains.forceClosing = o.routing.drains.forceClosing) :
    Step.forces ⟨o, event, p, records⟩ = false := by
  unfold Step.forces
  split
  · simp [hforce]
  · rfl

lemma carries_unregister (o : Observatory) (key : String) :
    o.routing.drains.Carries (o.unregister key).after.routing.drains
      (fun tag => if key = tag ∧ o.registry.contains tag = true then .retired else .active) none := by
  rcases o.unregister_cases key with ⟨hnone, hrefused⟩ | ⟨c, hc, hdismissed, -⟩
  · rw [hrefused]
    have habsent : o.registry.contains key = false := by
      simpa [Registry.contains, TagMap.contains, Registry.get?] using hnone
    convert DrainTracker.Carries.of_opened rfl rfl using 1
    funext tag
    refine if_neg ?_
    rintro ⟨rfl, hpresent⟩
    rw [habsent] at hpresent
    cases hpresent
  · rw [hdismissed]
    have hpresent : o.registry.contains key = true := (TagMap.contains_iff _ _).mpr ⟨c, hc⟩
    have hcarries := o.routing.drains.carries_advanceAll key .retired
    convert hcarries using 1
    · rfl
    · funext tag
      by_cases htag : tag = key
      · simp [htag, hpresent]
      · have htag' : ¬key = tag := fun heq => htag heq.symm
        simp [htag, htag']

/-- A registration that is new in `q` does not make good for one of `o` that has ended. -/
lemma ended_enroll {q : Observatory} (h : Ordered o)
    (hlater : o.registry.nextGeneration ≤ p.registry.nextGeneration)
    {key : String} (hnone : p.registry.get? key = none) {c : Candidate}
    (hgeneration : c.generation = p.registry.nextGeneration)
    (hregistry : ∀ tag, q.registry.get? tag = if tag = key then some c else p.registry.get? tag)
    (tag : String) :
    o.ended q tag = o.ended p tag := by
  unfold ended
  rw [hregistry]
  split <;> rename_i htag
  · subst htag
    rw [hnone]
    cases hold : o.registry.get? tag with
    | none =>
      have habsent : o.registry.contains tag = false := congrArg Option.isSome hold
      simp [habsent]
    | some d =>
      have hless := h.registered tag d hold
      have hother : ¬c.generation = d.generation := by omega
      simp [hother]
  · rfl

/-- An end of a registration in `p` pushes its connections; if it has begun after `o`, they were retired
before. -/
lemma carries_dismiss (h : Tracked o) {q : Observatory} {key : String}
    (hregistry : ∀ tag, q.registry.get? tag = if tag = key then none else p.registry.get? tag)
    (hfirst :
      o.routing.drains.Carries p.routing.drains (fun tag => if o.ended p tag then .retired else .active) none)
    (hsecond :
      p.routing.drains.Carries q.routing.drains (fun tag => if tag = key then .retired else .active) none) :
    o.routing.drains.Carries q.routing.drains
      (fun tag => if o.ended q tag then .retired else .active) none := by
  obtain ⟨hnext, hids, hphases⟩ := hfirst
  obtain ⟨hnext', hids', hphases'⟩ := hsecond
  refine ⟨hnext'.trans hnext, ?_, ?_⟩
  · rw [hids', hids, List.filter_filter]
    simp
  · intro d hd
    obtain ⟨e, he, hid, htag, hrank⟩ := hphases' d hd
    obtain ⟨c, hc, hid', htag', hrank'⟩ := hphases e he
    refine ⟨c, hc, hid'.trans hid, htag'.trans htag, ?_⟩
    rw [hrank, hrank', htag]
    by_cases hkey : d.tag = key
    · rw [if_pos hkey]
      cases hold : o.registry.get? d.tag with
      | none =>
        -- What ends here has begun after `o`; the connections of its tag are older and retired.
        have hretired := h.retired c hc (by rw [htag', htag]; exact hold)
        have habsent : o.registry.contains d.tag = false := congrArg Option.isSome hold
        simp only [ended, habsent, Bool.false_and, Bool.false_eq_true, if_false]
        simp only [DrainPhase.rank] at hretired ⊢
        omega
      | some b =>
        have hpresent : o.registry.contains d.tag = true := congrArg Option.isSome hold
        have hended : o.ended q d.tag = true := by
          simp only [ended, hpresent, hregistry, if_pos hkey, hold]
          rfl
        rw [if_pos hended]
        have hless : (if o.ended p d.tag = true then DrainPhase.retired else .active).rank ≤
            DrainPhase.retired.rank := by
          split <;> decide
        omega
    · have hsame : o.ended q d.tag = o.ended p d.tag := by
        simp only [ended, hregistry, if_neg hkey]
      rw [if_neg hkey, hsame]
      exact Nat.max_zero _

/-- `p` is tracked and later than `o`, and pushes the connections of those tags whose registration has
ended. -/
structure Amends (o p : Observatory) : Prop where
  tracked : Tracked p
  later : o.registry.nextGeneration ≤ p.registry.nextGeneration
  carries :
    o.routing.drains.Carries p.routing.drains (fun tag => if o.ended p tag then .retired else .active) none

lemma Amends.refl (h : Tracked o) : o.Amends o := by
  have hnever :
      (fun tag => if o.ended o tag then DrainPhase.retired else .active) = DrainTracker.unpushed := by
    funext tag
    simp [ended, DrainTracker.unpushed]
  refine ⟨h, Nat.le_refl _, ?_⟩
  rw [hnever]
  exact .of_opened rfl rfl

lemma Amends.perform? (h : Tracked o) {q : Observatory} {event : Event} {records : List Record}
    (hevent : event.IsRegistration) (hp : o.Amends p) (happens : p.perform? event = some (q, records)) :
    o.Amends q := by
  have htracked := hp.tracked.perform? (by rintro desired rfl; exact hevent) happens
  cases event with
  | registerConfigured candidate =>
    have hq := eq_of_perform?_effect happens
    rcases p.registerConfigured_cases candidate with ⟨e, hrefused⟩ | ⟨target, -, -, hnone, henrolled, -⟩
    · rw [hrefused] at hq
      exact hq ▸ hp
    · rw [henrolled] at hq
      subst hq
      refine ⟨htracked, Nat.le_succ_of_le hp.later, ?_⟩
      simp only [ended_enroll h.ordered hp.later hnone rfl (p.get?_registry_enroll candidate.tag target _)]
      exact hp.carries
  | unregister key =>
    have hq := eq_of_perform?_effect happens
    rcases p.unregister_cases key with ⟨-, hrefused⟩ | ⟨c, hc, hdismissed, -⟩
    · rw [hrefused] at hq
      exact hq ▸ hp
    · rw [hdismissed] at hq
      subst hq
      exact ⟨htracked, hp.later, carries_dismiss h (p.get?_registry_dismiss key c.generation) hp.carries
        (p.routing.drains.carries_advanceAll key .retired)⟩
  | _ => exact hevent.elim

lemma amends_of_registrations (h : Tracked o) (hmade : Registrations o p) : o.Amends p :=
  hmade.invariant (fun _ _ _ _ hevent hp happens => hp.perform? h hevent happens) (.refl h)

lemma pushes_of_opened {event : Event} {records : List Record}
    (hopened : p.routing.drains.opened = o.routing.drains.opened)
    (hnext : p.routing.drains.nextId = o.routing.drains.nextId)
    (hforces : Step.forces ⟨o, event, p, records⟩ = false)
    (hunregisters : ∀ tag, Step.unregisters tag ⟨o, event, p, records⟩ = false)
    (hdemotes : ∀ tag, Step.demotes tag ⟨o, event, p, records⟩ = false) :
    o.Pushes p (Step.push ⟨o, event, p, records⟩) (Step.releases · ⟨o, event, p, records⟩) := by
  rw [push_eq_unpushed hforces hunregisters hdemotes]
  exact pushes_of_carries (.inl rfl) (.of_opened hopened hnext)

lemma pushes_unregister {key : String} {records : List Record}
    (happens : o.perform? (.unregister key) = some (p, records)) :
    o.Pushes p (Step.push ⟨o, .unregister key, p, records⟩)
      (Step.releases · ⟨o, .unregister key, p, records⟩) := by
  have hcarries := o.carries_unregister key
  rw [← eq_of_perform?_effect happens] at hcarries
  refine pushes_of_carries (.inl rfl) ?_
  convert hcarries using 2 with tag
  by_cases hkey : key = tag <;> simp [Step.push, Step.forces, Step.unregisters, Step.demotes, hkey]

lemma pushes_reconcile (h : Tracked o) {desired : List CandidateConfig} {records : List Record}
    (happens : o.perform? (.reconcile desired) = some (p, records)) :
    o.Pushes p (Step.push ⟨o, .reconcile desired, p, records⟩)
      (Step.releases · ⟨o, .reconcile desired, p, records⟩) := by
  have hamends := amends_of_registrations h (registrations_of_reconcile happens)
  refine pushes_of_carries (.inl rfl) ?_
  convert hamends.carries using 2 with tag
  simp [Step.push, Step.forces, Step.unregisters, Step.demotes]

lemma pushes_selectBest {records : List Record} (happens : o.perform? .selectBest = some (p, records)) :
    o.Pushes p (Step.push ⟨o, .selectBest, p, records⟩) (Step.releases · ⟨o, .selectBest, p, records⟩) := by
  cases happens
  obtain ⟨hcarries, -⟩ := o.carries_selectBest
  refine pushes_of_carries (.inl rfl) ?_
  convert hcarries using 2 with tag
  simp [Step.push, Step.forces, Step.unregisters, Step.demotes]

lemma pushes_openConnection {tag : String} {records : List Record}
    (happens : o.perform? (.openConnection tag) = some (p, records)) :
    o.Pushes p (Step.push ⟨o, .openConnection tag, p, records⟩)
      (Step.releases · ⟨o, .openConnection tag, p, records⟩) := by
  have hp := eq_of_perform?_effect happens
  rcases o.openConnection_cases tag with ⟨e, hrefused⟩ | ⟨-, -, hopened, -⟩
  · rw [hrefused] at hp
    subst hp
    exact pushes_of_opened rfl rfl rfl (fun _ => rfl) fun _ => rfl
  · have hdrains : p.routing.drains = (o.routing.drains.openConnection tag).1 := by rw [hp, hopened]
    have hopens : p.routing.drains.opened =
        o.routing.drains.opened ++ [⟨o.routing.drains.nextId, tag, .active, 0, none⟩] := by
      rw [hdrains]
      rfl
    have hnext : p.routing.drains.nextId = o.routing.drains.nextId + 1 := by
      rw [hdrains]
      rfl
    rw [push_eq_unpushed rfl (fun _ => rfl) fun _ => rfl]
    refine ⟨by omega, fun d hd hless => ?_, fun c hc _ => ?_, fun _ _ _ => rfl⟩
    · simp only [hopens, List.mem_append, List.mem_singleton] at hd
      rcases hd with hd | rfl
      · exact ⟨d, hd, rfl, rfl, DrainTracker.rank_unpushed _ _⟩
      · exact absurd hless (Nat.lt_irrefl _)
    · refine ⟨c, ?_, rfl⟩
      rw [hopens]
      exact List.mem_append_left _ hc

lemma pushes_connection (h : Tracked o) {move : ConnectionMove} {records : List Record}
    (happens : o.perform? (.connection move) = some (p, records)) :
    o.Pushes p (Step.push ⟨o, .connection move, p, records⟩)
      (Step.releases · ⟨o, .connection move, p, records⟩) := by
  obtain ⟨drains, hmove, rfl⟩ := perform?_connection happens
  rcases DrainTracker.move?_cases hmove with ⟨gone, hgone, hquiet⟩ |
    ⟨now, ticket, closing, rfl, hclosing, -, rfl⟩
  · rw [push_eq_unpushed (forces_of_forceClosing hquiet.forceClosing) (fun _ => rfl) fun _ => rfl]
    exact pushes_of_carries (hgone.imp_right fun heq => ⟨move, rfl, heq⟩) hquiet.toCarries
  · rcases o.routing.drains.look_cases now closing with ⟨hcarries, hforce, -⟩ | ⟨hcarries, -, hforce, -⟩
    · rw [push_eq_unpushed (forces_of_forceClosing hforce) (fun _ => rfl) fun _ => rfl]
      exact pushes_of_carries (.inl rfl) hcarries
    · refine pushes_of_carries (.inl rfl) ?_
      convert hcarries using 2 with tag
      simp [Step.push, Step.forces, (h.fits.waiting hclosing).2.1, hforce]

lemma pushes_proceedStop {now : Moment} {records : List Record}
    (happens : o.perform? (.proceedStop now) = some (p, records)) :
    o.Pushes p (Step.push ⟨o, .proceedStop now, p, records⟩)
      (Step.releases · ⟨o, .proceedStop now, p, records⟩) := by
  rcases proceedStop?_stages happens with ⟨cycles, -, rfl⟩ | ⟨-, rfl⟩ | ⟨-, drains, ticket, hbegin, rfl⟩ |
    ⟨ticket, drains, forced, -, htake, rfl⟩
  · exact pushes_of_opened rfl rfl rfl (fun _ => rfl) fun _ => rfl
  · exact pushes_of_opened rfl rfl rfl (fun _ => rfl) fun _ => rfl
  · obtain ⟨deadline, -, heq⟩ := Option.map_eq_some_iff.mp hbegin
    cases heq
    exact pushes_of_opened rfl rfl rfl (fun _ => rfl) fun _ => rfl
  · unfold DrainTracker.takeClosed at htake
    split at htake <;> cases htake
    exact pushes_of_opened rfl rfl rfl (fun _ => rfl) fun _ => rfl

lemma opened_of_openConnection {tag : String} {records : List Record} {id : Nat}
    (happens : o.perform? (.openConnection tag) = some (p, records))
    (hopened : (o.openConnection tag).result = .ok id) :
    ∃ c ∈ p.routing.drains.opened, c.id = id ∧ c.tag = tag ∧ c.phase = .active := by
  obtain rfl := eq_of_perform?_effect happens
  rcases o.openConnection_cases tag with ⟨e, hrefused⟩ | ⟨-, -, hafter, hresult⟩
  · rw [hrefused] at hopened
    cases hopened
  · rw [hresult] at hopened
    cases hopened
    rw [hafter]
    exact ⟨_, List.mem_append_right _ (List.mem_singleton_self _), rfl, rfl, rfl⟩

/-- Every step pushes the connections as it should, and ends those handles that it releases. -/
theorem pushes_perform? (h : Tracked o) {event : Event} {records : List Record}
    (happens : o.perform? event = some (p, records)) :
    o.Pushes p (Step.push ⟨o, event, p, records⟩) (Step.releases · ⟨o, event, p, records⟩) := by
  cases event with
  | register tag target =>
    obtain rfl := eq_of_perform?_effect happens
    rcases o.register_cases tag target none with ⟨e, hrefused⟩ | ⟨-, -, -, henrolled, -⟩
    · rw [hrefused]
      exact pushes_of_opened rfl rfl rfl (fun _ => rfl) fun _ => rfl
    · rw [henrolled]
      exact pushes_of_opened rfl rfl rfl (fun _ => rfl) fun _ => rfl
  | registerConfigured candidate =>
    obtain rfl := eq_of_perform?_effect happens
    rcases o.registerConfigured_cases candidate with ⟨e, hrefused⟩ | ⟨target, -, -, -, henrolled, -⟩
    · rw [hrefused]
      exact pushes_of_opened rfl rfl rfl (fun _ => rfl) fun _ => rfl
    · rw [henrolled]
      exact pushes_of_opened rfl rfl rfl (fun _ => rfl) fun _ => rfl
  | unregister key => exact pushes_unregister happens
  | reconcile desired => exact pushes_reconcile h happens
  | selectBest => exact pushes_selectBest happens
  | openConnection tag => exact pushes_openConnection happens
  | stop =>
    cases happens
    rcases o.stop_cases with ⟨-, hsame⟩ | ⟨-, hstopped⟩
    · rw [hsame]
      exact pushes_of_opened rfl rfl rfl (fun _ => rfl) fun _ => rfl
    · rw [hstopped]
      exact pushes_of_opened rfl rfl rfl (fun _ => rfl) fun _ => rfl
  | cycle now id move =>
    obtain ⟨scheduler, -, rfl⟩ := perform?_cycle happens
    exact pushes_of_opened rfl rfl rfl (fun _ => rfl) fun _ => rfl
  | deliver now id =>
    obtain ⟨c, status, -, -, hdeliver⟩ := perform?_deliver happens
    rcases deliver?_cases hdeliver with ⟨feed, -, rfl⟩ | ⟨-, rfl⟩
    · exact pushes_of_opened rfl rfl rfl (fun _ => rfl) fun _ => rfl
    · exact pushes_of_opened rfl rfl rfl (fun _ => rfl) fun _ => rfl
  | publisher move =>
    obtain ⟨publisher, table, -, rfl⟩ := perform?_publisher happens
    exact pushes_of_opened rfl rfl rfl (fun _ => rfl) fun _ => rfl
  | connection move => exact pushes_connection h happens
  | signal move =>
    cases happens
    exact pushes_of_opened rfl rfl rfl (fun _ => rfl) fun _ => rfl
  | proceedStop now => exact pushes_proceedStop happens

lemma forcedCount?_registration {event : Event} {records : List Record} (hevent : event.IsRegistration)
    (happens : o.perform? event = some (p, records)) : p.forcedCount? = o.forcedCount? := by
  cases event with
  | registerConfigured candidate =>
    obtain rfl := eq_of_perform?_effect happens
    exact o.registerConfigured_keeps (P := fun p => p.forcedCount? = o.forcedCount?) candidate rfl
      fun _ _ _ => rfl
  | unregister key =>
    obtain rfl := eq_of_perform?_effect happens
    exact o.unregister_keeps (P := fun p => p.forcedCount? = o.forcedCount?) key rfl fun _ _ => rfl
  | _ => exact hevent.elim

lemma forcedCount?_registrations (hmade : Registrations o p) : p.forcedCount? = o.forcedCount? :=
  Registrations.invariant (P := fun p => p.forcedCount? = o.forcedCount?)
    (fun _ _ _ _ hevent hp happens => (forcedCount?_registration hevent happens).trans hp) hmade rfl

lemma forcedCount?_connection (h : Tracked o) {move : ConnectionMove} {records : List Record}
    (happens : o.perform? (.connection move) = some (p, records)) {n : Nat}
    (hcount : p.forcedCount? = some n) :
    o.forcedCount? = some n ∨ (Step.forces ⟨o, .connection move, p, records⟩ = true ∧
      o.routing.drains.phaseChanges p.routing.drains = n) := by
  obtain ⟨drains, hmove, rfl⟩ := perform?_connection happens
  rcases DrainTracker.move?_cases hmove with ⟨gone, -, hquiet⟩ | ⟨now, ticket, closing, rfl, hclosing, -, rfl⟩
  · refine .inl ?_
    simp only [forcedCount?, hquiet.closed] at hcount
    exact hcount
  · rcases o.routing.drains.look_cases now closing with ⟨-, -, hclosed, -⟩ | ⟨-, hopened, hforce, hclosed, -⟩
    · refine .inl ?_
      simp only [forcedCount?, hclosed] at hcount
      exact hcount
    · obtain ⟨hstage, hunforced, hnone, -⟩ := h.fits.waiting hclosing
      refine .inr ⟨by simp [Step.forces, hunforced, hforce], ?_⟩
      have hchanges : o.routing.drains.phaseChanges (o.routing.drains.look now closing).1 =
          o.routing.drains.forceClose.2 := by
        rw [DrainTracker.forceClose_counts h.ids]
        simp only [DrainTracker.phaseChanges, DrainTracker.get?, hopened]
      rw [hchanges]
      simpa [forcedCount?, hstage, hclosed, hnone] using hcount

lemma forcedCount?_proceedStop (h : Tracked o) {now : Moment} {records : List Record}
    (happens : o.perform? (.proceedStop now) = some (p, records)) {n : Nat}
    (hcount : p.forcedCount? = some n) :
    o.forcedCount? = some n := by
  have hfits := h.fits
  rcases proceedStop?_stages happens with ⟨cycles, -, rfl⟩ | ⟨-, rfl⟩ |
    ⟨hstage, drains, ticket, hbegin, rfl⟩ | ⟨ticket, drains, forced, hstage, htake, rfl⟩
  · cases hcount
  · cases hcount
  · rw [hstage] at hfits
    obtain ⟨deadline, -, heq⟩ := Option.map_eq_some_iff.mp hbegin
    cases heq
    simp [forcedCount?, hfits.2.2] at hcount
  · unfold DrainTracker.takeClosed at htake
    split at htake <;> cases htake
    rename_i hlookup
    rw [forcedCount?, hstage]
    exact hlookup.trans hcount

theorem forcedCount?_perform? (h : Tracked o) {event : Event} {records : List Record}
    (happens : o.perform? event = some (p, records)) {n : Nat} (hcount : p.forcedCount? = some n) :
    o.forcedCount? = some n ∨ (Step.forces ⟨o, event, p, records⟩ = true ∧
      o.routing.drains.phaseChanges p.routing.drains = n) := by
  cases event with
  | register tag target =>
    obtain rfl := eq_of_perform?_effect happens
    have hsame := o.register_keeps (P := fun p => p.forcedCount? = o.forcedCount?) tag target none rfl
      fun _ _ => rfl
    exact .inl (hsame ▸ hcount)
  | registerConfigured candidate =>
    have hevent : (Event.registerConfigured candidate).IsRegistration := trivial
    exact .inl (forcedCount?_registration hevent happens ▸ hcount)
  | unregister key =>
    have hevent : (Event.unregister key).IsRegistration := trivial
    exact .inl (forcedCount?_registration hevent happens ▸ hcount)
  | reconcile desired => exact .inl (forcedCount?_registrations (registrations_of_reconcile happens) ▸ hcount)
  | selectBest =>
    refine .inl (hcount ▸ ?_)
    cases happens
    obtain ⟨-, -, -, hclosed, -, hstage⟩ := o.carries_selectBest
    rw [forcedCount?, forcedCount?, hclosed, hstage]
  | openConnection tag =>
    refine .inl (hcount ▸ ?_)
    obtain rfl := eq_of_perform?_effect happens
    rcases o.openConnection_cases tag with ⟨e, hrefused⟩ | ⟨-, -, hopened, -⟩
    · rw [hrefused]
    · rw [hopened]
      rfl
  | stop =>
    cases happens
    rcases o.stop_cases with ⟨-, hsame⟩ | ⟨-, hstopped⟩
    · rw [hsame] at hcount
      exact .inl hcount
    · rw [hstopped] at hcount
      cases hcount
  | cycle now id move =>
    obtain ⟨scheduler, -, rfl⟩ := perform?_cycle happens
    exact .inl hcount
  | deliver now id =>
    obtain ⟨c, status, -, -, hdeliver⟩ := perform?_deliver happens
    rcases deliver?_cases hdeliver with ⟨feed, -, rfl⟩ | ⟨-, rfl⟩
    · exact .inl hcount
    · exact .inl hcount
  | publisher move =>
    obtain ⟨publisher, table, -, rfl⟩ := perform?_publisher happens
    exact .inl hcount
  | connection move => exact forcedCount?_connection h happens hcount
  | signal move =>
    cases happens
    exact .inl hcount
  | proceedStop now => exact .inl (forcedCount?_proceedStop h happens hcount)

end Observatory

lemma lawfulPhase_singleton (tag : String) (s : Step) : lawfulPhase tag [s] = s.push tag := by
  simp [lawfulPhase, Step.push]

namespace Run

variable {o p : Observatory} {steps : List Step}

/-- A run pushes the connections as its steps do, and ends the handles that its steps release. -/
theorem pushes (ho : Reachable o) (run : Run o steps p) :
    o.Pushes p (lawfulPhase · steps) fun id => steps.any (Step.releases id) := by
  -- Over the steps of the run: the ranks of phases grow by maxima, which one more step continues.
  induction run with
  | refl => exact .refl o
  | step run happens ih =>
    have hlast := Observatory.pushes_perform? (ho.run run).tracked happens
    convert ih.trans hlast fun tag => ?_ using 2 with id
    · simp
    · rw [rank_lawfulPhase_append, lawfulPhase_singleton]

/-- The number of an ended closing stems from a step of the run, unless it was there before. -/
theorem forcedCount? (ho : Reachable o) (run : Run o steps p) {n : Nat} (hcount : p.forcedCount? = some n) :
    o.forcedCount? = some n ∨
      ∃ s ∈ steps, s.forces = true ∧ s.before.routing.drains.phaseChanges s.after.routing.drains = n := by
  induction run with
  | refl => exact .inl hcount
  | step run happens ih =>
    rcases Observatory.forcedCount?_perform? (ho.run run).tracked happens hcount with hbefore | hlast
    · rcases ih hbefore with hold | ⟨s, hs, hmade⟩
      · exact .inl hold
      · exact .inr ⟨s, List.mem_append_left _ hs, hmade⟩
    · exact .inr ⟨_, List.mem_append_right _ (List.mem_singleton_self _), hlast⟩

lemma rank_le (ho : Reachable o) (run : Run o steps p) {id : Nat} {c d : Connection}
    (hc : o.routing.drains.get? id = some c) (hd : p.routing.drains.get? id = some d) :
    c.phase.rank ≤ d.phase.rank := by
  obtain ⟨hmem, rfl⟩ := DrainTracker.id_of_get? hc
  obtain ⟨hmem', hsame⟩ := DrainTracker.id_of_get? hd
  obtain ⟨e, he, hid, -, hrank⟩ := (run.pushes ho).phases d hmem' (hsame ▸ ho.tracked.fresh c hmem)
  obtain rfl := List.inj_on_of_nodup_map ho.tracked.ids he hmem (hid.trans hsame)
  omega

/-- A connection that has just been opened is there until a step releases it, in the phase that the steps
bring it to. -/
lemma phase_of_opened {q : Observatory} {tag : String} {records : List Record} {id : Nat} (ho : Reachable o)
    (happens : o.perform? (.openConnection tag) = some (p, records))
    (hopened : (o.openConnection tag).result = .ok id)
    (run : Run p steps q) :
    (q.routing.drains.get? id = none ↔ ∃ s ∈ steps, s.releases id = true) ∧
      ∀ c, q.routing.drains.get? id = some c → c.tag = tag ∧ c.phase = lawfulPhase tag steps := by
  have hp := ho.step happens
  obtain ⟨c, hc, rfl, rfl, hactive⟩ := Observatory.opened_of_openConnection happens hopened
  have hfresh := hp.tracked.fresh c hc
  have hpushes := run.pushes hp
  refine ⟨⟨fun hnone => ?_, fun ⟨s, hs, hreleases⟩ => ?_⟩, fun d hd => ?_⟩
  · by_contra hnever
    obtain ⟨d, hd, hid⟩ := hpushes.stays c hc (by simpa using hnever)
    exact absurd (List.find?_eq_none.mp hnone d hd) (by simp [hid])
  · refine List.find?_eq_none.mpr fun d hd hid => ?_
    have hid : d.id = c.id := by simpa using hid
    have hkept := hpushes.lost d hd (hid ▸ hfresh)
    rw [hid, List.any_eq_false] at hkept
    exact hkept s hs hreleases
  · obtain ⟨hd, hid⟩ := DrainTracker.id_of_get? hd
    obtain ⟨e, he, hid', htag, hrank⟩ := hpushes.phases d hd (hid ▸ hfresh)
    obtain rfl := List.inj_on_of_nodup_map hp.tracked.ids he hc (hid'.trans hid)
    refine ⟨htag.symm, DrainPhase.eq_of_rank ?_⟩
    rw [hrank, hactive, htag]
    exact Nat.zero_max _

end Run

/-- Whatever has happened since the start, a connection that was opened is there until a step releases it,
under its tag and in the phase that the steps since its opening bring it to. Phases never move backwards,
and the numbers that are returned count the phases that change. -/
theorem connection_phases {config : Config} {world : World} {started o : Observatory} {records : List Record}
    {steps : List Step} (hstart : Observatory.start config world = .ok (started, records))
    (run : Run started steps o) :
    (∀ earlier opening later tag id, steps = earlier ++ opening :: later →
      opening.event = .openConnection tag → (opening.before.openConnection tag).result = .ok id →
      (o.routing.drains.get? id = none ↔ ∃ s ∈ later, s.releases id = true) ∧
        ∀ c, o.routing.drains.get? id = some c → c.tag = tag ∧ c.phase = lawfulPhase tag later) ∧
      (∀ s ∈ steps, ∀ id c d, s.before.routing.drains.get? id = some c → o.routing.drains.get? id = some d →
        c.phase.rank ≤ d.phase.rank) ∧
      (∀ tag, (o.routing.drains.markDraining tag).2.1 =
        o.routing.drains.phaseChanges (o.routing.drains.markDraining tag).1) ∧
      (∀ tag, (o.routing.drains.retire tag).2.1 =
        o.routing.drains.phaseChanges (o.routing.drains.retire tag).1) ∧
      ∀ n, o.stopResult? .first = some n →
        ∃ s ∈ steps, s.forces = true ∧ s.before.routing.drains.phaseChanges s.after.routing.drains = n := by
  have hstarted : Reachable started := ⟨config, world, started, records, [], hstart, .refl⟩
  have htracked := (hstarted.run run).tracked
  refine ⟨?_, ?_, fun tag => DrainTracker.advanceAll_counts htracked.ids tag .draining,
    fun tag => DrainTracker.advanceAll_counts htracked.ids tag .retired, ?_⟩
  · rintro earlier opening later tag id rfl hevent hopened
    obtain ⟨hbefore, happens, hafter⟩ := run.around
    exact Run.phase_of_opened (hstarted.run hbefore) (hevent ▸ happens) hopened hafter
  · intro s hs id c d hc hd
    obtain ⟨earlier, later, rfl⟩ := List.append_of_mem hs
    obtain ⟨hbefore, happens, hafter⟩ := run.around
    exact Run.rank_le (hstarted.run hbefore) ((Run.single happens).trans hafter) hc hd
  · intro n hstopped
    have hcount : o.forcedCount? = some n := by
      simp only [Observatory.stopResult?] at hstopped
      split at hstopped
      · rename_i forced hstage
        simpa only [Observatory.forcedCount?, hstage] using hstopped
      · cases hstopped
    rcases Run.forcedCount? hstarted run hcount with hold | hmade
    · rw [Observatory.forcedCount?_registrations (Observatory.registrations_of_start hstart)] at hold
      cases hold
    · exact hmade

/-- A connection that was open when its tag was unregistered stays retired when the tag is registered again.
-/
theorem phase_after_new_registration :
    ∃ steps o c, Run (.create Config.bare World.desert) steps o ∧ o.routing.drains.get? 1 = some c ∧
      o.registry.contains "a" = true ∧ c.tag = "a" ∧ c.phase = .retired := by
  let target : ProbeTarget := ⟨"a", fun _ => .instant⟩
  let first := (Observatory.create Config.bare World.desert).register "a" target none
  let second := first.after.openConnection "a"
  let third := second.after.unregister "a"
  let last := third.after.register "a" target none
  have run : Run (.create Config.bare World.desert)
      ([⟨_, .register "a" target, first.after, first.records⟩] ++
        ⟨first.after, .openConnection "a", second.after, second.records⟩ ::
          [⟨second.after, .unregister "a", third.after, third.records⟩,
            ⟨third.after, .register "a" target, last.after, last.records⟩]) last.after :=
    (((Run.refl.step rfl).step rfl).step rfl).step rfl
  obtain ⟨records, hstart⟩ := start_bare
  have hlaw := (connection_phases hstart run).1 _ _ _ "a" 1 rfl rfl (by rfl)
  have hopen : (last.after.routing.drains.get? 1).isSome = true := by decide +kernel
  obtain ⟨c, hc⟩ := Option.isSome_iff_exists.mp hopen
  obtain ⟨htag, hphase⟩ := hlaw.2 c hc
  exact ⟨_, _, c, run, hc, by decide +kernel, htag, hphase.trans (by decide +kernel)⟩

end OutboundWatch
