import OutboundWatch.Proofs.Connections
import OutboundWatch.Proofs.Order

/-!
# How connections are tracked

The connections of a reachable observatory have ids of their own. Those without a registration are retired,
and those that are left after a forced closing are force-closed. An observatory that stops makes one
closing.
-/

namespace OutboundWatch

/-- How the stage of a stop and the closings of the tracker belong together: one closing is made, and when
it ends everything is forced. -/
def StopStage.Fits (stage : StopStage) (t : DrainTracker) : Prop :=
  match stage with
  | .draining ticket =>
    (t.forceClosing = false ∧ t.closed = [] ∧ ∃ closing, t.closings = [closing] ∧ closing.ticket = ticket) ∨
      (t.forceClosing = true ∧ t.closings = [] ∧ ∃ forced, t.closed = [(ticket, forced)])
  | .stopped _ => t.forceClosing = true ∧ t.closings = [] ∧ t.closed = []
  | _ => t.forceClosing = false ∧ t.closings = [] ∧ t.closed = []

/-- A closing that waits is the only one of a stop, which has forced nothing yet. -/
lemma StopStage.Fits.waiting {stage : StopStage} {t : DrainTracker} (h : stage.Fits t) {closing : Closing}
    (hclosing : closing ∈ t.closings) :
    stage = .draining closing.ticket ∧ t.forceClosing = false ∧ t.closed = [] ∧ t.closings = [closing] := by
  cases stage with
  | draining ticket =>
    rcases h with ⟨hforce, hclosed, only, honly, rfl⟩ | ⟨-, hnone, -⟩
    · rw [honly] at hclosing
      obtain rfl := List.mem_singleton.mp hclosing
      exact ⟨rfl, hforce, hclosed, honly⟩
    · rw [hnone] at hclosing
      cases hclosing
  | _ =>
    rw [h.2.1] at hclosing
    cases hclosing

/-- After a look, the closing waits on or has ended. -/
lemma StopStage.Fits.look {stage : StopStage} {t : DrainTracker} (h : stage.Fits t) {closing : Closing}
    (now : Moment) (hclosing : closing ∈ t.closings) : stage.Fits (t.look now closing).1 := by
  obtain ⟨rfl, hforce, hclosed, honly⟩ := h.waiting hclosing
  rcases t.look_cases now closing with ⟨-, hforce', hclosed', hclosings⟩ |
    ⟨-, -, hforce', hclosed', hclosings⟩
  · refine .inl ⟨hforce'.trans hforce, hclosed'.trans hclosed,
      { closing with nextLook := now + DrainTracker.lookEvery }, ?_, rfl⟩
    simpa [honly] using hclosings
  · refine .inr ⟨hforce', by simpa [honly] using hclosings, t.forceClose.2, ?_⟩
    rw [hclosed', hclosed]
    rfl

/-- Connections are told apart by their ids, and their phases follow from the state as far as it tells:
without a registration they are retired, and after a forced closing they are force-closed. -/
structure Tracked (o : Observatory) : Prop where
  ordered : Ordered o
  ids : (o.routing.drains.opened.map Connection.id).Nodup
  fresh : ∀ c ∈ o.routing.drains.opened, c.id < o.routing.drains.nextId
  retired : ∀ c ∈ o.routing.drains.opened, o.registry.get? c.tag = none →
    DrainPhase.retired.rank ≤ c.phase.rank
  forced : o.routing.drains.forceClosing = true →
    ∀ c ∈ o.routing.drains.opened, c.phase = .forceClosed
  fits : o.stage.Fits o.routing.drains

lemma Observatory.carries_selectBest (o : Observatory) :
    o.routing.drains.Carries o.selectBest.1.routing.drains (fun tag =>
        if o.heldBest = some tag ∧ (o.selectBest.1.heldBest.any fun other => decide (other ≠ tag)) = true
        then .draining else .active) none ∧
      o.selectBest.1.routing.drains.forceClosing = o.routing.drains.forceClosing ∧
      o.selectBest.1.routing.drains.closings = o.routing.drains.closings ∧
      o.selectBest.1.routing.drains.closed = o.routing.drains.closed ∧
      o.selectBest.1.registry = o.registry ∧ o.selectBest.1.stage = o.stage := by
  rcases o.selectBest_cases with hsame | ⟨chosen, -, hchosen, hselected⟩
  · rw [hsame]
    refine ⟨?_, rfl, rfl, rfl, rfl, rfl⟩
    convert DrainTracker.Carries.of_opened rfl rfl using 1
    funext tag
    refine if_neg ?_
    rintro ⟨hheld, hother⟩
    simp [hheld] at hother
  · have hafter : o.selectBest.1.heldBest = some chosen.tag := by
      rw [hselected]
      rfl
    rw [hafter, hselected]
    cases hheld : o.heldBest with
    | none =>
      refine ⟨?_, rfl, rfl, rfl, rfl, rfl⟩
      convert DrainTracker.Carries.of_opened rfl rfl using 1
      funext tag
      simp [DrainTracker.unpushed]
    | some previous =>
      have hother : chosen.tag ≠ previous := by
        intro heq
        rw [hheld, heq] at hchosen
        exact hchosen rfl
      have hcarries := o.routing.drains.carries_advanceAll previous .draining
      refine ⟨?_, rfl, rfl, rfl, rfl, rfl⟩
      convert hcarries using 1
      · rfl
      · funext tag
        by_cases htag : tag = previous
        · simp [htag, hother]
        · have htag' : ¬previous = tag := fun heq => htag heq.symm
          simp [htag, htag']

namespace Tracked

variable {o p : Observatory}

lemma create (config : Config) (world : World) : Tracked (.create config world) where
  ordered := .create config world
  ids := .nil
  fresh _ h := by cases h
  retired _ h := by cases h
  forced h := by cases h
  fits := ⟨rfl, rfl, rfl⟩

lemma unforced (h : Tracked o) (hgoing : o.isStopped = false) :
    o.routing.drains.forceClosing = false ∧ o.routing.drains.closings = [] := by
  have hrunning : o.stage = .running := by simpa [Observatory.isStopped] using hgoing
  have hfits := h.fits
  rw [hrunning] at hfits
  exact ⟨hfits.1, hfits.2.1⟩

lemma frame (h : Tracked o) (hordered : Ordered p) (hdrains : p.routing.drains = o.routing.drains)
    (hregistry : ∀ tag, p.registry.get? tag = none → o.registry.get? tag = none)
    (hfits : p.stage.Fits p.routing.drains) : Tracked p where
  ordered := hordered
  ids := by rw [hdrains]; exact h.ids
  fresh := by rw [hdrains]; exact h.fresh
  retired := by
    rw [hdrains]
    exact fun c hc hnone => h.retired c hc (hregistry c.tag hnone)
  forced := by rw [hdrains]; exact h.forced
  fits := hfits

/-- What carries the connections on, with a registry in which no more tags are missing than before or the
connections of missing tags are pushed far enough. -/
lemma carry (h : Tracked o) (hordered : Ordered p) {push : String → DrainPhase} {gone : Option Nat}
    (hcarries : o.routing.drains.Carries p.routing.drains push gone)
    (hregistry : ∀ tag, p.registry.get? tag = none → o.registry.get? tag = none ∨ push tag = .retired)
    (hforced : p.routing.drains.forceClosing = true →
      o.routing.drains.forceClosing = true ∨ ∀ tag, push tag = .forceClosed)
    (hfits : p.stage.Fits p.routing.drains) : Tracked p := by
  obtain ⟨hnext, hids, hphases⟩ := hcarries
  refine ⟨hordered, ?_, ?_, ?_, ?_, hfits⟩
  · rw [hids]
    exact h.ids.filter _
  · intro d hd
    obtain ⟨c, hc, hid, -⟩ := hphases d hd
    rw [hnext, ← hid]
    exact h.fresh c hc
  · intro d hd hnone
    obtain ⟨c, hc, -, htag, hrank⟩ := hphases d hd
    rcases hregistry d.tag hnone with hold | hpush
    · have hless := h.retired c hc (by rw [htag]; exact hold)
      omega
    · rw [hpush] at hrank
      omega
  · intro hforce d hd
    obtain ⟨c, hc, -, -, hrank⟩ := hphases d hd
    refine DrainPhase.eq_of_rank ?_
    have hmost : ∀ phase : DrainPhase, phase.rank ≤ DrainPhase.forceClosed.rank := fun phase => by
      cases phase <;> decide
    rcases hforced hforce with hold | hpush
    · have hc := congrArg DrainPhase.rank (h.forced hold c hc)
      have hless := hmost (push d.tag)
      omega
    · have hless := hmost c.phase
      rw [hpush] at hrank
      omega

lemma enroll (h : Tracked o) {tag : String} (hgoing : o.isStopped = false)
    (hnone : o.registry.get? tag = none)
    (target : ProbeTarget) (source : Option TargetConfig) : Tracked (o.enroll tag target source) := by
  refine h.frame (h.ordered.enroll hgoing hnone target source) rfl (fun key hkey => ?_) h.fits
  rw [Observatory.get?_registry_enroll] at hkey
  split at hkey
  · cases hkey
  · exact hkey

lemma dismiss (h : Tracked o) {tag : String} {candidate : Candidate}
    (hregistered : o.registry.get? tag = some candidate) : Tracked (o.dismiss tag candidate.generation) := by
  refine h.carry (h.ordered.dismiss hregistered) (o.routing.drains.carries_advanceAll tag .retired)
    (fun key hkey => ?_) .inl h.fits
  rw [Observatory.get?_registry_dismiss] at hkey
  split at hkey <;> rename_i htag
  · exact .inr (if_pos htag)
  · exact .inl hkey

lemma register (h : Tracked o) (tag : String) (target : ProbeTarget) (source : Option TargetConfig) :
    Tracked (o.register tag target source).after :=
  o.register_keeps tag target source h fun hgoing hnone => h.enroll hgoing hnone target source

lemma registerConfigured (h : Tracked o) (candidate : CandidateConfig) :
    Tracked (o.registerConfigured candidate).after :=
  o.registerConfigured_keeps candidate h fun target hgoing hnone =>
    h.enroll hgoing hnone target (some candidate.target)

lemma unregister (h : Tracked o) (tag : String) : Tracked (o.unregister tag).after :=
  o.unregister_keeps tag h fun _ hregistered => h.dismiss hregistered

lemma selectBest (h : Tracked o) {records : List Record}
    (happens : o.perform? .selectBest = some (p, records)) :
    Tracked p := by
  have hordered := h.ordered.perform? (by simp) happens
  cases happens
  obtain ⟨hcarries, hforce, hclosings, hclosed, hregistry, hstage⟩ := o.carries_selectBest
  refine h.carry hordered hcarries (fun tag hnone => .inl (hregistry ▸ hnone))
    (fun hforced => .inl (hforce ▸ hforced)) ?_
  rw [hstage]
  have hfits := h.fits
  unfold StopStage.Fits at hfits ⊢
  rw [hforce, hclosings, hclosed]
  exact hfits

lemma openConnection (h : Tracked o) (tag : String) (hordered : Ordered (o.openConnection tag).after) :
    Tracked (o.openConnection tag).after := by
  rcases o.openConnection_cases tag with ⟨e, hrefused⟩ | ⟨hgoing, hpresent, hopened, -⟩
  · rw [hrefused]
    exact h
  · rw [hopened] at hordered ⊢
    have hopens : (o.routing.drains.openConnection tag).1.opened =
        o.routing.drains.opened ++ [⟨o.routing.drains.nextId, tag, .active, 0, none⟩] := rfl
    have hmem : ∀ c ∈ (o.routing.drains.openConnection tag).1.opened, c ∈ o.routing.drains.opened ∨
        c = ⟨o.routing.drains.nextId, tag, .active, 0, none⟩ := fun c hc =>
      (List.mem_append.mp (hopens ▸ hc)).imp (fun hold => hold) List.mem_singleton.mp
    refine ⟨hordered, ?_, ?_, ?_, ?_, ?_⟩
    · simp only [hopens, List.map_append, List.map_cons, List.map_nil]
      refine List.nodup_append.mpr ⟨h.ids, by simp, ?_⟩
      intro a ha b hb heq
      obtain ⟨c, hc, rfl⟩ := List.mem_map.mp ha
      have hless := h.fresh c hc
      rw [heq, List.mem_singleton.mp hb] at hless
      exact Nat.lt_irrefl _ hless
    · intro c hc
      rcases hmem c hc with hold | rfl
      · exact Nat.lt_succ_of_lt (h.fresh c hold)
      · exact Nat.lt_succ_self _
    · intro c hc hnone
      rcases hmem c hc with hold | rfl
      · exact h.retired c hold hnone
      · obtain ⟨d, hd⟩ := (TagMap.contains_iff _ _).mp hpresent
        rw [Registry.get?, hd] at hnone
        cases hnone
    · intro hforce
      cases (h.unforced hgoing).1.symm.trans hforce
    · exact h.fits

lemma stop (h : Tracked o) : Tracked o.stop.1 := by
  have hordered := h.ordered.stop
  rcases o.stop_cases with ⟨-, hsame⟩ | ⟨hgoing, hstopped⟩
  · rw [hsame]
    exact h
  · have hrunning : o.stage = .running := by simpa [Observatory.isStopped] using hgoing
    have hfits := h.fits
    rw [hrunning] at hfits
    rw [hstopped] at hordered ⊢
    exact h.frame hordered rfl (fun _ hnone => hnone) hfits

lemma connection (h : Tracked o) {move : ConnectionMove} {records : List Record}
    (happens : o.perform? (.connection move) = some (p, records)) : Tracked p := by
  have hordered := h.ordered.perform? (by simp) happens
  obtain ⟨drains, hmove, rfl⟩ := Observatory.perform?_connection happens
  rcases DrainTracker.move?_cases hmove with ⟨gone, -, hquiet⟩ | ⟨now, ticket, closing, -, hclosing, -, rfl⟩
  · refine h.carry hordered hquiet.toCarries (fun _ hnone => .inl hnone)
      (fun hforce => .inl (hquiet.forceClosing ▸ hforce)) ?_
    have hfits := h.fits
    unfold StopStage.Fits at hfits ⊢
    rw [hquiet.forceClosing, hquiet.closings, hquiet.closed]
    exact hfits
  · have hfits := h.fits.look now hclosing
    rcases o.routing.drains.look_cases now closing with ⟨hcarries, hforce, -⟩ | ⟨hcarries, -⟩
    · exact h.carry hordered hcarries (fun _ hnone => .inl hnone)
        (fun hforced => .inl (hforce ▸ hforced)) hfits
    · exact h.carry hordered hcarries (fun _ hnone => .inl hnone) (fun _ => .inr fun _ => rfl) hfits

lemma proceedStop (h : Tracked o) {now : Moment} {records : List Record}
    (happens : o.perform? (.proceedStop now) = some (p, records)) : Tracked p := by
  have hordered := h.ordered.perform? (by simp) happens
  have hfits := h.fits
  rcases Observatory.proceedStop?_stages happens with ⟨cycles, hstage, rfl⟩ | ⟨hstage, rfl⟩ |
    ⟨hstage, drains, ticket, hbegin, rfl⟩ | ⟨ticket, drains, forced, hstage, htake, rfl⟩
  · rw [hstage] at hfits
    exact h.frame hordered rfl (fun _ hnone => hnone) hfits
  · rw [hstage] at hfits
    exact h.frame hordered rfl (fun _ hnone => hnone) hfits
  · rw [hstage] at hfits
    obtain ⟨hforce, hclosings, hclosed⟩ := hfits
    obtain ⟨deadline, -, heq⟩ := Option.map_eq_some_iff.mp hbegin
    cases heq
    refine ⟨hordered, h.ids, h.fresh, h.retired, h.forced, .inl ⟨hforce, hclosed,
      ⟨o.routing.drains.nextTicket, deadline, now⟩, ?_, rfl⟩⟩
    simp only [hclosings]
    rfl
  · rw [hstage] at hfits
    unfold DrainTracker.takeClosed at htake
    split at htake <;> cases htake
    rename_i hlookup
    rcases hfits with ⟨-, hclosed, -⟩ | ⟨hforce, hclosings, n, hclosed⟩
    · rw [hclosed] at hlookup
      cases hlookup
    · refine ⟨hordered, h.ids, h.fresh, h.retired, h.forced, hforce, hclosings, ?_⟩
      simp [hclosed]

/-- Every step but a reconciliation keeps this. -/
theorem perform? (h : Tracked o) {event : Event} {records : List Record}
    (hsingle : ∀ desired, event ≠ .reconcile desired)
    (happens : o.perform? event = some (p, records)) : Tracked p := by
  have hordered := h.ordered.perform? hsingle happens
  cases event with
  | register tag target =>
    rw [Observatory.eq_of_perform?_effect happens]
    exact h.register tag target none
  | registerConfigured candidate =>
    rw [Observatory.eq_of_perform?_effect happens]
    exact h.registerConfigured candidate
  | unregister tag =>
    rw [Observatory.eq_of_perform?_effect happens]
    exact h.unregister tag
  | reconcile desired => exact absurd rfl (hsingle desired)
  | selectBest => exact h.selectBest happens
  | openConnection tag =>
    rw [Observatory.eq_of_perform?_effect happens] at hordered ⊢
    exact h.openConnection tag hordered
  | stop =>
    cases happens
    exact h.stop
  | cycle now id move =>
    obtain ⟨scheduler, -, rfl⟩ := Observatory.perform?_cycle happens
    exact h.frame hordered rfl (fun _ hnone => hnone) h.fits
  | deliver now id =>
    obtain ⟨c, status, -, -, hdeliver⟩ := Observatory.perform?_deliver happens
    rcases Observatory.deliver?_cases hdeliver with ⟨feed, -, rfl⟩ | ⟨-, rfl⟩
    · exact h.frame hordered rfl (fun _ hnone => hnone) h.fits
    · exact h.frame hordered rfl (fun _ hnone => hnone) h.fits
  | publisher move =>
    obtain ⟨publisher, table, -, rfl⟩ := Observatory.perform?_publisher happens
    exact h.frame hordered rfl (fun _ hnone => hnone) h.fits
  | connection move => exact h.connection happens
  | signal move =>
    cases happens
    exact h.frame hordered rfl (fun _ hnone => hnone) h.fits
  | proceedStop now => exact h.proceedStop happens

end Tracked

theorem Reachable.tracked {o : Observatory} (ho : Reachable o) : Tracked o :=
  ho.invariant .create fun _ _ _ _ hsingle h happens => h.perform? hsingle happens

end OutboundWatch
