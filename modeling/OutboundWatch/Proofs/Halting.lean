import OutboundWatch.Proofs.Order

/-!
# What a stop has settled

From a stop on, every cycle that is left was told to stop, and the publisher knows of the shutdown. When the
stop has come past the publisher, the publisher has ended: its queue is empty, and nobody receives any more.
-/

namespace OutboundWatch

/-- Whether a stop has come past the publisher. -/
def StopStage.isFlushed : StopStage → Bool
  | .draining _ => true
  | .stopped _ => true
  | .overflowed => true
  | _ => false

/-- A publisher that moves has not ended. It runs on, or it ends with nothing queued and receives nothing any
more. -/
lemma Publisher.phase_move? {p after : Publisher} {table published : RankingTable} {move : PublisherMove}
    {records : List Record} (h : p.move? table move = some (after, published, records)) :
    p.phase ≠ .ended ∧
      (after.phase = .running ∨ after.feed.receiving = false ∧ after.feed.queued = []) := by
  cases move with
  | begin =>
    simp only [move?] at h
    split at h <;> cases h
    rename_i hphase
    exact ⟨by simp [hphase], .inl rfl⟩
  | publish count =>
    simp only [move?] at h
    split at h <;> cases h
    rename_i hready
    exact ⟨by simp [hready.1], .inl hready.1⟩
  | flush =>
    simp only [move?] at h
    split at h <;> cases h
    rename_i hready
    exact ⟨by simp [hready.1], .inr ⟨rfl, rfl⟩⟩
  | finish =>
    simp only [move?] at h
    split at h <;> cases h
    rename_i hready
    exact ⟨by simp [hready.1], .inr ⟨rfl, rfl⟩⟩

/-- Every cycle of `t` is one of `s`, and stops if that one does. -/
def Scheduler.Heeds (s t : Scheduler) : Prop :=
  ∀ f ∈ t.faces, ∃ e ∈ s.faces, e.stopping = true → f.stopping = true

namespace Scheduler

variable {s t : Scheduler}

lemma Heeds.of_identities (h : t.faces.map Face.identity ⊆ s.faces.map Face.identity) : s.Heeds t := by
  intro f hf
  obtain ⟨e, he, heq⟩ := List.mem_map.mp (h (List.mem_map_of_mem hf))
  simp only [Face.identity, Prod.mk.injEq] at heq
  exact ⟨e, he, fun hstopping => heq.2.2.2 ▸ hstopping⟩

lemma Heeds.of_faces (h : t.faces = s.faces) : s.Heeds t := .of_identities (h ▸ List.Subset.refl _)

lemma heeds_cancel (s : Scheduler) (tag : String) : s.Heeds (s.cancel tag).1 := by
  rcases s.cancel_cases tag with ⟨-, hsame⟩ | ⟨current, -, hcancelled⟩
  · rw [hsame]
    exact .of_faces rfl
  · intro f hf
    rw [hcancelled] at hf
    change f ∈ (s.requestStop current.id).faces at hf
    rw [faces_requestStop] at hf
    obtain ⟨e, he, rfl⟩ := List.mem_map.mp hf
    refine ⟨e, he, fun hstopping => ?_⟩
    split
    · rfl
    · exact hstopping

lemma heeds_reported (h : s.Sound) (now : Moment) {id : Nat} {c : Cycle} (hc : s.get? id = some c)
    {status : Status} (hstage : c.stage = .reporting status) : s.Heeds (s.reported now c) := by
  obtain ⟨-, hfaces⟩ := h.reported now hc hstage
  intro f hf
  rw [hfaces] at hf
  obtain ⟨e, he, rfl⟩ := List.mem_map.mp hf
  refine ⟨e, he, fun hstopping => ?_⟩
  split
  · exact hstopping
  · exact hstopping

lemma heeds_exit (h : s.Sound) (now : Moment) (c : Cycle) : s.Heeds (s.exit now c).1 := by
  have hfaces : (s.exit now c).1.faces = _ := h.faces_remove now c
  intro f hf
  rw [hfaces] at hf
  exact ⟨f, List.mem_of_mem_filter hf, id⟩

end Scheduler

/-- The shutdown has been announced to cycles and publisher from the stop on, and the publisher has ended when
the stop has come past it. -/
structure Halting (o : Observatory) : Prop where
  ordered : Ordered o
  told : o.isStopped = true → ∀ f ∈ o.scheduler.faces, f.stopping = true
  signalled : o.isStopped = true → o.publisher.signalled = true
  ended : o.stage.isFlushed = true → o.publisher.phase = .ended
  silent : o.publisher.phase = .ended → o.publisher.feed.receiving = false ∧ o.publisher.feed.queued = []

namespace Halting

variable {o p : Observatory}

lemma create (config : Config) (world : World) : Halting (.create config world) where
  ordered := .create config world
  told h := by cases h
  signalled h := by cases h
  ended h := by cases h
  silent h := by cases h

/-- What leaves the stage and the publisher as they are keeps this, if no cycle goes on that was told to
stop. -/
lemma frame (h : Halting o) (hordered : Ordered p) (hstage : p.stage = o.stage)
    (hpublisher : p.publisher = o.publisher) (hheeds : o.scheduler.Heeds p.scheduler) : Halting p where
  ordered := hordered
  told hstopped f hf := by
    have hsame : o.isStopped = true := by rwa [Observatory.isStopped, ← hstage]
    obtain ⟨e, he, hstops⟩ := hheeds f hf
    exact hstops (h.told hsame e he)
  signalled hstopped := by
    have hsame : o.isStopped = true := by rwa [Observatory.isStopped, ← hstage]
    rw [hpublisher]
    exact h.signalled hsame
  ended hflushed := by
    rw [hstage] at hflushed
    rw [hpublisher]
    exact h.ended hflushed
  silent := by
    rw [hpublisher]
    exact h.silent

lemma enroll (h : Halting o) {tag : String} (hgoing : o.isStopped = false)
    (hnone : o.registry.get? tag = none) (target : ProbeTarget) (source : Option TargetConfig) :
    Halting (o.enroll tag target source) where
  ordered := h.ordered.enroll hgoing hnone target source
  told hstopped := by cases hgoing.symm.trans hstopped
  signalled hstopped := by cases hgoing.symm.trans hstopped
  ended := h.ended
  silent := h.silent

lemma dismiss (h : Halting o) {tag : String} {c : Candidate} (hc : o.registry.get? tag = some c) :
    Halting (o.dismiss tag c.generation) :=
  h.frame (h.ordered.dismiss hc) rfl rfl (o.scheduler.heeds_cancel tag)

lemma stop (h : Halting o) : Halting o.stop.1 := by
  have hordered := h.ordered.stop
  rcases o.stop_cases with ⟨-, hsame⟩ | ⟨-, hstopped⟩
  · rw [hsame]
    exact h
  · rw [hstopped] at hordered ⊢
    refine ⟨hordered, ?_, fun _ => rfl, fun hflushed => ?_, h.silent⟩
    · intro _ f hf
      rw [Scheduler.faces_stopAll] at hf
      obtain ⟨e, -, rfl⟩ := List.mem_map.mp hf
      rfl
    · cases hflushed

lemma deliver (h : Halting o) {now : Moment} {id : Nat} {records : List Record}
    (happens : o.perform? (.deliver now id) = some (p, records)) : Halting p := by
  have hordered := h.ordered.deliver happens
  obtain ⟨c, status, hc, hstage, hdeliver⟩ := Observatory.perform?_deliver happens
  rcases Observatory.deliver?_cases hdeliver with ⟨feed, hsend, rfl⟩ | ⟨-, rfl⟩
  · obtain ⟨hreceiving, rfl⟩ := Feed.send?_cases hsend
    have hheeds := Scheduler.heeds_reported h.ordered.sound now hc hstage
    refine ⟨hordered, ?_, h.signalled, h.ended, ?_⟩
    · intro hstopped f hf
      obtain ⟨e, he, hstops⟩ := hheeds f hf
      exact hstops (h.told hstopped e he)
    · intro hended
      rw [(h.silent hended).1] at hreceiving
      cases hreceiving
  · exact h.frame hordered rfl rfl (Scheduler.heeds_exit h.ordered.sound now c)

lemma publisher (h : Halting o) {move : PublisherMove} {records : List Record}
    (happens : o.perform? (.publisher move) = some (p, records)) : Halting p := by
  have hordered := h.ordered.publisher happens
  obtain ⟨publisher, table, hmove, rfl⟩ := Observatory.perform?_publisher happens
  obtain ⟨-, -, hsignalled, -, -⟩ := Publisher.move?_cases hmove
  obtain ⟨hbefore, hafter⟩ := Publisher.phase_move? hmove
  refine ⟨hordered, h.told, fun hstopped => hsignalled.trans (h.signalled hstopped), ?_, ?_⟩
  · intro hflushed
    exact absurd (h.ended hflushed) hbefore
  · intro hended
    rcases hafter with hruns | hsilent
    · rw [hruns] at hended
      cases hended
    · exact hsilent

/-- A stop comes past the publisher only when the publisher has ended. -/
lemma proceedStop (h : Halting o) {now : Moment} {records : List Record}
    (happens : o.perform? (.proceedStop now) = some (p, records)) : Halting p := by
  have hordered := h.ordered.perform? (by simp) happens
  have hended : o.stage = .flushing → o.publisher.phase = .ended := by
    intro hstage
    by_contra hruns
    simp [Observatory.perform?, Observatory.proceedStop?, hstage, Publisher.isRunning, hruns] at happens
  have hstopped := (Observatory.proceedStop?_cases happens).1
  rcases Observatory.proceedStop?_stages happens with ⟨cycles, -, rfl⟩ | ⟨hstage, rfl⟩ |
    ⟨hstage, drains, ticket, -, rfl⟩ | ⟨ticket, drains, forced, hstage, -, rfl⟩
  · refine ⟨hordered, fun _ => h.told hstopped, fun _ => h.signalled hstopped, fun hflushed => ?_, h.silent⟩
    cases hflushed
  · exact ⟨hordered, fun _ => h.told hstopped, fun _ => h.signalled hstopped, fun _ => hended hstage, h.silent⟩
  · exact ⟨hordered, fun _ => h.told hstopped, fun _ => h.signalled hstopped, fun _ => hended hstage, h.silent⟩
  · exact ⟨hordered, fun _ => h.told hstopped, fun _ => h.signalled hstopped,
      fun _ => h.ended (by rw [hstage]; rfl), h.silent⟩

/-- Every step but a reconciliation keeps this. -/
theorem perform? (h : Halting o) {event : Event} {records : List Record}
    (hsingle : ∀ desired, event ≠ .reconcile desired)
    (happens : o.perform? event = some (p, records)) : Halting p := by
  have hordered := h.ordered.perform? hsingle happens
  cases event with
  | register tag target =>
    rw [Observatory.eq_of_perform?_effect happens]
    exact o.register_keeps tag target none h fun hgoing hnone => h.enroll hgoing hnone target none
  | registerConfigured candidate =>
    rw [Observatory.eq_of_perform?_effect happens]
    exact o.registerConfigured_keeps candidate h fun target hgoing hnone =>
      h.enroll hgoing hnone target (some candidate.target)
  | unregister tag =>
    rw [Observatory.eq_of_perform?_effect happens]
    exact o.unregister_keeps tag h fun _ hc => h.dismiss hc
  | reconcile desired => exact absurd rfl (hsingle desired)
  | selectBest =>
    cases happens
    rcases o.selectBest_cases with hsame | ⟨chosen, -, -, hselected⟩
    · rw [hsame]
      exact h
    · rw [hselected] at hordered ⊢
      exact h.frame hordered rfl rfl (.of_faces rfl)
  | openConnection tag =>
    rw [Observatory.eq_of_perform?_effect happens] at hordered ⊢
    rcases o.openConnection_cases tag with ⟨e, hrefused⟩ | ⟨-, -, hopened, -⟩
    · rw [hrefused]
      exact h
    · rw [hopened] at hordered ⊢
      exact h.frame hordered rfl rfl (.of_faces rfl)
  | stop =>
    cases happens
    exact h.stop
  | cycle now id move =>
    obtain ⟨scheduler, hmove, rfl⟩ := Observatory.perform?_cycle happens
    exact h.frame hordered rfl rfl (.of_identities (Scheduler.identities_move? h.ordered.sound hmove))
  | deliver now id => exact h.deliver happens
  | publisher move => exact h.publisher happens
  | connection move =>
    obtain ⟨drains, -, rfl⟩ := Observatory.perform?_connection happens
    exact h.frame hordered rfl rfl (.of_faces rfl)
  | signal move =>
    cases happens
    exact h.frame hordered rfl rfl (.of_faces rfl)
  | proceedStop now => exact h.proceedStop happens

end Halting

theorem Reachable.halting {o : Observatory} (ho : Reachable o) : Halting o :=
  ho.invariant .create fun _ _ _ _ hsingle h happens => h.perform? hsingle happens

end OutboundWatch
