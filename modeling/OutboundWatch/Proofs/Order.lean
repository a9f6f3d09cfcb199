import OutboundWatch.Proofs.Agreement
import OutboundWatch.Proofs.Cycles

/-!
# Generations and cycles in order

A generation is given out once. Whatever carries a generation, a cycle or a queued observation, was made for
the registration with this generation, and the cycle of a registration is told to stop only when the
registration or the whole observatory ends.
-/

namespace OutboundWatch

/-- The generation and the tag that an update is about. -/
def TableUpdate.subject : TableUpdate → Nat × String
  | .register tag generation => (generation, tag)
  | .observe status => (status.generation, status.tag)
  | .remove tag generation => (generation, tag)

/-- Who a cycle is, and whether it was told to stop. -/
def Face.identity (f : Face) : Nat × String × Nat × Bool := (f.id, f.tag, f.generation, f.stopping)

/-- The generation and the tag that a cycle works for. -/
def Face.subject (f : Face) : Nat × String := (f.generation, f.tag)

namespace Observatory

/-- The generations and tags that cycles and queued updates are about. -/
def subjects (o : Observatory) : List (Nat × String) :=
  o.scheduler.faces.map Face.subject ++ o.publisher.feed.queued.map TableUpdate.subject

end Observatory

structure Ordered (o : Observatory) : Prop where
  agreement : Agreement o
  sound : o.scheduler.Sound
  registered : ∀ tag c, o.registry.get? tag = some c → c.generation < o.registry.nextGeneration
  given : ∀ subject ∈ o.subjects, subject.1 < o.registry.nextGeneration
  attributed : ∀ tag c, o.registry.get? tag = some c →
    ∀ subject ∈ o.subjects, subject.1 = c.generation → subject.2 = tag
  willing : o.isStopped = false → ∀ tag c, o.registry.get? tag = some c →
    ∀ f ∈ o.scheduler.faces, f.generation = c.generation → f.stopping = false
  running : ∀ tag r, o.scheduler.running.get? tag = some r →
    r.id < o.scheduler.nextId ∧ ∀ f ∈ o.scheduler.faces, f.id = r.id → f.tag = tag
  listening : o.isStopped = false → o.publisher.feed.receiving = true ∧ o.publisher.feed.sending = true ∧
    o.publisher.signalled = false

lemma Scheduler.identities_move? {s t : Scheduler} (h : s.Sound) {now : Moment} {id : Nat} {move : CycleMove}
    {records : List Record} (happens : s.move? now id move = some (t, records)) :
    t.faces.map Face.identity ⊆ s.faces.map Face.identity := by
  obtain ⟨-, c, -, ⟨r, -, -, hfaces⟩ | ⟨-, hfaces | ⟨hfaces, -⟩⟩⟩ := Scheduler.move?_cases h happens
  · rw [hfaces, List.map_map]
    have hsame : (Face.identity ∘ fun f => if f.id = id then f.classify s.settings.classifier r else f) =
        Face.identity := by
      funext f
      rw [Function.comp_apply]
      split <;> rfl
    rw [hsame]
    exact List.Subset.refl _
  · rw [hfaces]
    exact List.Subset.refl _
  · rw [hfaces]
    exact (List.filter_sublist.map _).subset

namespace Ordered

variable {o p : Observatory}

lemma create (config : Config) (world : World) : Ordered (.create config world) where
  agreement := .create config world
  sound := .create _ _ _
  registered _ _ h := by cases h
  given _ h := by cases h
  attributed _ _ h := by cases h
  willing _ _ _ h := by cases h
  running _ _ h := by cases h
  listening _ := ⟨rfl, rfl, rfl⟩

/-- What leaves the registry as it is, makes no new cycle, tells none to stop and queues nothing of another
subject keeps the order. -/
lemma frame (h : Ordered o) (hagreement : Agreement p) (hsound : p.scheduler.Sound)
    (hregistry : p.registry = o.registry) (hstage : p.isStopped = o.isStopped)
    (hidentities : p.scheduler.faces.map Face.identity ⊆ o.scheduler.faces.map Face.identity)
    (hsubjects : p.subjects ⊆ o.subjects) (hrunning : p.scheduler.running = o.scheduler.running)
    (hnext : p.scheduler.nextId = o.scheduler.nextId)
    (hlistening : o.isStopped = false → p.publisher.feed.receiving = true ∧ p.publisher.feed.sending = true ∧
      p.publisher.signalled = false) : Ordered p := by
  have hface : ∀ f ∈ p.scheduler.faces, ∃ e ∈ o.scheduler.faces, e.identity = f.identity := fun f hf =>
    List.mem_map.mp (hidentities (List.mem_map_of_mem hf))
  refine ⟨hagreement, hsound, ?_, ?_, ?_, ?_, ?_, ?_⟩
  · rw [hregistry]
    exact h.registered
  · rw [hregistry]
    exact fun subject hsubject => h.given subject (hsubjects hsubject)
  · rw [hregistry]
    exact fun tag c hc subject hsubject => h.attributed tag c hc subject (hsubjects hsubject)
  · rw [hregistry, hstage]
    intro hgoing tag c hc f hf hgeneration
    obtain ⟨e, he, heq⟩ := hface f hf
    simp only [Face.identity, Prod.mk.injEq] at heq
    rw [← heq.2.2.2]
    exact h.willing hgoing tag c hc e he (heq.2.2.1.trans hgeneration)
  · rw [hrunning, hnext]
    intro tag r hr
    obtain ⟨hless, hown⟩ := h.running tag r hr
    refine ⟨hless, fun f hf hid => ?_⟩
    obtain ⟨e, he, heq⟩ := hface f hf
    simp only [Face.identity, Prod.mk.injEq] at heq
    rw [← heq.2.1]
    exact hown e he (heq.1.trans hid)
  · rw [hstage]
    exact hlistening

lemma unseen (h : Ordered o) (hagreement : Agreement p) (hregistry : p.registry = o.registry)
    (hscheduler : p.scheduler = o.scheduler) (hpublisher : p.publisher = o.publisher)
    (hstage : p.isStopped = o.isStopped) : Ordered p := by
  refine h.frame hagreement ?_ hregistry hstage ?_ ?_ ?_ ?_ ?_
  · rw [hscheduler]; exact h.sound
  · rw [hscheduler]; exact List.Subset.refl _
  · rw [Observatory.subjects, hscheduler, hpublisher]; exact List.Subset.refl _
  · rw [hscheduler]
  · rw [hscheduler]
  · rw [hpublisher]; exact h.listening

/-- Without a registration there is no running cycle, unless all were told to stop. -/
lemma not_running (h : Ordered o) {tag : String} (hgoing : o.isStopped = false)
    (hnone : o.registry.get? tag = none) :
    o.scheduler.running.get? tag = none := by
  have hprobed := h.agreement.probed hgoing tag
  simpa [hnone] using hprobed

/-- A new registration gets a generation that nothing carries yet, and a cycle that goes on. -/
lemma enroll (h : Ordered o) {tag : String} (hgoing : o.isStopped = false)
    (hnone : o.registry.get? tag = none)
    (target : ProbeTarget) (source : Option TargetConfig) : Ordered (o.enroll tag target source) := by
  have hidle := h.not_running hgoing hnone
  have hunused : ∀ f ∈ o.scheduler.faces, f.generation < o.registry.nextGeneration := fun f hf =>
    h.given f.subject (List.mem_append_left _ (List.mem_map_of_mem hf))
  have hfaces : (o.enroll tag target source).scheduler.faces = o.scheduler.faces ++
      [⟨o.scheduler.nextId, tag, o.registry.nextGeneration, false, Health.fresh, none⟩] :=
    Scheduler.faces_spawn hidle target
  have hface : ∀ f ∈ (o.enroll tag target source).scheduler.faces, f ∈ o.scheduler.faces ∨
      f = ⟨o.scheduler.nextId, tag, o.registry.nextGeneration, false, Health.fresh, none⟩ := by
    intro f hf
    rw [hfaces] at hf
    exact (List.mem_append.mp hf).imp (fun hold => hold) List.mem_singleton.mp
  have hsubject : ∀ subject ∈ (o.enroll tag target source).subjects, subject ∈ o.subjects ∨
      subject = (o.registry.nextGeneration, tag) := by
    intro subject hsubject
    rcases List.mem_append.mp hsubject with hlive | hqueued
    · obtain ⟨f, hf, rfl⟩ := List.mem_map.mp hlive
      rcases hface f hf with hold | rfl
      · exact .inl (List.mem_append_left _ (List.mem_map_of_mem hold))
      · exact .inr rfl
    · exact .inl (List.mem_append_right _ hqueued)
  have hregistry := o.get?_registry_enroll tag target source
  refine ⟨h.agreement.enroll tag target source, ?_, ?_, ?_, ?_, ?_, ?_, h.listening⟩
  · exact h.sound.spawn hidle (fun f hf => Nat.ne_of_lt (hunused f hf)) target
  · intro key c hc
    rw [hregistry] at hc
    split at hc
    · cases hc
      exact Nat.lt_succ_self _
    · exact Nat.lt_succ_of_lt (h.registered key c hc)
  · intro subject hmem
    rcases hsubject subject hmem with hold | rfl
    · exact Nat.lt_succ_of_lt (h.given subject hold)
    · exact Nat.lt_succ_self _
  · intro key c hc subject hmem hgeneration
    rw [hregistry] at hc
    split at hc <;> rename_i hkey
    · cases hc
      rcases hsubject subject hmem with hold | rfl
      · exact absurd hgeneration (Nat.ne_of_lt (h.given subject hold))
      · exact hkey.symm
    · rcases hsubject subject hmem with hold | rfl
      · exact h.attributed key c hc subject hold hgeneration
      · exact absurd hgeneration.symm (Nat.ne_of_lt (h.registered key c hc))
  · intro _ key c hc f hf hgeneration
    rcases hface f hf with hold | rfl
    · rw [hregistry] at hc
      split at hc
      · cases hc
        exact absurd hgeneration (Nat.ne_of_lt (hunused f hold))
      · exact h.willing hgoing key c hc f hold hgeneration
    · rfl
  · intro key r hr
    have hrunning : (o.enroll tag target source).scheduler.running.get? key =
        if key = tag then some ⟨o.scheduler.nextId, o.registry.nextGeneration⟩
        else o.scheduler.running.get? key :=
      Scheduler.get?_running_spawn _ _ _ _ _
    rw [hrunning] at hr
    split at hr <;> rename_i hkey
    · cases hr
      refine ⟨Nat.lt_succ_self _, fun f hf hid => ?_⟩
      rcases hface f hf with hold | rfl
      · exact absurd hid (Nat.ne_of_lt (h.sound.fresh f hold))
      · exact hkey.symm
    · obtain ⟨hless, hown⟩ := h.running key r hr
      refine ⟨Nat.lt_succ_of_lt hless, fun f hf hid => ?_⟩
      rcases hface f hf with hold | rfl
      · exact hown f hold hid
      · exact absurd hid.symm (Nat.ne_of_lt hless)

lemma dismiss (h : Ordered o) {tag : String} {candidate : Candidate}
    (hregistered : o.registry.get? tag = some candidate) : Ordered (o.dismiss tag candidate.generation) := by
  have hregistry := o.get?_registry_dismiss tag candidate.generation
  have hkept : ∀ key c, (o.dismiss tag candidate.generation).registry.get? key = some c →
      key ≠ tag ∧ o.registry.get? key = some c := by
    intro key c hc
    rw [hregistry] at hc
    split at hc
    · cases hc
    · rename_i hkey
      exact ⟨hkey, hc⟩
  have hsound : (o.scheduler.cancel tag).1.Sound := by
    rcases o.scheduler.cancel_cases tag with ⟨-, hsame⟩ | ⟨current, -, hcancelled⟩
    · rw [hsame]
      exact h.sound
    · rw [hcancelled]
      exact (h.sound.requestStop current.id).congr rfl rfl rfl
  -- A face after the cancellation is an old one, and as it was unless its cycle ran for the tag.
  have hface : ∀ f ∈ (o.scheduler.cancel tag).1.faces, ∃ e ∈ o.scheduler.faces, f.id = e.id ∧ f.tag = e.tag ∧
      f.generation = e.generation ∧ (e.tag ≠ tag → f.stopping = e.stopping) := by
    intro f hf
    rcases o.scheduler.cancel_cases tag with ⟨-, hsame⟩ | ⟨current, hcurrent, hcancelled⟩
    · rw [hsame] at hf
      exact ⟨f, hf, rfl, rfl, rfl, fun _ => rfl⟩
    · have hfaces : (o.scheduler.cancel tag).1.faces = (o.scheduler.requestStop current.id).faces := by
        rw [hcancelled]
        rfl
      rw [hfaces, Scheduler.faces_requestStop] at hf
      obtain ⟨e, he, rfl⟩ := List.mem_map.mp hf
      refine ⟨e, he, ?_⟩
      split
      · rename_i hid
        exact ⟨rfl, rfl, rfl, fun hother => absurd ((h.running tag current hcurrent).2 e he hid) hother⟩
      · exact ⟨rfl, rfl, rfl, fun _ => rfl⟩
  have hsubjects : (o.dismiss tag candidate.generation).subjects ⊆ o.subjects := by
    intro subject hsubject
    rcases List.mem_append.mp hsubject with hlive | hqueued
    · obtain ⟨f, hf, rfl⟩ := List.mem_map.mp hlive
      obtain ⟨e, he, -, htag, hgeneration, -⟩ := hface f hf
      refine List.mem_append_left _ (List.mem_map.mpr ⟨e, he, ?_⟩)
      simp [Face.subject, htag, hgeneration]
    · exact List.mem_append_right _ hqueued
  have hnext : (o.scheduler.cancel tag).1.nextId = o.scheduler.nextId := by
    rcases o.scheduler.cancel_cases tag with ⟨-, hsame⟩ | ⟨current, -, hcancelled⟩
    · rw [hsame]
    · rw [hcancelled]
      rfl
  refine ⟨h.agreement.dismiss hregistered, hsound, ?_, ?_, ?_, ?_, ?_, h.listening⟩
  · intro key c hc
    exact h.registered key c (hkept key c hc).2
  · intro subject hsubject
    exact h.given subject (hsubjects hsubject)
  · intro key c hc subject hsubject hgeneration
    exact h.attributed key c (hkept key c hc).2 subject (hsubjects hsubject) hgeneration
  · intro hgoing key c hc f hf hgeneration
    obtain ⟨hkey, hold⟩ := hkept key c hc
    obtain ⟨e, he, -, -, hsame, hstopping⟩ := hface f hf
    have htag : e.tag = key := h.attributed key c hold e.subject
      (List.mem_append_left _ (List.mem_map_of_mem he)) (hsame.symm.trans hgeneration)
    rw [hstopping (by rw [htag]; exact hkey)]
    exact h.willing hgoing key c hold e he (hsame.symm.trans hgeneration)
  · intro key r hr
    have hrunning : (o.scheduler.cancel tag).1.running.get? key =
        if key = tag then none else o.scheduler.running.get? key := Scheduler.get?_running_cancel _ _ _
    change (o.scheduler.cancel tag).1.running.get? key = some r at hr
    rw [hrunning] at hr
    split at hr
    · cases hr
    · obtain ⟨hless, hown⟩ := h.running key r hr
      refine ⟨hnext ▸ hless, fun f hf hid => ?_⟩
      obtain ⟨e, he, hsame, htag, -, -⟩ := hface f hf
      rw [htag]
      exact hown e he (hsame.symm.trans hid)

lemma register (h : Ordered o) (tag : String) (target : ProbeTarget) (source : Option TargetConfig) :
    Ordered (o.register tag target source).after :=
  o.register_keeps tag target source h fun hgoing hnone => h.enroll hgoing hnone target source

lemma registerConfigured (h : Ordered o) (candidate : CandidateConfig) :
    Ordered (o.registerConfigured candidate).after :=
  o.registerConfigured_keeps candidate h fun target hgoing hnone =>
    h.enroll hgoing hnone target (some candidate.target)

lemma unregister (h : Ordered o) (tag : String) : Ordered (o.unregister tag).after :=
  o.unregister_keeps tag h fun _ hregistered => h.dismiss hregistered

lemma stop (h : Ordered o) : Ordered o.stop.1 := by
  have hagreement := h.agreement.stop
  rcases o.stop_cases with ⟨-, hsame⟩ | ⟨-, hstopped⟩
  · rw [hsame]
    exact h
  · rw [hstopped] at hagreement ⊢
    have hsubjects : (o.scheduler.requestStopAll.dismissAll).faces.map Face.subject =
        o.scheduler.faces.map Face.subject := by
      rw [Scheduler.faces_stopAll, List.map_map]
      rfl
    refine ⟨hagreement, h.sound.stopAll, h.registered, ?_, ?_, ?_, ?_, ?_⟩
    · intro subject hsubject
      refine h.given subject ?_
      simpa only [Observatory.subjects, Publisher.signal, hsubjects] using hsubject
    · intro tag c hc subject hsubject
      refine h.attributed tag c hc subject ?_
      simpa only [Observatory.subjects, Publisher.signal, hsubjects] using hsubject
    · intro hgoing
      cases hgoing
    · intro tag r hr
      cases hr
    · intro hgoing
      cases hgoing

lemma cycle (h : Ordered o) {now : Moment} {id : Nat} {move : CycleMove} {records : List Record}
    (happens : o.perform? (.cycle now id move) = some (p, records)) : Ordered p := by
  have hagreement := h.agreement.perform? (by simp) happens
  obtain ⟨scheduler, hmove, rfl⟩ := Observatory.perform?_cycle happens
  have hkept := Scheduler.kept_move? hmove
  have hidentities := Scheduler.identities_move? h.sound hmove
  refine h.frame hagreement (Scheduler.move?_cases h.sound hmove).1 rfl rfl hidentities ?_ hkept.running
    hkept.nextId h.listening
  intro subject hsubject
  rcases List.mem_append.mp hsubject with hlive | hqueued
  · obtain ⟨f, hf, rfl⟩ := List.mem_map.mp hlive
    obtain ⟨e, he, heq⟩ := List.mem_map.mp (hidentities (List.mem_map_of_mem hf))
    simp only [Face.identity, Prod.mk.injEq] at heq
    refine List.mem_append_left _ (List.mem_map.mpr ⟨e, he, ?_⟩)
    simp [Face.subject, heq.2.1, heq.2.2.1]
  · exact List.mem_append_right _ hqueued

lemma deliver (h : Ordered o) {now : Moment} {id : Nat} {records : List Record}
    (happens : o.perform? (.deliver now id) = some (p, records)) : Ordered p := by
  have hagreement := h.agreement.deliver happens
  obtain ⟨c, status, hc, hstage, hdeliver⟩ := Observatory.perform?_deliver happens
  obtain ⟨hmem, hid⟩ := Scheduler.mem_of_get? hc
  rcases Observatory.deliver?_cases hdeliver with ⟨feed, hsend, rfl⟩ | ⟨hclosed, rfl⟩
  · obtain ⟨-, rfl⟩ := Feed.send?_cases hsend
    obtain ⟨hsound, hfaces⟩ := h.sound.reported now hc hstage
    refine h.frame hagreement hsound rfl rfl ?_ ?_ rfl rfl h.listening
    · rw [hfaces, List.map_map]
      have hsame :
          (Face.identity ∘ fun f => if f.id = id then { f with unsent := none } else f) = Face.identity := by
        funext f
        rw [Function.comp_apply]
        split <;> rfl
      rw [hsame]
      exact List.Subset.refl _
    · intro subject hsubject
      simp only [Observatory.subjects, hfaces, List.map_append, List.map_map] at hsubject
      have hsame :
          (Face.subject ∘ fun f => if f.id = id then { f with unsent := none } else f) = Face.subject := by
        funext f
        rw [Function.comp_apply]
        split <;> rfl
      rw [hsame, ← List.append_assoc] at hsubject
      rcases List.mem_append.mp hsubject with hold | hlast
      · exact hold
      · rw [List.mem_singleton.mp hlast]
        have hstatus := h.sound.reports c.face (Scheduler.face_mem hmem) status (by
          simp [Cycle.face, hstage, CycleStage.unsent])
        refine List.mem_append_left _ (List.mem_map.mpr ⟨c.face, Scheduler.face_mem hmem, ?_⟩)
        rw [hstatus]
        rfl
  · have hfewer : (o.scheduler.exit now c).1.faces.Sublist o.scheduler.faces := by
      have hfaces : (o.scheduler.exit now c).1.faces = _ := h.sound.faces_remove now c
      rw [hfaces]
      exact List.filter_sublist
    have hkept := o.scheduler.kept_remove now c
    refine h.frame hagreement (h.sound.remove now c) rfl rfl (hfewer.map _).subset
      ?_ hkept.running hkept.nextId
      h.listening
    exact List.append_subset.mpr ⟨fun _ hsubject => List.mem_append_left _ ((hfewer.map _).subset hsubject),
      fun _ hsubject => List.mem_append_right _ hsubject⟩

lemma publisher (h : Ordered o) {move : PublisherMove} {records : List Record}
    (happens : o.perform? (.publisher move) = some (p, records)) : Ordered p := by
  have hagreement := h.agreement.publisher happens
  obtain ⟨publisher, table, hmove, rfl⟩ := Observatory.perform?_publisher happens
  obtain ⟨hqueued, -, hsignalled, hsending, hreceiving⟩ := Publisher.move?_cases hmove
  refine h.frame hagreement h.sound rfl rfl (List.Subset.refl _) ?_ rfl rfl ?_
  · refine List.append_subset.mpr ⟨fun _ hsubject => List.mem_append_left _ hsubject, ?_⟩
    intro subject hsubject
    simp only [hqueued] at hsubject
    exact List.mem_append_right _ (((List.drop_sublist _ _).map _).subset hsubject)
  · intro hgoing
    obtain ⟨hopen, hsends, hquiet⟩ := h.listening hgoing
    refine ⟨?_, hsending.trans hsends, hsignalled.trans hquiet⟩
    rcases hreceiving with hsame | hsignal | hclosed
    · exact hsame.trans hopen
    · rw [hquiet] at hsignal
      cases hsignal
    · rw [hsends] at hclosed
      cases hclosed

/-- Every step but a reconciliation keeps the order. -/
theorem perform? (h : Ordered o) {event : Event} {records : List Record}
    (hsingle : ∀ desired, event ≠ .reconcile desired)
    (happens : o.perform? event = some (p, records)) : Ordered p := by
  have hagreement := h.agreement.perform? hsingle happens
  cases event with
  | register tag target =>
    rw [Observatory.eq_of_perform?_effect happens]
    exact h.register tag target none
  | registerConfigured candidate =>
    rw [Observatory.eq_of_perform?_effect happens]
    exact h.registerConfigured candidate
  | unregister tag =>
    rw [Observatory.eq_of_perform?_effect happens]
    exact h.unregister tag
  | reconcile desired => exact absurd rfl (hsingle desired)
  | selectBest =>
    cases happens
    rcases o.selectBest_cases with hsame | ⟨chosen, -, -, hselected⟩
    · rw [hsame]
      exact h
    · rw [hselected] at hagreement ⊢
      exact h.unseen hagreement rfl rfl rfl rfl
  | openConnection tag =>
    rw [Observatory.eq_of_perform?_effect happens] at hagreement ⊢
    rcases o.openConnection_cases tag with ⟨e, hrefused⟩ | ⟨-, -, hopened, -⟩
    · rw [hrefused]
      exact h
    · rw [hopened] at hagreement ⊢
      exact h.unseen hagreement rfl rfl rfl rfl
  | stop =>
    cases happens
    exact h.stop
  | cycle now id move => exact h.cycle happens
  | deliver now id => exact h.deliver happens
  | publisher move => exact h.publisher happens
  | connection move =>
    obtain ⟨drains, -, rfl⟩ := Observatory.perform?_connection happens
    exact h.unseen hagreement rfl rfl rfl rfl
  | signal move =>
    cases happens
    exact h.unseen hagreement rfl rfl rfl rfl
  | proceedStop now =>
    obtain ⟨hstopped, drains, stage, -, -, -, hstage, rfl⟩ := Observatory.proceedStop?_cases happens
    refine h.unseen hagreement rfl rfl rfl ?_
    rw [hstopped]
    simpa [Observatory.isStopped] using hstage

end Ordered

theorem Reachable.ordered {o : Observatory} (ho : Reachable o) : Ordered o :=
  ho.invariant .create fun _ _ _ _ hsingle h happens => h.perform? hsingle happens

end OutboundWatch
