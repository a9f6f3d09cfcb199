import OutboundWatch.Proofs.Operations
import OutboundWatch.Proofs.Ranking

/-!
# Agreement of the parts

The registry, the ranking, the map of running cycles and the selector are stored apart and are changed one
after the other. Every call and every move keeps them in agreement about which tag is registered under which
generation, whatever is still on its way to the publisher.
-/

namespace OutboundWatch

/-- The registered tags, each with its generation. -/
def Registry.generations (r : Registry) : List (String × Nat) :=
  r.candidates.generations Candidate.generation

/-- The ranked tags, each with its generation. -/
def Snapshot.generations (s : Snapshot) : List (String × Nat) :=
  s.entries.map fun status => (status.tag, status.generation)

/-- The probed tags, each with its generation. -/
def Scheduler.generations (s : Scheduler) : List (String × Nat) :=
  s.running.generations RunningCycle.generation

/-- All parts know the same registrations. Only observations are on their way to the publisher, so that
nothing there can add or end a registration. -/
structure Agreement (o : Observatory) : Prop where
  keyed : o.registry.candidates.KeyedBy Candidate.tag
  faithful : o.routing.table.Faithful
  ranked : ∀ tag, (o.routing.table.members.get? tag).map Status.generation =
    (o.registry.get? tag).map Candidate.generation
  probed : o.isStopped = false → ∀ tag, (o.scheduler.running.get? tag).map RunningCycle.generation =
    (o.registry.get? tag).map Candidate.generation
  held : ∀ tag, o.heldBest = some tag → o.registry.contains tag = true
  observations : ∀ update ∈ o.publisher.feed.queued, update.IsObservation

namespace Agreement

variable {o p : Observatory}

lemma create (config : Config) (world : World) : Agreement (.create config world) where
  keyed := .empty
  faithful := RankingTable.faithful_empty
  ranked _ := rfl
  probed _ _ := rfl
  held _ h := by cases h
  observations _ h := by cases h

lemma frame (h : Agreement o) (hregistry : p.registry = o.registry)
    (htable : p.routing.table = o.routing.table)
    (hheld : p.routing.selector.held = o.routing.selector.held)
    (hrunning : p.scheduler.running = o.scheduler.running) (hstage : p.isStopped = o.isStopped)
    (hqueued : p.publisher.feed.queued = o.publisher.feed.queued) : Agreement p where
  keyed := by rw [hregistry]; exact h.keyed
  faithful := by rw [htable]; exact h.faithful
  ranked := by rw [hregistry, htable]; exact h.ranked
  probed := by rw [hregistry, hrunning, hstage]; exact h.probed
  held tag htag := by
    rw [hregistry]
    exact h.held tag (hheld.symm.trans htag)
  observations := by rw [hqueued]; exact h.observations

lemma enroll (h : Agreement o) (tag : String) (target : ProbeTarget) (source : Option TargetConfig) :
    Agreement (o.enroll tag target source) where
  keyed := h.keyed.insert (Candidate.mk tag o.registry.nextGeneration target source)
  faithful := h.faithful.apply [.register tag o.registry.nextGeneration]
  ranked key := by
    have hbefore := h.ranked key
    simp only [Observatory.enroll, Routing.apply, Registry.get?, RankingTable.members_apply, List.foldl_cons,
      List.foldl_nil, RankingTable.step_register, TagMap.get?_insert] at hbefore ⊢
    split
    · rfl
    · exact hbefore
  probed hrunning key := by
    have hbefore := h.probed hrunning key
    simp only [Observatory.enroll, Registry.get?, Scheduler.get?_running_spawn,
      TagMap.get?_insert] at hbefore ⊢
    split
    · rfl
    · exact hbefore
  held key hkey := by
    have hbefore := h.held key hkey
    simp only [Observatory.enroll, Registry.contains, TagMap.contains, TagMap.get?_insert] at hbefore ⊢
    split
    · rfl
    · exact hbefore
  observations := h.observations

lemma dismiss (h : Agreement o) {tag : String} {candidate : Candidate}
    (hregistered : o.registry.get? tag = some candidate) :
    Agreement (o.dismiss tag candidate.generation) where
  keyed := h.keyed.erase tag
  faithful := h.faithful.apply _
  ranked key := by
    have hbefore := h.ranked key
    simp only [Observatory.dismiss, Registry.get?, RankingTable.members_apply, List.foldl_cons,
      List.foldl_nil, RankingTable.get?_step_remove, TagMap.get?_erase] at hbefore hregistered ⊢
    by_cases hkey : key = tag
    · subst hkey
      rw [hregistered] at hbefore
      obtain ⟨s, hs, hgeneration⟩ := Option.map_eq_some_iff.mp hbefore
      simp [hs, hgeneration, Option.filter]
    · rw [if_neg hkey, ← hbefore]
      cases o.routing.table.members.get? key <;> simp [hkey, Option.filter]
  probed hrunning key := by
    have hbefore := h.probed hrunning key
    simp only [Observatory.dismiss, Registry.get?, Scheduler.get?_running_cancel,
      TagMap.get?_erase] at hbefore ⊢
    split
    · rfl
    · exact hbefore
  held key hkey := by
    simp only [Observatory.dismiss, Observatory.heldBest, Routing.held, Selector.release] at hkey
    split at hkey
    · cases hkey
    · rename_i hother
      have hne : key ≠ tag := fun heq => hother (heq ▸ hkey)
      have hbefore := h.held key hkey
      simpa [Observatory.dismiss, Registry.contains, TagMap.contains, TagMap.get?_erase, hne] using hbefore
  observations := h.observations

lemma register (h : Agreement o) (tag : String) (target : ProbeTarget) (source : Option TargetConfig) :
    Agreement (o.register tag target source).after :=
  o.register_keeps tag target source h fun _ _ => h.enroll tag target source

lemma registerConfigured (h : Agreement o) (candidate : CandidateConfig) :
    Agreement (o.registerConfigured candidate).after :=
  o.registerConfigured_keeps candidate h fun target _ _ =>
    h.enroll candidate.tag target (some candidate.target)

lemma unregister (h : Agreement o) (tag : String) : Agreement (o.unregister tag).after :=
  o.unregister_keeps tag h fun _ hregistered => h.dismiss hregistered

lemma selectBest (h : Agreement o) : Agreement o.selectBest.1 := by
  rcases o.selectBest_cases with hsame | ⟨chosen, hranked, -, hselected⟩
  · rw [hsame]
    exact h
  · rw [hselected]
    refine ⟨h.keyed, h.faithful, h.ranked, h.probed, ?_, h.observations⟩
    intro tag htag
    cases htag
    have hmember : o.routing.table.members.get? chosen.tag = some chosen :=
      (h.faithful.mem_entries_iff chosen).mp hranked
    have hregistered := h.ranked chosen.tag
    rw [hmember] at hregistered
    obtain ⟨candidate, hcandidate, -⟩ := Option.map_eq_some_iff.mp hregistered.symm
    exact (TagMap.contains_iff _ _).mpr ⟨candidate, hcandidate⟩

lemma openConnection (h : Agreement o) (tag : String) : Agreement (o.openConnection tag).after := by
  rcases o.openConnection_cases tag with ⟨e, hrefused⟩ | ⟨-, -, hopened, -⟩
  · rw [hrefused]
    exact h
  · rw [hopened]
    exact h.frame rfl rfl rfl rfl rfl rfl

lemma stop (h : Agreement o) : Agreement o.stop.1 := by
  rcases o.stop_cases with ⟨-, hsame⟩ | ⟨-, hstopped⟩
  · rw [hsame]
    exact h
  · rw [hstopped]
    exact ⟨h.keyed, h.faithful, h.ranked, (fun hrunning => by cases hrunning), h.held, h.observations⟩

/-- A batch of observations replaces statuses within their generations. -/
lemma publisher (h : Agreement o) {move : PublisherMove} {records : List Record}
    (happens : o.perform? (.publisher move) = some (p, records)) : Agreement p := by
  obtain ⟨publisher, table, hmove, rfl⟩ := Observatory.perform?_publisher happens
  obtain ⟨hqueued, rfl, -, -, -⟩ := Publisher.move?_cases hmove
  have htaken : ∀ update ∈ o.publisher.feed.queued.take (o.publisher.taken move), update.IsObservation :=
    fun update hupdate => h.observations update (List.mem_of_mem_take hupdate)
  refine ⟨h.keyed, h.faithful.apply _, ?_, h.probed, h.held, ?_⟩
  · intro tag
    rw [RankingTable.members_apply, RankingTable.get?_foldl_observations h.faithful.keyed htaken,
      Option.map_map,
      ← h.ranked tag]
    congr 1
    funext s
    simp
  · intro update hupdate
    rw [hqueued] at hupdate
    exact h.observations update (List.mem_of_mem_drop hupdate)

lemma deliver (h : Agreement o) {now : Moment} {id : Nat} {records : List Record}
    (happens : o.perform? (.deliver now id) = some (p, records)) : Agreement p := by
  obtain ⟨c, status, -, -, hdeliver⟩ := Observatory.perform?_deliver happens
  rcases Observatory.deliver?_cases hdeliver with ⟨feed, hsend, rfl⟩ | ⟨-, rfl⟩
  · obtain ⟨-, rfl⟩ := Feed.send?_cases hsend
    refine ⟨h.keyed, h.faithful, h.ranked, h.probed, h.held, ?_⟩
    intro update hupdate
    rcases List.mem_append.mp hupdate with hqueued | hlast
    · exact h.observations update hqueued
    · rw [List.mem_singleton.mp hlast]
      trivial
  · exact h.frame rfl rfl rfl (Scheduler.kept_remove _ _ _).running rfl rfl

/-- Every step but a reconciliation keeps the agreement. -/
theorem perform? (h : Agreement o) {event : Event} {records : List Record}
    (hsingle : ∀ desired, event ≠ .reconcile desired)
    (happens : o.perform? event = some (p, records)) : Agreement p := by
  cases event with
  | register tag target =>
    rw [Observatory.eq_of_perform?_effect happens]
    exact h.register tag target none
  | registerConfigured candidate =>
    rw [Observatory.eq_of_perform?_effect happens]
    exact h.registerConfigured candidate
  | unregister tag =>
    rw [Observatory.eq_of_perform?_effect happens]
    exact h.unregister tag
  | reconcile desired => exact absurd rfl (hsingle desired)
  | selectBest =>
    cases happens
    exact h.selectBest
  | openConnection tag =>
    rw [Observatory.eq_of_perform?_effect happens]
    exact h.openConnection tag
  | stop =>
    cases happens
    exact h.stop
  | cycle now id move =>
    obtain ⟨scheduler, hmove, rfl⟩ := Observatory.perform?_cycle happens
    exact h.frame rfl rfl rfl (Scheduler.kept_move? hmove).running rfl rfl
  | deliver now id => exact h.deliver happens
  | publisher move => exact h.publisher happens
  | connection move =>
    obtain ⟨drains, -, rfl⟩ := Observatory.perform?_connection happens
    exact h.frame rfl rfl rfl rfl rfl rfl
  | signal move =>
    cases happens
    exact h.frame rfl rfl rfl rfl rfl rfl
  | proceedStop now =>
    obtain ⟨hstopped, drains, stage, -, -, -, hstage, rfl⟩ := Observatory.proceedStop?_cases happens
    refine h.frame rfl rfl rfl rfl ?_ rfl
    rw [hstopped]
    simpa [Observatory.isStopped] using hstage

end Agreement

theorem Reachable.agreement {o : Observatory} (ho : Reachable o) : Agreement o :=
  ho.invariant .create fun _ _ _ _ hsingle h happens => h.perform? hsingle happens

/-- In every reachable state the registry and the published ranking have the same tags with the same
generations, the running cycles have them too until a stop, and the tag held as best is registered. A
registration or an unregistration that is refused changes nothing at all. -/
theorem Reachable.same_registrations {o : Observatory} (ho : Reachable o) :
    o.registry.generations.Perm o.ranking.generations ∧
      (o.isStopped = false → o.scheduler.generations.Perm o.registry.generations) ∧
      (∀ tag, o.heldBest = some tag → o.registry.contains tag = true) ∧
      (∀ tag target source e, (o.register tag target source).result = .error e →
        (o.register tag target source).after = o) ∧
      (∀ candidate e, (o.registerConfigured candidate).result = .error e →
        (o.registerConfigured candidate).after = o) ∧
      ∀ tag e, (o.unregister tag).result = .error e → (o.unregister tag).after = o := by
  have h := ho.agreement
  refine ⟨?_, ?_, h.held, ?_, ?_, ?_⟩
  · have hranking : o.ranking.generations.Perm (o.routing.table.members.generations Status.generation) := by
      rw [← h.faithful.keyed.map_values_generations]
      exact h.faithful.published.map _
    exact (TagMap.generations_perm fun tag => (h.ranked tag).symm).trans hranking.symm
  · intro hrunning
    exact TagMap.generations_perm (h.probed hrunning)
  · intro tag target source e hrefused
    rcases o.register_cases tag target source with ⟨_, hsame⟩ | ⟨-, -, -, -, henrolled⟩
    · rw [hsame]
    · rw [henrolled] at hrefused
      cases hrefused
  · intro candidate e hrefused
    rcases o.registerConfigured_cases candidate with ⟨_, hsame⟩ | ⟨_, -, -, -, -, henrolled⟩
    · rw [hsame]
    · rw [henrolled] at hrefused
      cases hrefused
  · intro tag e hrefused
    rcases o.unregister_cases tag with ⟨-, hsame⟩ | ⟨_, -, -, hdismissed⟩
    · rw [hsame]
    · rw [hdismissed] at hrefused
      cases hrefused

/-- A candidate that is registered as the first one is ranked under generation 1. -/
theorem same_registrations_of_one :
    ("a", 1) ∈ ((Observatory.create Config.bare World.desert).register "a" ⟨"a", fun _ => .hangs⟩
      none).after.ranking.generations := by
  have happens :
      (Observatory.create Config.bare World.desert).perform? (.register "a" ⟨"a", fun _ => .hangs⟩) =
      some ((Observatory.create Config.bare World.desert).register "a" ⟨"a", fun _ => .hangs⟩ none).outcome :=
    rfl
  have hperm := (Reachable.same_registrations (reachable_bare.step happens)).1
  refine hperm.mem_iff.mp ?_
  decide +kernel

end OutboundWatch
