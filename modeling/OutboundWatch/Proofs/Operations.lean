import OutboundWatch.Proofs.Runs
import OutboundWatch.Proofs.Tags

/-!
# What calls and moves change

Each call of an observatory either is refused and changes nothing or has one effect, which is named here
with the condition under which it happens. Cycles leave the map of running cycles alone, and only a report
enters the queue of the publisher.
-/

namespace OutboundWatch

namespace Scheduler

/-- What no move of a cycle changes. -/
structure Kept (s t : Scheduler) : Prop where
  running : t.running = s.running
  settings : t.settings = s.settings
  nextId : t.nextId = s.nextId

variable (s : Scheduler) (now : Moment) (c : Cycle)

lemma kept_returnPermit : s.Kept (s.returnPermit now) := by
  unfold returnPermit
  split <;> exact ⟨rfl, rfl, rfl⟩

lemma kept_remove : s.Kept (s.remove now c) := by
  unfold remove
  split
  · obtain ⟨hrunning, hsettings, hnext⟩ := kept_returnPermit
      { s with
        live := s.live.filter fun other => other.id != c.id
        waiting := s.waiting.filter (· != c.id) } now
    exact ⟨hrunning, hsettings, hnext⟩
  · exact ⟨rfl, rfl, rfl⟩

lemma kept_begin : s.Kept (s.begin now c).1 := by
  unfold begin draw
  dsimp only
  generalize initialDelay? s.settings.interval s.settings.jitterRatio (s.chance s.drawn) = delay
  cases delay with
  | none => exact kept_remove s now c
  | some pause => exact ⟨rfl, rfl, rfl⟩

lemma kept_wake : s.Kept (s.wake now c).1 := by
  unfold wake draw
  dsimp only
  generalize jitteredInterval? s.settings.interval s.settings.jitterRatio (s.chance s.drawn) = delay
  cases delay with
  | none => exact kept_remove s now c
  | some pause =>
    dsimp only
    split <;> exact ⟨rfl, rfl, rfl⟩

lemma kept_complete (trip : RoundTrip) : s.Kept (s.complete now trip c).1 := by
  obtain ⟨hrunning, hsettings, hnext⟩ :=
    kept_returnPermit (s.modify c.id fun _ => (c.finishTrip s.settings now trip).1) now
  exact ⟨hrunning, hsettings, hnext⟩

lemma kept_goOn : s.Kept (s.goOn now c).1 := by
  unfold goOn
  cases c.stage with
  | starting => exact kept_begin s now c
  | sleeping _ => exact kept_wake s now c
  | queued _ => exact ⟨rfl, rfl, rfl⟩
  | probing trip _ => exact kept_complete s now c trip
  | reporting _ => exact ⟨rfl, rfl, rfl⟩

theorem kept_move? {s t : Scheduler} {now : Moment} {id : Nat} {move : CycleMove} {records : List Record}
    (h : s.move? now id move = some (t, records)) : s.Kept t := by
  cases move with
  | advance =>
    obtain ⟨c, -, hc⟩ := Option.map_eq_some_iff.mp h
    have hkept := kept_goOn s now c
    rwa [hc] at hkept
  | quit =>
    obtain ⟨c, -, hc⟩ := Option.map_eq_some_iff.mp h
    cases hc
    exact kept_remove s now c

lemma get?_running_spawn (tag key : String) (generation : Nat) (target : ProbeTarget) :
    (s.spawn tag generation target).running.get? key =
      if key = tag then some ⟨s.nextId, generation⟩ else s.running.get? key := by
  unfold spawn
  rw [TagMap.get?_insert]

lemma get?_running_cancel (tag key : String) :
    (s.cancel tag).1.running.get? key = if key = tag then none else s.running.get? key := by
  unfold cancel
  split
  · rw [TagMap.get?_erase]
  · rename_i hnone
    split
    · rename_i hkey
      rw [hkey, hnone]
    · rfl

end Scheduler

/-- How many of the oldest updates the publisher takes from its queue in a move. -/
def Publisher.taken (p : Publisher) : PublisherMove → Nat
  | .begin => 0
  | .publish count => count
  | .flush => p.feed.queued.length
  | .finish => 0

/-- Whatever the publisher does, it takes the oldest updates from its queue and applies them as one batch.
It stops receiving only after the signal or when nobody sends. -/
theorem Publisher.move?_cases {p after : Publisher} {table published : RankingTable} {move : PublisherMove}
    {records : List Record} (h : p.move? table move = some (after, published, records)) :
    after.feed.queued = p.feed.queued.drop (p.taken move) ∧
      published = (table.apply (p.feed.queued.take (p.taken move))).1 ∧
      after.signalled = p.signalled ∧ after.feed.sending = p.feed.sending ∧
      (after.feed.receiving = p.feed.receiving ∨ p.signalled = true ∨ p.feed.sending = false) := by
  cases move with
  | begin =>
    simp only [move?] at h
    split at h <;> cases h
    exact ⟨rfl, rfl, rfl, rfl, .inl rfl⟩
  | publish count =>
    simp only [move?] at h
    split at h <;> cases h
    exact ⟨rfl, rfl, rfl, rfl, .inl rfl⟩
  | flush =>
    simp only [move?] at h
    split at h <;> cases h
    rename_i hready
    exact ⟨by simp [taken, finish, Feed.abandon], by simp [taken], rfl, rfl, .inr (.inl hready.2)⟩
  | finish =>
    simp only [move?] at h
    split at h <;> cases h
    rename_i hready
    exact ⟨by simp [taken, finish, Feed.abandon, hready.2.2], rfl, rfl, rfl, .inr (.inr hready.2.1)⟩

lemma Feed.send?_cases {f after : Feed} {update : TableUpdate} (h : f.send? update = some after) :
    f.receiving = true ∧ after = { f with queued := f.queued ++ [update] } := by
  unfold send? at h
  split at h <;> cases h
  rename_i hready
  simp only [Bool.and_eq_true] at hready
  exact ⟨hready.1.1, rfl⟩

namespace Observatory

variable (o : Observatory)

/-- A candidate is registered under the next generation, ranked and probed. -/
def enroll (tag : String) (target : ProbeTarget) (source : Option TargetConfig) : Observatory :=
  { o with
    registry := ⟨o.registry.candidates.insert tag ⟨tag, o.registry.nextGeneration, target, source⟩,
      o.registry.nextGeneration + 1⟩
    routing := (o.routing.apply [.register tag o.registry.nextGeneration]).1
    scheduler := o.scheduler.spawn tag o.registry.nextGeneration target }

/-- The registration of a tag under a generation ends. -/
def dismiss (tag : String) (generation : Nat) : Observatory :=
  { o with
    registry := { o.registry with candidates := o.registry.candidates.erase tag }
    scheduler := (o.scheduler.cancel tag).1
    routing :=
      { table := (o.routing.table.apply [.remove tag generation]).1
        selector := o.routing.selector.release tag
        drains := (o.routing.drains.retire tag).1 } }

lemma get?_registry_enroll (tag : String) (target : ProbeTarget) (source : Option TargetConfig) (key : String) :
    (o.enroll tag target source).registry.get? key =
      if key = tag then some ⟨tag, o.registry.nextGeneration, target, source⟩ else o.registry.get? key :=
  TagMap.get?_insert _ _ _ _

lemma get?_registry_dismiss (tag : String) (generation : Nat) (key : String) :
    (o.dismiss tag generation).registry.get? key = if key = tag then none else o.registry.get? key :=
  TagMap.get?_erase _ _ _

/-- A registration is refused without effect or admits the candidate. -/
theorem register_cases (tag : String) (target : ProbeTarget) (source : Option TargetConfig) :
    (∃ e, o.register tag target source = ⟨o, [], .error e⟩) ∨
      (o.isStopped = false ∧ isBlankText tag = false ∧ o.registry.get? tag = none ∧
        (o.register tag target source).after = o.enroll tag target source ∧
        (o.register tag target source).result = .ok o.registry.nextGeneration) := by
  unfold register
  by_cases hstopped : o.isStopped = true
  · exact .inl ⟨.stopped, by simp [hstopped]⟩
  · by_cases hblank : isBlankText tag = true
    · exact .inl ⟨.emptyTag, by simp [hstopped, Registry.insertWith, hblank, ObservatoryError.ofRegistry]⟩
    · by_cases hpresent : o.registry.contains tag = true
      · exact .inl ⟨.duplicateCandidate tag, by
          simp [hstopped, Registry.insertWith, hblank, hpresent, ObservatoryError.ofRegistry]⟩
      · have habsent : o.registry.get? tag = none := TagMap.get?_eq_none_of_not_contains hpresent
        refine .inr ⟨by simpa using hstopped, by simpa using hblank, habsent, ?_⟩
        simp [hstopped, Registry.insertWith, hblank, hpresent, enroll, Followers.enter]

/-- The registration of a configured candidate is refused without effect or admits it with its definition. -/
theorem registerConfigured_cases (candidate : CandidateConfig) :
    (∃ e, o.registerConfigured candidate = ⟨o, [], .error e⟩) ∨
      ∃ target, o.isStopped = false ∧ isBlankText candidate.tag = false ∧
        o.registry.get? candidate.tag = none ∧
        (o.registerConfigured candidate).after = o.enroll candidate.tag target (some candidate.target) ∧
        (o.registerConfigured candidate).result = .ok o.registry.nextGeneration := by
  unfold registerConfigured
  split
  · exact .inl ⟨_, rfl⟩
  · rename_i target _
    rcases o.register_cases candidate.tag (o.network.probeTarget target o.registry.nextGeneration)
      (some candidate.target) with h | h
    · exact .inl h
    · exact .inr ⟨_, h⟩

theorem unregister_cases (tag : String) :
    (o.registry.get? tag = none ∧ o.unregister tag = ⟨o, [], .error (.unknownCandidate tag)⟩) ∨
      ∃ candidate, o.registry.get? tag = some candidate ∧
        (o.unregister tag).after = o.dismiss tag candidate.generation ∧
        (o.unregister tag).result = .ok () := by
  unfold unregister Registry.removeWith
  cases hget : o.registry.get? tag with
  | none => exact .inl ⟨rfl, rfl⟩
  | some candidate => exact .inr ⟨candidate, rfl, rfl, rfl⟩

/-- What an enrollment keeps, a registration keeps, whether it is refused or not. -/
theorem register_keeps {P : Observatory → Prop} (tag : String) (target : ProbeTarget)
    (source : Option TargetConfig) (ho : P o)
    (henroll : o.isStopped = false → o.registry.get? tag = none → P (o.enroll tag target source)) :
    P (o.register tag target source).after := by
  rcases o.register_cases tag target source with ⟨e, hrefused⟩ | ⟨hgoing, -, hnone, henrolled, -⟩
  · rw [hrefused]
    exact ho
  · rw [henrolled]
    exact henroll hgoing hnone

theorem registerConfigured_keeps {P : Observatory → Prop} (candidate : CandidateConfig) (ho : P o)
    (henroll : ∀ target, o.isStopped = false → o.registry.get? candidate.tag = none →
      P (o.enroll candidate.tag target (some candidate.target))) :
    P (o.registerConfigured candidate).after := by
  rcases o.registerConfigured_cases candidate with ⟨e, hrefused⟩ | ⟨target, hgoing, -, hnone, henrolled, -⟩
  · rw [hrefused]
    exact ho
  · rw [henrolled]
    exact henroll target hgoing hnone

theorem unregister_keeps {P : Observatory → Prop} (tag : String) (ho : P o)
    (hdismiss : ∀ candidate, o.registry.get? tag = some candidate → P (o.dismiss tag candidate.generation)) :
    P (o.unregister tag).after := by
  rcases o.unregister_cases tag with ⟨-, hrefused⟩ | ⟨candidate, hregistered, hdismissed, -⟩
  · rw [hrefused]
    exact ho
  · rw [hdismissed]
    exact hdismiss candidate hregistered

/-- A selection holds nothing new, or a ranked tag, and then the connections of a tag that was held before
start draining. -/
theorem selectBest_cases :
    o.selectBest.1 = o ∨
      ∃ chosen ∈ o.ranking.entries, o.heldBest ≠ some chosen.tag ∧
        o.selectBest.1 = { o with routing := { o.routing with
          selector := { o.routing.selector with held := some chosen.tag }
          drains := match o.heldBest with
            | none => o.routing.drains
            | some previous => (o.routing.drains.markDraining previous).1 } } := by
  have hheld : o.heldBest = o.routing.selector.held := rfl
  unfold selectBest Routing.selectBest
  cases hchoose : o.routing.selector.choose o.routing.ranking with
  | none => exact .inl rfl
  | some chosen =>
    have hmem : chosen ∈ o.ranking.entries := by
      unfold Selector.choose at hchoose
      split at hchoose
      · cases hchoose
      · rename_i challenger hfirst
        have hchallenger : challenger ∈ o.ranking.entries := List.mem_of_head? hfirst
        split at hchoose
        · split at hchoose
          · rename_i incumbent hincumbent
            cases hchoose
            split
            · obtain ⟨tag, -, hget⟩ := Option.bind_eq_some_iff.mp hincumbent
              exact List.mem_of_find?_eq_some hget
            · exact hchallenger
          · cases hchoose
            exact hchallenger
        · cases hchoose
    rw [hheld]
    unfold Selector.hold
    cases hprevious : o.routing.selector.held with
    | none => exact .inr ⟨chosen, hmem, by simp, by simp⟩
    | some previous =>
      by_cases hsame : previous = chosen.tag
      · exact .inl (by simp [hsame])
      · exact .inr ⟨chosen, hmem, by simpa using hsame, by simp [hsame]⟩

theorem openConnection_cases (tag : String) :
    (∃ e, o.openConnection tag = ⟨o, [], .error e⟩) ∨
      (o.isStopped = false ∧ o.registry.contains tag = true ∧
        (o.openConnection tag).after =
          { o with routing := { o.routing with drains := (o.routing.drains.openConnection tag).1 } } ∧
        (o.openConnection tag).result = .ok o.routing.drains.nextId) := by
  unfold openConnection
  by_cases hstopped : o.isStopped = true
  · exact .inl ⟨.stopped, by simp [hstopped]⟩
  · by_cases hpresent : o.registry.contains tag = true
    · exact .inr ⟨by simpa using hstopped, hpresent, by simp [hstopped, hpresent],
        by simp [hstopped, hpresent, DrainTracker.openConnection]⟩
    · exact .inl ⟨.unknownCandidate tag, by simp [hstopped, hpresent]⟩

theorem stop_cases :
    (o.isStopped = true ∧ o.stop.1 = o) ∨
      (o.isStopped = false ∧ o.stop.1 = { o with
        signal := o.signal.trigger
        scheduler := o.scheduler.requestStopAll.dismissAll
        publisher := o.publisher.signal
        stage := .joining (o.scheduler.running.values.map RunningCycle.id) }) := by
  unfold stop
  by_cases hstopped : o.isStopped = true
  · exact .inl ⟨hstopped, by simp [hstopped]⟩
  · exact .inr ⟨by simpa using hstopped, by simp [hstopped]⟩

/-- A report is queued, or it ends its cycle because nobody receives it. -/
theorem deliver?_cases {o after : Observatory} {now : Moment} {cycle : Cycle} {status : Status}
    {records : List Record} (h : o.deliver? now cycle status = some (after, records)) :
    (∃ feed, o.publisher.feed.send? (.observe status) = some feed ∧
        after = { o with
          publisher := { o.publisher with feed := feed }
          scheduler := o.scheduler.reported now cycle }) ∨
      (o.publisher.feed.receiving = false ∧
        after = { o with scheduler := (o.scheduler.exit now cycle).1 }) := by
  unfold deliver? at h
  split at h
  · rename_i feed hsend
    cases h
    exact .inl ⟨feed, hsend, rfl⟩
  · split at h
    · cases h
    · rename_i hclosed
      cases h
      exact .inr ⟨by simpa using hclosed, rfl⟩

/-- A stop goes on from one stage to the next one. -/
theorem proceedStop?_stages {o after : Observatory} {now : Moment} {records : List Record}
    (h : o.proceedStop? now = some (after, records)) :
    (∃ cycles, o.stage = .joining cycles ∧ after = { o with stage := .flushing }) ∨
      (o.stage = .flushing ∧ after = { o with stage := .overflowed }) ∨
      (o.stage = .flushing ∧ ∃ drains ticket, o.routing.drains.beginClosing? now = some (drains, ticket) ∧
        after = { o with routing := { o.routing with drains := drains }, stage := .draining ticket }) ∨
      ∃ ticket drains forced, o.stage = .draining ticket ∧
        o.routing.drains.takeClosed ticket = (drains, some forced) ∧
        after = { o with routing := { o.routing with drains := drains }, stage := .stopped forced } := by
  unfold proceedStop? at h
  split at h <;> rename_i hstage
  · split at h <;> cases h
    exact .inl ⟨_, hstage, rfl⟩
  · split at h
    · cases h
    · split at h <;> cases h
      · exact .inr (.inl ⟨hstage, rfl⟩)
      · rename_i drains ticket hbegin
        exact .inr (.inr (.inl ⟨hstage, drains, ticket, hbegin, rfl⟩))
  · split at h <;> cases h
    rename_i htake
    exact .inr (.inr (.inr ⟨_, _, _, hstage, htake, rfl⟩))
  all_goals cases h

/-- A stop that goes on stays a stop and changes at most what the tracker keeps about its closings. -/
theorem proceedStop?_cases {o after : Observatory} {now : Moment} {records : List Record}
    (h : o.proceedStop? now = some (after, records)) :
    o.isStopped = true ∧ ∃ drains stage,
      drains.opened = o.routing.drains.opened ∧ drains.nextId = o.routing.drains.nextId ∧
      drains.forceClosing = o.routing.drains.forceClosing ∧ stage ≠ .running ∧
      after = { o with routing := { o.routing with drains := drains }, stage := stage } := by
  unfold isStopped
  rcases proceedStop?_stages h with ⟨cycles, hstage, rfl⟩ | ⟨hstage, rfl⟩ |
    ⟨hstage, drains, ticket, hbegin, rfl⟩ | ⟨ticket, drains, forced, hstage, htake, rfl⟩
  · exact ⟨by simp [hstage], o.routing.drains, .flushing, rfl, rfl, rfl, by simp, rfl⟩
  · exact ⟨by simp [hstage], o.routing.drains, .overflowed, rfl, rfl, rfl, by simp, rfl⟩
  · obtain ⟨deadline, -, heq⟩ := Option.map_eq_some_iff.mp hbegin
    cases heq
    refine ⟨by simp [hstage], _, .draining o.routing.drains.nextTicket, ?_, ?_, ?_, by simp, rfl⟩ <;> rfl
  · unfold DrainTracker.takeClosed at htake
    split at htake <;> cases htake
    refine ⟨by simp [hstage], _, .stopped forced, ?_, ?_, ?_, by simp, rfl⟩ <;> rfl

variable {o} {p : Observatory} {records : List Record}

lemma perform?_cycle {now : Moment} {id : Nat} {move : CycleMove}
    (happens : o.perform? (.cycle now id move) = some (p, records)) :
    ∃ scheduler, o.scheduler.move? now id move = some (scheduler, records) ∧
      p = { o with scheduler := scheduler } := by
  obtain ⟨⟨scheduler, made⟩, hmove, heq⟩ := Option.map_eq_some_iff.mp happens
  cases heq
  exact ⟨scheduler, hmove, rfl⟩

lemma perform?_deliver {now : Moment} {id : Nat}
    (happens : o.perform? (.deliver now id) = some (p, records)) :
    ∃ c status, o.scheduler.get? id = some c ∧ c.stage = .reporting status ∧
      o.deliver? now c status = some (p, records) := by
  simp only [perform?] at happens
  split at happens
  · cases happens
  · rename_i c hget
    split at happens
    · rename_i status hstage
      exact ⟨c, status, hget, hstage, happens⟩
    · cases happens

lemma perform?_publisher {move : PublisherMove}
    (happens : o.perform? (.publisher move) = some (p, records)) :
    ∃ publisher table, o.publisher.move? o.routing.table move = some (publisher, table, records) ∧
      p = { o with publisher := publisher, routing := { o.routing with table := table } } := by
  obtain ⟨⟨publisher, table, made⟩, hmove, heq⟩ := Option.map_eq_some_iff.mp happens
  cases heq
  exact ⟨publisher, table, hmove, rfl⟩

lemma perform?_connection {move : ConnectionMove}
    (happens : o.perform? (.connection move) = some (p, records)) :
    ∃ drains, o.routing.drains.move? move = some (drains, records) ∧
      p = { o with routing := { o.routing with drains := drains } } := by
  obtain ⟨⟨drains, made⟩, hmove, heq⟩ := Option.map_eq_some_iff.mp happens
  cases heq
  exact ⟨drains, hmove, rfl⟩

lemma eq_of_perform?_effect {α : Type} {e : Effect α} (happens : some e.outcome = some (p, records)) :
    p = e.after := by
  cases happens
  rfl

end Observatory

end OutboundWatch
