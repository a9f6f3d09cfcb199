import Mathlib.Data.List.Induction
import Mathlib.Tactic.Common
import OutboundWatch.Observatory.Reconcile
import OutboundWatch.Observatory.Work

/-!
# Runs of an observatory

An observatory is called from outside and moves by itself. `Observatory.perform?` says what one call or one
move does, in whatever order calls and moves come; `Run` strings such steps together. A cycle that was told
to stop may still finish what it is at, a publisher may take any part of the queue as one batch, and nothing
is assumed about the moments at which things happen.
-/

namespace OutboundWatch

/-- In a list with one more element, a position is that of an earlier element or the last one. -/
lemma getElem?_append_singleton {α : Type} {items : List α} {x last : α} {i : Nat}
    (h : (items ++ [last])[i]? = some x) : items[i]? = some x ∨ (i = items.length ∧ x = last) := by
  rw [List.getElem?_append] at h
  split at h
  · exact .inl h
  · rename_i hlength
    have hindex : i - items.length = 0 := by
      by_contra hpositive
      rw [List.getElem?_eq_none (by simp; omega)] at h
      cases h
    rw [hindex] at h
    exact .inr ⟨by omega, (Option.some.inj h).symm⟩

/-- What a cycle does by itself. -/
inductive CycleMove where
  /-- The end of its stage has come. -/
  | advance
  /-- It was told to stop, and ends. -/
  | quit
  deriving DecidableEq

def Scheduler.move? (s : Scheduler) (now : Moment) (id : Nat) : CycleMove → Option (Scheduler × List Record)
  | .advance => (s.get? id).map (s.goOn now)
  | .quit => ((s.get? id).filter Cycle.stopping).map (s.exit now)

/-- What the publisher does by itself. -/
inductive PublisherMove where
  | begin
  /-- So many of the oldest updates are taken as one batch. -/
  | publish (count : Nat)
  /-- The shutdown signal is followed. -/
  | flush
  /-- Nobody sends any more, and nothing is queued. -/
  | finish
  deriving DecidableEq

namespace Publisher

/-- Publish the oldest `count` updates as one batch. -/
def publishFirst (p : Publisher) (count : Nat) (table : RankingTable) :
    Publisher × RankingTable × List Record :=
  let batch := p.feed.queued.take count
  let (after, changed) := table.apply batch
  ({ p with feed := { p.feed with queued := p.feed.queued.drop count } }, after,
    if changed then [.notice (.rankingPublished batch.length after.snapshot.version)] else [])

def move? (p : Publisher) (table : RankingTable) :
    PublisherMove → Option (Publisher × RankingTable × List Record)
  | .begin => if p.phase = .starting then some (p.begin.1, table, p.begin.2) else none
  | .publish count =>
    if p.phase = .running ∧ 0 < count ∧ count ≤ Feed.maxBatch ∧ count ≤ p.feed.queued.length then
      some (p.publishFirst count table)
    else none
  | .flush => if p.phase = .running ∧ p.signalled then some (p.flush table) else none
  | .finish =>
    if p.phase = .running ∧ p.feed.sending = false ∧ p.feed.queued = [] then
      some (p.finish, table, [.notice .publisherStopped])
    else none

end Publisher

/-- What happens to open connections: their consumers use them, their drains go on, closings look. -/
inductive ConnectionMove where
  | acknowledge (id : Nat) (size : UInt64)
  | beginDrain (id : Nat) (source : List SourcePart) (sink : Sink)
  /-- The connection is dropped, or its drain is given up. -/
  | drop (id : Nat)
  | turn (now : Moment) (id : Nat)
  | interrupt (id : Nat)
  | look (now : Moment) (ticket : Nat)
  deriving DecidableEq

def DrainTracker.move? (t : DrainTracker) : ConnectionMove → Option (DrainTracker × List Record)
  | .acknowledge id size => (t.held? id).map fun _ => (t.acknowledge id size, [])
  | .beginDrain id source sink => (t.held? id).map fun _ => (t.beginDrain id source sink, [])
  | .drop id => (t.get? id).map fun _ => t.release id
  | .turn now id => (t.get? id).map fun _ => t.turnDrain now id
  | .interrupt id => (t.get? id).map fun _ => t.interruptDrain id
  | .look now ticket => (t.closings.find? fun c => c.ticket == ticket).map (t.look now)

/-- What those who wait for the shutdown signal do. -/
inductive SignalMove where
  | subscribe
  | receive (id : Nat)
  | drop (id : Nat)
  deriving DecidableEq

def Signal.move (s : Signal) : SignalMove → Signal
  | .subscribe => s.subscribe.1
  | .receive id => (s.receive id).1
  | .drop id => (s.drop id).1

/-- A call of an observatory, or a move that one of its parts makes. -/
inductive Event where
  | register (tag : String) (target : ProbeTarget)
  | registerConfigured (candidate : CandidateConfig)
  | unregister (tag : String)
  | reconcile (desired : List CandidateConfig)
  | selectBest
  | openConnection (tag : String)
  | stop
  | cycle (now : Moment) (id : Nat) (move : CycleMove)
  /-- A cycle hands over the status that it has to report. -/
  | deliver (now : Moment) (id : Nat)
  | publisher (move : PublisherMove)
  | connection (move : ConnectionMove)
  | signal (move : SignalMove)
  /-- A stop goes on to its next stage. -/
  | proceedStop (now : Moment)

def Effect.outcome {α : Type} (e : Effect α) : Observatory × List Record := (e.after, e.records)

namespace Observatory

/-- The state after an event and what is recorded, if the event is possible. A call that is refused is
possible and has a refusal as its effect. -/
def perform? (o : Observatory) : Event → Option (Observatory × List Record)
  | .register tag target => some (o.register tag target none).outcome
  | .registerConfigured candidate => some (o.registerConfigured candidate).outcome
  | .unregister tag => some (o.unregister tag).outcome
  | .reconcile desired => some (o.reconcile desired).outcome
  | .selectBest => some (o.selectBest.1, o.selectBest.2.2)
  | .openConnection tag => some (o.openConnection tag).outcome
  | .stop => some (o.stop.1, o.stop.2.2)
  | .cycle now id move =>
    (o.scheduler.move? now id move).map fun (scheduler, records) =>
      ({ o with scheduler := scheduler }, records)
  | .deliver now id =>
    match o.scheduler.get? id with
    | none => none
    | some c =>
      match c.stage with
      | .reporting status => o.deliver? now c status
      | _ => none
  | .publisher move =>
    (o.publisher.move? o.routing.table move).map fun (publisher, table, records) =>
      ({ o with publisher := publisher, routing := { o.routing with table := table } }, records)
  | .connection move =>
    (o.routing.drains.move? move).map fun (drains, records) =>
      ({ o with routing := { o.routing with drains := drains } }, records)
  | .signal move => some ({ o with signal := o.signal.move move }, [])
  | .proceedStop now => o.proceedStop? now

end Observatory

/-- One step of a run: an event with the states around it. -/
structure Step where
  before : Observatory
  event : Event
  after : Observatory
  records : List Record

/-- `Run o steps p`: the steps lead from `o` to `p`, the first step first. -/
inductive Run (o : Observatory) : List Step → Observatory → Prop where
  | refl : Run o [] o
  | step {steps : List Step} {p q : Observatory} {event : Event} {records : List Record} :
    Run o steps p → p.perform? event = some (q, records) → Run o (steps ++ [⟨p, event, q, records⟩]) q

/-- The states that an observatory can come to once it has started. -/
def Reachable (o : Observatory) : Prop :=
  ∃ config world started records steps,
    Observatory.start config world = .ok (started, records) ∧ Run started steps o

namespace Run

variable {o p q : Observatory} {steps more : List Step}

theorem trans (first : Run o steps p) (second : Run p more q) : Run o (steps ++ more) q := by
  induction second with
  | refl => simpa using first
  | step _ happens ih =>
    rw [← List.append_assoc]
    exact ih.step happens

lemma single {event : Event} {records : List Record} (happens : o.perform? event = some (p, records)) :
    Run o [⟨o, event, p, records⟩] p := by
  simpa using (Run.refl (o := o)).step happens

theorem split (run : Run o (steps ++ more) q) : ∃ p, Run o steps p ∧ Run p more q := by
  induction more using List.reverseRecOn generalizing q with
  | nil => exact ⟨q, by simpa using run, .refl⟩
  | append_singleton more last ih =>
    rw [← List.append_assoc] at run
    generalize hall : steps ++ more ++ [last] = all at run
    cases run with
    | refl => simp at hall
    | step run happens =>
      obtain ⟨hinit, hlast⟩ := List.append_inj' hall rfl
      simp only [List.cons.injEq, and_true] at hlast
      subst hinit hlast
      obtain ⟨p, hp, hq⟩ := ih run
      exact ⟨p, hp, hq.step happens⟩

/-- A run passes through the states around each of its steps. -/
theorem around {s : Step} (run : Run o (steps ++ s :: more) q) :
    Run o steps s.before ∧ s.before.perform? s.event = some (s.after, s.records) ∧ Run s.after more q := by
  obtain ⟨p, hearlier, hrest⟩ := run.split
  obtain ⟨r, hs, hlater⟩ := (show Run p ([s] ++ more) q from hrest).split
  generalize hone : [s] = one at hs
  cases hs with
  | refl => cases hone
  | step first happens =>
    obtain ⟨hnil, hlast⟩ := List.append_inj' ((List.nil_append [s]).trans hone) rfl
    cases hlast
    subst hnil
    generalize hnone : ([] : List Step) = none at first
    cases first with
    | refl => exact ⟨hearlier, happens, hlater⟩
    | step _ _ => simp at hnone

theorem invariant {P : Observatory → Prop}
    (hstep : ∀ p event q records, P p → p.perform? event = some (q, records) → P q)
    (run : Run o steps p) (ho : P o) : P p := by
  induction run with
  | refl => exact ho
  | step _ happens ih => exact hstep _ _ _ _ ih happens

end Run

/-- The run in which the given events happen one after the other, if it is possible. -/
def Observatory.play? (o : Observatory) : List Event → Option (List Step × Observatory)
  | [] => some ([], o)
  | event :: rest =>
    match o.perform? event with
    | none => none
    | some (p, records) => (p.play? rest).map fun (steps, q) => (⟨o, event, p, records⟩ :: steps, q)

theorem Run.of_play? {o p : Observatory} {events : List Event} {steps : List Step}
    (h : o.play? events = some (steps, p)) : Run o steps p := by
  induction events generalizing o steps with
  | nil =>
    cases h
    exact .refl
  | cons event rest ih =>
    simp only [Observatory.play?] at h
    split at h
    · cases h
    · rename_i middle records happens
      obtain ⟨⟨others, last⟩, hrest, heq⟩ := Option.map_eq_some_iff.mp h
      cases heq
      exact (Run.single happens).trans (ih hrest)

/-- Whether an event registers a configured candidate or unregisters one. -/
def Event.IsRegistration : Event → Prop
  | .registerConfigured _ => True
  | .unregister _ => True
  | _ => False

/-- Registrations of configured candidates and unregistrations lead from `o` to `p`. -/
def Registrations (o p : Observatory) : Prop :=
  ∃ steps, Run o steps p ∧ ∀ s ∈ steps, s.event.IsRegistration

namespace Registrations

variable {o p q : Observatory}

lemma refl (o : Observatory) : Registrations o o := ⟨[], .refl, by simp⟩

lemma trans (first : Registrations o p) (second : Registrations p q) : Registrations o q := by
  obtain ⟨xs, hxs, honly⟩ := first
  obtain ⟨ys, hys, honly'⟩ := second
  refine ⟨xs ++ ys, hxs.trans hys, ?_⟩
  intro s hs
  rcases List.mem_append.mp hs with h | h
  · exact honly s h
  · exact honly' s h

lemma unregister (o : Observatory) (tag : String) : Registrations o (o.unregister tag).after := by
  have happens : o.perform? (.unregister tag) = some (o.unregister tag).outcome := rfl
  exact ⟨_, .single happens, by simp [Event.IsRegistration]⟩

lemma registerConfigured (o : Observatory) (candidate : CandidateConfig) :
    Registrations o (o.registerConfigured candidate).after := by
  have happens :
      o.perform? (.registerConfigured candidate) = some (o.registerConfigured candidate).outcome := rfl
  exact ⟨_, .single happens, by simp [Event.IsRegistration]⟩

lemma registerAll (o : Observatory) (candidates : List CandidateConfig) :
    Registrations o (o.registerAll candidates).after := by
  induction candidates generalizing o with
  | nil => exact refl o
  | cons candidate rest ih =>
    have hfirst := registerConfigured o candidate
    simp only [Observatory.registerAll]
    split
    · exact hfirst
    · exact hfirst.trans (ih _)

lemma reconcileTags (o : Observatory) (desired : List CandidateConfig) (report : ReconcileReport)
    (tags : List String) : Registrations o (o.reconcileTags desired report tags).after := by
  induction tags generalizing o report with
  | nil => exact refl o
  | cons tag rest ih =>
    have hremoval := unregister o tag
    simp only [Observatory.reconcileTags]
    split
    · exact ih o report
    · split
      · split
        · exact hremoval.trans (ih _ _)
        · exact ih o report
      · rename_i next _
        split
        · exact ih o report
        · have hrenewal := hremoval.trans (registerConfigured _ next)
          split
          · exact hrenewal
          · exact hrenewal.trans (ih _ _)

lemma addMissing (o : Observatory) (report : ReconcileReport) (desired : List CandidateConfig) :
    Registrations o (o.addMissing report desired).after := by
  induction desired generalizing o report with
  | nil => exact refl o
  | cons candidate rest ih =>
    have haddition := registerConfigured o candidate
    simp only [Observatory.addMissing]
    split
    · exact ih o report
    · split
      · exact haddition
      · exact haddition.trans (ih _ _)

theorem invariant {P : Observatory → Prop}
    (hstep : ∀ p event q records, event.IsRegistration → P p → p.perform? event = some (q, records) → P q)
    (h : Registrations o p) (ho : P o) : P p := by
  obtain ⟨steps, run, honly⟩ := h
  induction run with
  | refl => exact ho
  | step _ happens ih =>
    have hlast := honly _ (List.mem_append_right _ (List.mem_singleton_self _))
    exact hstep _ _ _ _ hlast (ih fun s hs => honly s (List.mem_append_left _ hs)) happens

/-- A reconciliation does nothing but register configured candidates and unregister candidates. -/
theorem reconcile (o : Observatory) (desired : List CandidateConfig) :
    Registrations o (o.reconcile desired).after := by
  have hkept := reconcileTags o desired ReconcileReport.empty o.registry.tags
  simp only [Observatory.reconcile]
  split
  · exact refl o
  · split
    · exact refl o
    · split
      · exact hkept
      · split
        · exact hkept.trans (addMissing _ _ _)
        · exact hkept.trans (addMissing _ _ _)

end Registrations

lemma Observatory.registrations_of_reconcile {o p : Observatory} {desired : List CandidateConfig}
    {records : List Record} (happens : o.perform? (.reconcile desired) = some (p, records)) :
    Registrations o p := by
  have hafter : (o.reconcile desired).after = p := by
    simpa [perform?, Effect.outcome] using congrArg (Option.map Prod.fst) happens
  exact hafter ▸ Registrations.reconcile o desired

/-- What every step but a reconciliation keeps, every step keeps. -/
theorem Observatory.perform?_invariant {P : Observatory → Prop}
    (hstep : ∀ p event q records, (∀ desired, event ≠ .reconcile desired) → P p →
      p.perform? event = some (q, records) → P q)
    {o p : Observatory} {event : Event} {records : List Record} (ho : P o)
    (happens : o.perform? event = some (p, records)) : P p := by
  by_cases hreconcile : ∃ desired, event = .reconcile desired
  · obtain ⟨desired, rfl⟩ := hreconcile
    refine (registrations_of_reconcile happens).invariant (fun p event q records hevent => ?_) ho
    refine hstep p event q records ?_
    rintro desired rfl
    exact hevent
  · exact hstep _ event _ _ (fun desired h => hreconcile ⟨desired, h⟩) ho happens

/-- A started observatory has come about by registrations. -/
theorem Observatory.registrations_of_start {config : Config} {world : World} {o : Observatory}
    {records : List Record} (hstart : start config world = .ok (o, records)) :
    Registrations (create config world) o := by
  simp only [start] at hstart
  split at hstart
  · cases hstart
  · split at hstart
    · cases hstart
    · split at hstart
      · cases hstart
      · cases hstart
        exact .registerAll _ _

/-- What holds of an observatory without candidates and is kept by every step but a reconciliation holds of
every reachable one. -/
theorem Reachable.invariant {P : Observatory → Prop}
    (hcreate : ∀ config world, P (.create config world))
    (hstep : ∀ p event q records, (∀ desired, event ≠ .reconcile desired) → P p →
      p.perform? event = some (q, records) → P q)
    {o : Observatory} (ho : Reachable o) : P o := by
  have hkeep : ∀ p event q records, P p → p.perform? event = some (q, records) → P q :=
    fun _ _ _ _ => Observatory.perform?_invariant hstep
  obtain ⟨config, world, started, made, steps, hstart, run⟩ := ho
  have hstarted := (Observatory.registrations_of_start hstart).invariant
    (fun p event q records _ => hkeep p event q records) (hcreate config world)
  exact run.invariant hkeep hstarted

theorem Reachable.step {o p : Observatory} {event : Event} {records : List Record} (ho : Reachable o)
    (happens : o.perform? event = some (p, records)) : Reachable p := by
  obtain ⟨config, world, started, made, steps, hstart, run⟩ := ho
  exact ⟨config, world, started, made, _, hstart, run.step happens⟩

/-- A configuration without candidates. -/
def Config.bare : Config where
  classifier := ⟨3, 400⟩
  selector := ⟨.absoluteMs 50⟩

/-- A world in which every round trip fails at once and every draw is zero. -/
def World.desert : World := ⟨0, fun _ => Binary64.ofDecimal false 0 0, Network.unreachable⟩

/-- A valid configuration without candidates starts as it is created. -/
lemma Observatory.start_without_candidates {config : Config} (world : World) (hvalid : config.errors = [])
    (hpermits : ¬maxPermits < config.probe.concurrency.toNat) (hnone : config.candidates = []) :
    ∃ records, start config world = .ok (.create config world, records) := by
  simp only [start, hvalid, ne_eq, not_true_eq_false, if_false, hpermits, hnone]
  exact ⟨_, rfl⟩

lemma start_bare : ∃ records, Observatory.start Config.bare World.desert =
    .ok (.create Config.bare World.desert, records) :=
  Observatory.start_without_candidates _ (by decide +kernel) (by decide +kernel) rfl

lemma reachable_bare : Reachable (.create Config.bare World.desert) := by
  obtain ⟨records, hstart⟩ := start_bare
  exact ⟨_, _, _, records, [], hstart, .refl⟩

theorem Reachable.run {o p : Observatory} {steps : List Step} (ho : Reachable o) (run : Run o steps p) :
    Reachable p :=
  run.invariant (fun _ _ _ _ h happens => h.step happens) ho

end OutboundWatch
