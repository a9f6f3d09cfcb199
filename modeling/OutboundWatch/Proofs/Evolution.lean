import OutboundWatch.Proofs.Cycles
import OutboundWatch.Proofs.Snapshots

/-!
# What the parts go through

Whatever happens to an observatory, its scheduler goes through what happens to schedulers, its ranking changes
in batches, and its settings stay.
-/

namespace OutboundWatch

def Cycle.isReporting (c : Cycle) : Bool := c.stage.unsent.isSome

/-- A call of a scheduler, or what happens to one of its cycles. -/
inductive SchedulerEvent where
  | spawn (tag : String) (generation : Nat) (target : ProbeTarget)
  | cancel (tag : String)
  /-- The shutdown signal reaches all cycles. -/
  | signal
  | join
  | move (now : Moment) (id : Nat) (move : CycleMove)
  /-- The status that a cycle reports is taken. -/
  | accept (now : Moment) (id : Nat)
  /-- Nobody takes the status that a cycle reports. -/
  | refuse (now : Moment) (id : Nat)

namespace Scheduler

def perform? (s : Scheduler) : SchedulerEvent → Option Scheduler
  | .spawn tag generation target => some (s.spawn tag generation target)
  | .cancel tag => some (s.cancel tag).1
  | .signal => some s.requestStopAll
  | .join => some s.dismissAll
  | .move now id move => (s.move? now id move).map Prod.fst
  | .accept now id => ((s.get? id).filter Cycle.isReporting).map (s.reported now)
  | .refuse now id => ((s.get? id).filter Cycle.isReporting).map fun c => (s.exit now c).1

/-- The states that a scheduler can come to. -/
inductive Reaches (s : Scheduler) : Scheduler → Prop where
  | refl : Reaches s s
  | step {t u : Scheduler} (event : SchedulerEvent) : Reaches s t → t.perform? event = some u → Reaches s u

variable {s t u : Scheduler}

lemma Reaches.trans (first : s.Reaches t) (second : t.Reaches u) : s.Reaches u := by
  induction second with
  | refl => exact first
  | step event _ happens ih => exact .step event ih happens

lemma settings_requestStop (s : Scheduler) (id : Nat) : (s.requestStop id).settings = s.settings := rfl

lemma settings_foldl_requestStop (told : List RunningCycle) (s : Scheduler) :
    (told.foldl (fun acc current => acc.requestStop current.id) s).settings = s.settings := by
  induction told generalizing s with
  | nil => rfl
  | cons current rest ih => rw [List.foldl_cons, ih, settings_requestStop]

lemma settings_perform? {event : SchedulerEvent} (happens : s.perform? event = some t) :
    t.settings = s.settings := by
  cases event with
  | spawn tag generation target =>
    cases happens
    unfold spawn
    cases s.running.get? tag <;> rfl
  | cancel tag =>
    cases happens
    rcases s.cancel_cases tag with ⟨-, heq⟩ | ⟨current, -, heq⟩ <;> rw [heq]
    rfl
  | signal =>
    cases happens
    rfl
  | join =>
    cases happens
    exact settings_foldl_requestStop _ s
  | move now id move =>
    obtain ⟨⟨after, records⟩, hmove, rfl⟩ := Option.map_eq_some_iff.mp happens
    exact (kept_move? hmove).settings
  | accept now id =>
    obtain ⟨c, -, rfl⟩ := Option.map_eq_some_iff.mp happens
    rfl
  | refuse now id =>
    obtain ⟨c, -, rfl⟩ := Option.map_eq_some_iff.mp happens
    exact (s.kept_remove now c).settings

lemma Reaches.settings (reach : s.Reaches t) : t.settings = s.settings := by
  induction reach with
  | refl => rfl
  | step event _ happens ih => exact (settings_perform? happens).trans ih

end Scheduler

namespace Observatory

/-- How one state of an observatory comes out of another one. -/
structure Evolves (o p : Observatory) : Prop where
  config : p.config = o.config
  scheduler : o.scheduler.Reaches p.scheduler
  published : o.routing.table.Published → p.routing.table.Published

namespace Evolves

variable {o p q : Observatory}

lemma refl (o : Observatory) : o.Evolves o := ⟨rfl, .refl, fun h => h⟩

lemma trans (first : o.Evolves p) (second : p.Evolves q) : o.Evolves q where
  config := second.config.trans first.config
  scheduler := first.scheduler.trans second.scheduler
  published h := second.published (first.published h)

/-- Of the parts that are observed here, at most the scheduler has changed. -/
lemma of_scheduler (hconfig : p.config = o.config) (hreach : o.scheduler.Reaches p.scheduler)
    (htable : p.routing.table = o.routing.table) : o.Evolves p :=
  ⟨hconfig, hreach, fun h => htable ▸ h⟩

lemma enroll (o : Observatory) (tag : String) (target : ProbeTarget) (source : Option TargetConfig) :
    o.Evolves (o.enroll tag target source) :=
  ⟨rfl, .step (.spawn tag o.registry.nextGeneration target) .refl rfl,
    fun h => h.apply [.register tag o.registry.nextGeneration]⟩

lemma dismiss (o : Observatory) (tag : String) (generation : Nat) : o.Evolves (o.dismiss tag generation) :=
  ⟨rfl, .step (.cancel tag) .refl rfl, fun h => h.apply [.remove tag generation]⟩

end Evolves

variable {o p : Observatory} {records : List Record}

/-- Every step but a reconciliation is one in the evolution of the parts. -/
theorem evolves_of_perform? {event : Event} (hsingle : ∀ desired, event ≠ .reconcile desired)
    (happens : o.perform? event = some (p, records)) : o.Evolves p := by
  cases event with
  | register tag target =>
    rw [eq_of_perform?_effect happens]
    exact o.register_keeps tag target none (.refl o) fun _ _ => .enroll o tag target none
  | registerConfigured candidate =>
    rw [eq_of_perform?_effect happens]
    exact o.registerConfigured_keeps candidate (.refl o) fun target _ _ =>
      .enroll o candidate.tag target (some candidate.target)
  | unregister tag =>
    rw [eq_of_perform?_effect happens]
    exact o.unregister_keeps tag (.refl o) fun candidate _ => .dismiss o tag candidate.generation
  | reconcile desired => exact absurd rfl (hsingle desired)
  | selectBest =>
    cases happens
    rcases o.selectBest_cases with heq | ⟨chosen, -, -, heq⟩ <;> rw [heq] <;> exact .of_scheduler rfl .refl rfl
  | openConnection tag =>
    rw [eq_of_perform?_effect happens]
    rcases o.openConnection_cases tag with ⟨e, heq⟩ | ⟨-, -, heq, -⟩ <;> rw [heq] <;>
      exact .of_scheduler rfl .refl rfl
  | stop =>
    cases happens
    rcases o.stop_cases with ⟨-, heq⟩ | ⟨-, heq⟩
    · rw [heq]
      exact .refl o
    · rw [heq]
      have hsignal : o.scheduler.Reaches o.scheduler.requestStopAll := .step .signal .refl rfl
      exact .of_scheduler rfl (.step .join hsignal rfl) rfl
  | cycle now id move =>
    obtain ⟨scheduler, hmove, rfl⟩ := perform?_cycle happens
    exact .of_scheduler rfl (.step (.move now id move) .refl (by simp [Scheduler.perform?, hmove])) rfl
  | deliver now id =>
    obtain ⟨c, status, hc, hstage, hdeliver⟩ := perform?_deliver happens
    have hreporting : (o.scheduler.get? id).filter Cycle.isReporting = some c := by
      simp [hc, Option.filter, Cycle.isReporting, hstage, CycleStage.unsent]
    rcases deliver?_cases hdeliver with ⟨feed, -, rfl⟩ | ⟨-, rfl⟩
    · exact .of_scheduler rfl (.step (.accept now id) .refl (by simp [Scheduler.perform?, hreporting])) rfl
    · exact .of_scheduler rfl (.step (.refuse now id) .refl (by simp [Scheduler.perform?, hreporting])) rfl
  | publisher move =>
    obtain ⟨publisher, table, hmove, rfl⟩ := perform?_publisher happens
    obtain ⟨-, rfl, -⟩ := Publisher.move?_cases hmove
    exact ⟨rfl, .refl, fun h => h.apply _⟩
  | connection move =>
    obtain ⟨drains, -, rfl⟩ := perform?_connection happens
    exact .of_scheduler rfl .refl rfl
  | signal move =>
    cases happens
    exact .of_scheduler rfl .refl rfl
  | proceedStop now =>
    obtain ⟨-, drains, stage, -, -, -, -, rfl⟩ := proceedStop?_cases happens
    exact .of_scheduler rfl .refl rfl

end Observatory

/-- What holds of the evolution of a single step holds of a run. -/
theorem Run.evolves {o p : Observatory} {steps : List Step} (run : Run o steps p) : o.Evolves p := by
  refine run.invariant (P := o.Evolves) (fun q event r records ho happens => ?_) (.refl o)
  refine Observatory.perform?_invariant (P := o.Evolves) ?_ ho happens
  exact fun _ _ _ _ hsingle hq happens => hq.trans (Observatory.evolves_of_perform? hsingle happens)

theorem Observatory.evolves_of_start {config : Config} {world : World} {started : Observatory}
    {records : List Record} (hstart : start config world = .ok (started, records)) :
    (create config world).Evolves started := by
  obtain ⟨steps, run, -⟩ := registrations_of_start hstart
  exact run.evolves

end OutboundWatch
