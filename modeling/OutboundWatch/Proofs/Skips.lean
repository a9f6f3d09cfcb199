import OutboundWatch.Proofs.Ledger
import OutboundWatch.Proofs.Order
import OutboundWatch.Proofs.Pauses
import OutboundWatch.Proofs.Stages

/-!
# When probes are skipped

On a clock that does not go past the end of a stage, a cycle that begins to wait for a permit gives up exactly one
interval later, unless it is handed one. While it waits no permit is free, since one that comes back goes to whoever
waits. So nobody waits at all if there are as many permits as there are cycles.
-/

namespace OutboundWatch

/-- The end of a round trip measures the result and the label that it leads to. -/
lemma Cycle.measurements_finishTrip (settings : CycleSettings) (now : Moment) (trip : RoundTrip) (c : Cycle) :
    (c.finishTrip settings now trip).2.filterMap Record.measurement? =
      [.probe c.tag (trip.judge settings.timeout), .state c.tag (settings.classifier.observe (settings.epoch + now)
        c.health (trip.judge settings.timeout)).state.label] := by
  have hreport : (trip.report c.target.description settings.timeout).filterMap Record.measurement? = [] := by
    unfold RoundTrip.report
    split
    · rfl
    · split <;> rfl
  have htransition (before after : Health) (result : ProbeResult) :
      (transitionRecords c.tag before after result).filterMap Record.measurement? = [] := by
    unfold transitionRecords
    dsimp only
    split
    · split <;> rfl
    · rfl
  unfold finishTrip
  dsimp only
  rw [List.filterMap_append, List.filterMap_append, hreport, htransition]
  rfl

namespace Scheduler

/-- Whether an event can happen at a moment: it reads the moment off the clock, and a cycle goes on when its stage is
over. One that was told to stop may end before. -/
def OnTime (s : Scheduler) (now : Moment) : SchedulerEvent → Prop
  | .move moment id .advance => moment = now ∧ ∀ c ∈ s.get? id, ∀ due ∈ c.dueAt s.settings, due ≤ now
  | .move moment _ .quit => moment = now
  | .accept moment _ => moment = now
  | .refuse moment _ => moment = now
  | _ => True

/-- No stage has been over for some time. -/
def Punctual (s : Scheduler) (now : Moment) : Prop := ∀ c ∈ s.live, ∀ due ∈ c.dueAt s.settings, now ≤ due

/-- What an event records. -/
def recordsOf (s : Scheduler) : SchedulerEvent → List Record
  | .move now id move => (s.move? now id move).elim [] Prod.snd
  | .cancel tag => (s.cancel tag).2.2
  | .refuse now id => ((s.get? id).filter Cycle.isReporting).elim [] fun c => (s.exit now c).2
  | _ => []

end Scheduler

/-- An event that happens to a scheduler at a moment, with the states around it. -/
structure ScheduleStep where
  moment : Moment
  before : Scheduler
  event : SchedulerEvent
  after : Scheduler

def ScheduleStep.records (x : ScheduleStep) : List Record := x.before.recordsOf x.event

/-- `Scheduled start s steps now t`: the steps lead from `s` at the moment `start` to `t` at the moment `now`. The
clock goes on while nobody is at the end of a stage. -/
inductive Scheduled (start : Moment) (s : Scheduler) : List ScheduleStep → Moment → Scheduler → Prop where
  | refl : Scheduled start s [] start s
  | step {steps : List ScheduleStep} {now : Moment} {t u : Scheduler} {event : SchedulerEvent}
    (scheduled : Scheduled start s steps now t) (hontime : t.OnTime now event) (happens : t.perform? event = some u) :
    Scheduled start s (steps ++ [⟨now, t, event, u⟩]) now u
  | pass {steps : List ScheduleStep} {now later : Moment} {t : Scheduler}
    (scheduled : Scheduled start s steps now t) (hlater : now ≤ later) (hpunctual : t.Punctual later) :
    Scheduled start s steps later t

namespace Scheduler

variable {s t : Scheduler} {now : Moment} {event : SchedulerEvent}

lemma OnTime.moment (h : s.OnTime now event) {moment : Moment} (hmoment : event.moment? = some moment) :
    moment = now := by
  cases event with
  | move at_ id move =>
    cases hmoment
    cases move with
    | advance => exact h.1
    | quit => exact h
  | accept at_ id =>
    cases hmoment
    exact h
  | refuse at_ id =>
    cases hmoment
    exact h
  | _ => cases hmoment

lemma le_due_of_begun {stage : CycleStage} (h : Begun now stage) {c : Cycle} (hstage : c.stage = stage)
    {settings : CycleSettings} {due : Moment} (hdue : due ∈ c.dueAt settings) : now ≤ due := by
  subst hstage
  unfold Cycle.dueAt at hdue
  cases hstage : c.stage <;> rw [hstage] at h hdue <;> cases h <;> cases hdue <;> exact Nat.le_add_right _ _

lemma Punctual.perform? (h : s.Punctual now) (hontime : s.OnTime now event) (happens : s.perform? event = some t) :
    t.Punctual now := by
  intro d hd due hdue
  rw [settings_perform? happens] at hdue
  cases staged_perform? happens hd with
  | stays same =>
    obtain ⟨c, hc, -, hstage⟩ := same
    apply h c hc
    unfold Cycle.dueAt at hdue ⊢
    rwa [hstage]
  | starts new =>
    rw [Cycle.dueAt, new] at hdue
    cases hdue
  | begun at_ stage =>
    obtain rfl := hontime.moment at_
    exact le_due_of_begun stage rfl hdue
  | queues own queued =>
    rw [own] at hontime
    obtain ⟨rfl, -⟩ := hontime
    rw [Cycle.dueAt, queued.stage] at hdue
    cases hdue
    exact Nat.le_add_right _ _

/-- What holds of a scheduler at every moment. -/
structure Regular (settings : CycleSettings) (permits : Nat) (chance : Nat → Binary64) (now : Moment)
    (s : Scheduler) : Prop where
  balanced : s.Balanced
  saturated : s.Saturated
  punctual : s.Punctual now
  settings : s.settings = settings
  permits : s.concurrency = permits
  chance : s.chance = chance

variable {settings : CycleSettings} {permits : Nat} {chance : Nat → Binary64}

lemma Regular.perform? (h : s.Regular settings permits chance now) (hontime : s.OnTime now event)
    (happens : s.perform? event = some t) : t.Regular settings permits chance now where
  balanced := (h.balanced.perform? happens).1
  saturated := h.saturated.perform? h.balanced.toSeated happens (h.balanced.perform? happens).1.toSeated
  punctual := h.punctual.perform? hontime happens
  settings := (settings_perform? happens).trans h.settings
  permits := (h.balanced.perform? happens).2.trans h.permits
  chance := (chance_perform? happens).trans h.chance

/-- While a cycle waits for a permit, all permits are held. -/
lemma Regular.full (h : s.Regular settings permits chance now) {id : Nat} {giveUpAt : Moment}
    (hqueued : s.Queued id giveUpAt) :
    (∃ c ∈ s.live, c.id = id ∧ c.isQueued = true) ∧ s.permitsHeld = permits ∧ s.available = 0 := by
  have hheld := h.balanced.all_held h.saturated hqueued
  obtain ⟨c, hc, hid, hstage⟩ := hqueued
  have hisQueued : c.isQueued = true := by simp [Cycle.isQueued, hstage]
  exact ⟨⟨c, hc, hid, hisQueued⟩, hheld.trans h.permits, h.saturated c hc hisQueued⟩

end Scheduler

namespace Scheduled

open Scheduler

variable {start middle now : Moment} {s t u : Scheduler} {steps more : List ScheduleStep} {settings : CycleSettings}
  {permits id : Nat} {chance : Nat → Binary64} {giveUpAt : Moment}

lemma trans (first : Scheduled start s steps middle t) (second : Scheduled middle t more now u) :
    Scheduled start s (steps ++ more) now u := by
  induction second with
  | refl => simpa using first
  | step _ hontime happens ih =>
    rw [← List.append_assoc]
    exact ih.step hontime happens
  | pass _ hlater hpunctual ih => exact ih.pass hlater hpunctual

/-- What comes before a step leads to it. -/
lemma before {x : ScheduleStep} (scheduled : Scheduled start s (steps ++ x :: more) now t) :
    Scheduled start s steps x.moment x.before ∧ x.before.OnTime x.moment x.event ∧
      x.before.perform? x.event = some x.after := by
  generalize hall : steps ++ x :: more = all at scheduled
  induction scheduled generalizing more with
  | refl => simp at hall
  | step scheduled hontime happens ih =>
    obtain rfl | ⟨init, last, rfl⟩ := List.eq_nil_or_concat more
    · obtain ⟨rfl, hlast⟩ := List.append_inj' hall rfl
      obtain rfl := List.singleton_inj.mp hlast
      exact ⟨scheduled, hontime, happens⟩
    · rw [List.concat_eq_append, ← List.cons_append, ← List.append_assoc] at hall
      obtain ⟨hinit, -⟩ := List.append_inj' hall rfl
      exact ih hinit
  | pass _ _ _ ih => exact ih hall

/-- Everything that holds at every moment holds at the end of a run. -/
theorem regular (h : s.Regular settings permits chance start) (scheduled : Scheduled start s steps now t) :
    t.Regular settings permits chance now := by
  induction scheduled with
  | refl => exact h
  | step _ hontime happens ih => exact ih.perform? hontime happens
  | pass _ _ hpunctual ih => exact ⟨ih.balanced, ih.saturated, hpunctual, ih.settings, ih.permits, ih.chance⟩

/-- Whoever waits for a permit has begun to wait at the end of its sleep, with none free, and has waited since. The
induction is on the run, and the last step either leaves the waiting alone or begins it. -/
theorem queued_since (hnone : s.live = []) (scheduled : Scheduled start s steps now t) (h : t.Queued id giveUpAt) :
    ∃ first wake between, steps = first ++ wake :: between ∧ wake.event = .move wake.moment id .advance ∧
      wake.before.Queues wake.moment id (.queued giveUpAt) ∧ wake.after.Queued id giveUpAt ∧
      ∀ y ∈ between, y.before.Queued id giveUpAt ∧ y.after.Queued id giveUpAt := by
  induction scheduled with
  | refl =>
    obtain ⟨c, hc, -⟩ := h
    rw [hnone] at hc
    cases hc
  | pass _ _ _ ih => exact ih h
  | step _ hontime happens ih =>
    obtain hbefore | ⟨moment, rfl, hqueues⟩ := queued_perform? happens h
    · obtain ⟨first, wake, between, rfl, hwakes, hbegan, hsince, hall⟩ := ih hbefore
      refine ⟨first, wake, between ++ [_], by rw [List.append_assoc, List.cons_append], hwakes, hbegan, hsince, ?_⟩
      intro y hy
      obtain hold | hlast := List.mem_append.mp hy
      · exact hall y hold
      · rw [List.mem_singleton.mp hlast]
        exact ⟨hbefore, h⟩
    · obtain ⟨rfl, -⟩ := hontime
      exact ⟨_, _, [], rfl, rfl, hqueues, h, by simp⟩

end Scheduled

namespace Scheduler

variable {s t : Scheduler} {now : Moment} {event : SchedulerEvent} {tag : String}

lemma regular_create (settings : CycleSettings) (concurrency : Nat) (chance : Nat → Binary64) (now : Moment) :
    (create settings concurrency chance).Regular settings (max concurrency 1) chance now where
  balanced := .create settings concurrency chance
  saturated _ hc := by cases hc
  punctual _ hc := by cases hc
  settings := rfl
  permits := rfl
  chance := rfl

/-- A cycle that goes on measures something if its round trip is over or it has waited for a permit. -/
lemma measurements_goOn (s : Scheduler) (now : Moment) (c : Cycle) :
    (s.goOn now c).2.filterMap Record.measurement? =
      match c.stage with
      | .probing trip _ => (c.finishTrip s.settings now trip).2.filterMap Record.measurement?
      | .queued _ => [.skipped c.tag]
      | _ => [] := by
  unfold goOn
  cases c.stage with
  | probing trip startedAt => rfl
  | queued giveUpAt => rfl
  | reporting status => rfl
  | starting =>
    dsimp only
    unfold begin draw
    dsimp only
    generalize initialDelay? s.settings.interval s.settings.jitterRatio (s.chance s.drawn) = delay
    cases delay <;> rfl
  | sleeping wakeAt =>
    dsimp only
    unfold wake draw
    dsimp only
    generalize jitteredInterval? s.settings.interval s.settings.jitterRatio (s.chance s.drawn) = delay
    cases delay with
    | none => rfl
    | some pause =>
      dsimp only
      split <;> rfl

/-- Only a cycle that gives up waiting records that a probe is skipped. -/
lemma skip_of_move? {id : Nat} {move : CycleMove} {records : List Record}
    (happens : s.move? now id move = some (t, records)) (h : Record.measure (.skipped tag) ∈ records) :
    move = .advance ∧ ∃ c giveUpAt, s.get? id = some c ∧ c.tag = tag ∧ c.stage = .queued giveUpAt ∧
      (t, records) = s.skip now c := by
  cases move with
  | quit =>
    obtain ⟨c, -, heq⟩ := Option.map_eq_some_iff.mp happens
    cases heq
    simp at h
  | advance =>
    obtain ⟨c, hc, heq⟩ := Option.map_eq_some_iff.mp happens
    have hrecords : records = (s.goOn now c).2 := by rw [heq]
    have hmeasured : Measurement.skipped tag ∈ (s.goOn now c).2.filterMap Record.measurement? :=
      List.mem_filterMap.mpr ⟨_, hrecords ▸ h, rfl⟩
    rw [measurements_goOn] at hmeasured
    cases hstage : c.stage with
    | queued giveUpAt =>
      rw [hstage] at hmeasured
      have htag : tag = c.tag := by simpa using hmeasured
      refine ⟨rfl, c, giveUpAt, hc, htag.symm, hstage, ?_⟩
      rw [← heq, goOn, hstage]
    | probing trip startedAt =>
      rw [hstage] at hmeasured
      dsimp only at hmeasured
      rw [Cycle.measurements_finishTrip] at hmeasured
      simp at hmeasured
    | _ =>
      rw [hstage] at hmeasured
      cases hmeasured

lemma skip_of_records (h : Record.measure (.skipped tag) ∈ s.recordsOf event) :
    ∃ now id c giveUpAt, event = .move now id .advance ∧ s.get? id = some c ∧ c.tag = tag ∧
      c.stage = .queued giveUpAt := by
  cases event with
  | move now id move =>
    rw [recordsOf] at h
    cases hmove : s.move? now id move with
    | none =>
      rw [hmove] at h
      cases h
    | some made =>
      rw [hmove] at h
      obtain ⟨rfl, c, giveUpAt, hc, htag, hstage, -⟩ := skip_of_move? hmove h
      exact ⟨now, id, c, giveUpAt, rfl, hc, htag, hstage⟩
  | cancel other =>
    rw [recordsOf] at h
    unfold cancel at h
    split at h <;> simp at h
  | refuse now id =>
    rw [recordsOf] at h
    cases hget : (s.get? id).filter Cycle.isReporting with
    | none =>
      rw [hget] at h
      cases h
    | some c =>
      rw [hget] at h
      simp [exit] at h
  | _ => cases h

end Scheduler

/-- Of all metrics only the number of skipped probes of a candidate has changed, and has gone up by one. -/
structure Metrics.CountsSkip (m n : Metrics) (tag : String) : Prop where
  counter : ∀ series, n.counter series = m.counter series + if Series.skips tag = series then 1 else 0
  gauges : n.gauges = m.gauges
  histograms : n.histograms = m.histograms

lemma Journal.countsSkip (j : Journal) (now : Moment) (tag : String) :
    j.metrics.CountsSkip (j.add now [.notice (.probeSkipped tag), .measure (.skipped tag)]).metrics tag := by
  have hmetrics : (j.add now [.notice (.probeSkipped tag), .measure (.skipped tag)]).metrics =
      j.metrics.increment (.skips tag) 1 := by
    rw [metrics, measurements_add]
    exact List.foldl_append
  rw [hmetrics]
  exact ⟨fun series => j.metrics.counter_increment _ series 1, rfl, rfl⟩

/-- What is known of the candidates has not changed: their registrations, their health and what they have to report,
and their ranking and the statuses on the way to it. -/
structure Observatory.SameCandidates (o p : Observatory) : Prop where
  registry : p.registry = o.registry
  faces : p.scheduler.faces = o.scheduler.faces
  publisher : p.publisher = o.publisher
  routing : p.routing = o.routing

/-- A skipped probe is counted, and changes nothing that is known of the candidates. -/
theorem Reachable.skip {o p : Observatory} (ho : Reachable o) {now : Moment} {id : Nat} {move : CycleMove}
    {records : List Record} (happens : o.perform? (.cycle now id move) = some (p, records)) {tag : String}
    (hskipped : .measure (.skipped tag) ∈ records) :
    o.SameCandidates p ∧
      ∀ (j : Journal) (moment : Moment), j.metrics.CountsSkip (j.add moment records).metrics tag := by
  obtain ⟨scheduler, hmove, rfl⟩ := Observatory.perform?_cycle happens
  obtain ⟨-, c, giveUpAt, hc, rfl, hstage, heq⟩ := Scheduler.skip_of_move? hmove hskipped
  obtain ⟨rfl, rfl⟩ := Prod.mk.inj heq
  exact ⟨⟨rfl, (ho.ordered.sound.skip hc hstage).2, rfl, rfl⟩, fun j moment => j.countsSkip moment c.tag⟩

open Scheduler

variable {settings : CycleSettings} {concurrency : Nat} {chance : Nat → Binary64} {steps : List ScheduleStep}
  {now : Moment} {t : Scheduler}

lemma Scheduled.regular_of_mem (scheduled : Scheduled 0 (.create settings concurrency chance) steps now t)
    {x : ScheduleStep} (hx : x ∈ steps) :
    x.before.Regular settings (max concurrency 1) chance x.moment ∧
      x.after.Regular settings (max concurrency 1) chance x.moment := by
  obtain ⟨earlier, later, rfl⟩ := List.append_of_mem hx
  obtain ⟨hscheduled, hontime, happens⟩ := scheduled.before
  have hbefore := hscheduled.regular (regular_create ..)
  exact ⟨hbefore, hbefore.perform? hontime happens⟩

/-- A cycle has waited for a permit between two moves of its own, for exactly one interval, and all the while every
permit was held. -/
structure WaitedInterval (settings : CycleSettings) (permits id : Nat) (wake : ScheduleStep)
    (between : List ScheduleStep) (last : ScheduleStep) : Prop where
  begins : wake.event = .move wake.moment id .advance
  slept : ∃ c ∈ wake.before.live, c.id = id ∧ ∃ wakeAt, c.stage = .sleeping wakeAt
  ends : last.event = .move last.moment id .advance
  interval : last.moment = wake.moment + settings.interval.nanos
  saturated : ∀ s, (s = wake.after ∨ s = last.before ∨ ∃ x ∈ between, s = x.before ∨ s = x.after) →
    (∃ c ∈ s.live, c.id = id ∧ c.isQueued = true) ∧ s.permitsHeld = permits ∧ s.available = 0

lemma Scheduled.waited (scheduled : Scheduled 0 (.create settings concurrency chance) steps now t)
    {earlier later : List ScheduleStep} {x : ScheduleStep} (hsteps : steps = earlier ++ x :: later) {tag : String}
    (hskipped : .measure (.skipped tag) ∈ x.records) :
    ∃ c first wake between, x.before.get? c.id = some c ∧ c.tag = tag ∧ earlier = first ++ wake :: between ∧
      WaitedInterval settings (max concurrency 1) c.id wake between x := by
  subst hsteps
  obtain ⟨hscheduled, hontime, -⟩ := scheduled.before
  have hregular := hscheduled.regular (regular_create ..)
  obtain ⟨moment, id, c, giveUpAt, hevent, hc, htag, hstage⟩ := skip_of_records hskipped
  obtain ⟨hmem, rfl⟩ := mem_of_get? hc
  rw [hevent] at hontime
  obtain ⟨rfl, hdue⟩ := hontime
  have hgiveUp : giveUpAt ∈ c.dueAt x.before.settings := by
    rw [Cycle.dueAt, hstage]
    rfl
  have hqueued : x.before.Queued c.id giveUpAt := ⟨c, hmem, rfl, hstage⟩
  obtain ⟨first, wake, between, rfl, hwakes, hqueues, hsince, hall⟩ := hscheduled.queued_since rfl hqueued
  have hmoment : x.moment = giveUpAt := Nat.le_antisymm (hregular.punctual c hmem _ hgiveUp) (hdue c hc _ hgiveUp)
  have hwake : wake ∈ (first ++ wake :: between) ++ x :: later := by simp
  have hbetween (y : ScheduleStep) (hy : y ∈ between) : y ∈ (first ++ wake :: between) ++ x :: later := by simp [hy]
  have hinterval : giveUpAt = wake.moment + settings.interval.nanos := by
    rw [← (scheduled.regular_of_mem hwake).1.settings]
    exact CycleStage.queued.inj hqueues.stage
  refine ⟨c, first, wake, between, hc, htag, rfl, hwakes, hqueues.slept, hevent, hmoment.trans hinterval, ?_⟩
  rintro s (rfl | rfl | ⟨y, hy, rfl | rfl⟩)
  · exact (scheduled.regular_of_mem hwake).2.full hsince
  · exact hregular.full hqueued
  · exact (scheduled.regular_of_mem (hbetween y hy)).1.full (hall y hy).1
  · exact (scheduled.regular_of_mem (hbetween y hy)).2.full (hall y hy).2

lemma Cycle.mem_dueAt_of_sleeping {c : Cycle} {wakeAt : Moment} (h : c.stage = .sleeping wakeAt)
    (settings : CycleSettings) : wakeAt ∈ c.dueAt settings := by
  rw [dueAt, h]
  rfl

/-- A cycle that wakes up begins its probe at the moment at which its sleep is over. -/
def ScheduleStep.ProbesWhenDue (x : ScheduleStep) : Prop :=
  ∀ id c wakeAt, x.event = .move x.moment id .advance → x.before.get? id = some c → c.stage = .sleeping wakeAt →
    x.moment = wakeAt ∧ ∃ d ∈ x.after.live, d.id = id ∧ d.stage = .probing (c.target.reply c.probes) wakeAt

/-- Whoever wakes up in a run with as many permits as cycles finds one. -/
lemma Scheduler.Regular.probes {s : Scheduler} (h : s.Regular settings (max concurrency 1) chance now)
    (hfew : s.live.length ≤ max concurrency 1) {c : Cycle} {id : Nat} (hc : s.get? id = some c) {wakeAt : Moment}
    (hstage : c.stage = .sleeping wakeAt) (hpause : settings.CanPause)
    (hchance : ∀ n, (chance n).inUnitInterval = true) :
    ∃ u, s.perform? (.move now id .advance) = some u ∧
      ∃ d ∈ u.live, d.id = id ∧ d.stage = .probing (c.target.reply c.probes) now := by
  obtain ⟨hmem, -⟩ := mem_of_get? hc
  have hfree : 0 < s.available :=
    h.balanced.available_pos (h.permits ▸ hfew) hmem (by simp [Cycle.holdsPermit, hstage])
  obtain ⟨pause, hjitter⟩ := (hpause (chance s.drawn) (hchance _)).2
  rw [← h.settings, ← h.chance] at hjitter
  exact probes_of_wake hc hstage hfree hjitter

namespace Scheduled

/-- Nobody waits for a permit in a run with as many permits as cycles. -/
lemma not_queued (scheduled : Scheduled 0 (.create settings concurrency chance) steps now t)
    (hfew : ∀ x ∈ steps, x.before.live.length ≤ max concurrency 1) {id : Nat} {giveUpAt : Moment} :
    ¬t.Queued id giveUpAt := by
  intro hqueued
  obtain ⟨first, wake, between, rfl, -, hqueues, -⟩ := scheduled.queued_since rfl hqueued
  have hin : wake ∈ first ++ wake :: between := List.mem_append_right _ List.mem_cons_self
  have hregular := (scheduled.regular_of_mem hin).1
  obtain ⟨c, hc, -, wakeAt, hstage⟩ := hqueues.slept
  have hfree := hregular.balanced.available_pos (hregular.permits ▸ hfew wake hin) hc
    (by simp [Cycle.holdsPermit, hstage])
  rw [hqueues.saturated] at hfree
  exact absurd hfree (lt_irrefl 0)

lemma not_skipped (scheduled : Scheduled 0 (.create settings concurrency chance) steps now t)
    (hfew : ∀ x ∈ steps, x.before.live.length ≤ max concurrency 1) {x : ScheduleStep} (hx : x ∈ steps)
    (tag : String) : Record.measure (.skipped tag) ∉ x.records := by
  intro hskipped
  obtain ⟨earlier, later, rfl⟩ := List.append_of_mem hx
  obtain ⟨-, id, c, giveUpAt, -, hc, -, hstage⟩ := skip_of_records hskipped
  obtain ⟨hmem, hid⟩ := mem_of_get? hc
  exact scheduled.before.1.not_queued (fun y hy => hfew y (List.mem_append_left _ hy)) ⟨c, hmem, hid, hstage⟩

lemma probesWhenDue (scheduled : Scheduled 0 (.create settings concurrency chance) steps now t)
    (hfew : ∀ x ∈ steps, x.before.live.length ≤ max concurrency 1) (hpause : settings.CanPause)
    (hchance : ∀ n, (chance n).inUnitInterval = true) {x : ScheduleStep} (hx : x ∈ steps) : x.ProbesWhenDue := by
  intro id c wakeAt hevent hc hstage
  have hregular := (scheduled.regular_of_mem hx).1
  obtain ⟨earlier, later, rfl⟩ := List.append_of_mem hx
  obtain ⟨-, hontime, happens⟩ := scheduled.before
  have hdue := Cycle.mem_dueAt_of_sleeping hstage x.before.settings
  rw [hevent] at hontime
  have hmoment : x.moment = wakeAt :=
    Nat.le_antisymm (hregular.punctual c (mem_of_get? hc).1 _ hdue) (hontime.2 c hc _ hdue)
  obtain ⟨u, hu, hprobes⟩ := hregular.probes (hfew x hx) hc hstage hpause hchance
  rw [hevent, hu] at happens
  cases happens
  exact ⟨hmoment, hmoment ▸ hprobes⟩

end Scheduled

/-- No sleep has lasted too long, and a cycle whose sleep is over can begin its probe. -/
def Scheduler.NeverLate (s : Scheduler) (now : Moment) : Prop :=
  ∀ c ∈ s.live, ∀ wakeAt, c.stage = .sleeping wakeAt → now ≤ wakeAt ∧ (now = wakeAt →
    ∃ u, s.perform? (.move now c.id .advance) = some u ∧
      ∃ d ∈ u.live, d.id = c.id ∧ d.stage = .probing (c.target.reply c.probes) now)

lemma Scheduled.neverLate (scheduled : Scheduled 0 (.create settings concurrency chance) steps now t)
    (hfew : t.live.length ≤ max concurrency 1) (hpause : settings.CanPause)
    (hchance : ∀ n, (chance n).inUnitInterval = true) : t.NeverLate now := by
  intro c hc wakeAt hstage
  have hregular := scheduled.regular (regular_create ..)
  refine ⟨hregular.punctual c hc _ (Cycle.mem_dueAt_of_sleeping hstage _), fun _ => ?_⟩
  exact hregular.probes hfew (get?_eq_of_nodup hregular.balanced.ids hc) hstage hpause hchance

namespace Scheduler

instance (s : Scheduler) (now : Moment) : (event : SchedulerEvent) → Decidable (s.OnTime now event)
  | .move moment id .advance =>
    inferInstanceAs (Decidable (moment = now ∧ ∀ c ∈ s.get? id, ∀ due ∈ c.dueAt s.settings, due ≤ now))
  | .move moment _ .quit => inferInstanceAs (Decidable (moment = now))
  | .accept moment _ => inferInstanceAs (Decidable (moment = now))
  | .refuse moment _ => inferInstanceAs (Decidable (moment = now))
  | .spawn _ _ _ => .isTrue trivial
  | .cancel _ => .isTrue trivial
  | .signal => .isTrue trivial
  | .join => .isTrue trivial

instance (s : Scheduler) (now : Moment) : Decidable (s.Punctual now) :=
  inferInstanceAs (Decidable (∀ c ∈ s.live, ∀ due ∈ c.dueAt s.settings, now ≤ due))

/-- The run in which the given events happen at the given moments, if it is possible. -/
def playClock? (s : Scheduler) (now : Moment) :
    List (Moment × SchedulerEvent) → Option (List ScheduleStep × Moment × Scheduler)
  | [] => some ([], now, s)
  | (moment, event) :: rest =>
    if now ≤ moment ∧ s.Punctual moment ∧ s.OnTime moment event then
      (s.perform? event).bind fun t =>
        (t.playClock? moment rest).map fun (steps, last) => (⟨moment, s, event, t⟩ :: steps, last)
    else none

end Scheduler

lemma Scheduled.of_playClock? {s : Scheduler} {start : Moment} {events : List (Moment × SchedulerEvent)}
    (h : s.playClock? start events = some (steps, now, t)) : Scheduled start s steps now t := by
  induction events generalizing s start steps with
  | nil =>
    cases h
    exact .refl
  | cons entry rest ih =>
    obtain ⟨moment, event⟩ := entry
    rw [playClock?] at h
    split at h
    · rename_i hpossible
      obtain ⟨hlater, hpunctual, hontime⟩ := hpossible
      obtain ⟨u, happens, hrest⟩ := Option.bind_eq_some_iff.mp h
      obtain ⟨⟨others, last⟩, hothers, heq⟩ := Option.map_eq_some_iff.mp hrest
      cases heq
      exact ((Scheduled.refl.pass hlater hpunctual).step hontime happens).trans (ih hothers)
    · cases h

lemma mem_of_measured {records : List Record} {m : Measurement} (h : records.filterMap Record.measurement? = [m]) :
    .measure m ∈ records := by
  obtain ⟨record, hrecord, hmeasured⟩ := List.mem_filterMap.mp (h ▸ List.mem_singleton_self m)
  cases record <;> cases hmeasured
  exact hrecord

/-- A probe is skipped only after its cycle has waited for exactly one interval, all permits being held all the while,
and a skip is counted but changes nothing that is known of the candidates. So with as many permits as there are
cycles, those included that were cancelled and have not ended, no probe is skipped or waits, and every probe begins
when it is due, whatever becomes of the others, provided that the pauses can be computed. -/
theorem probes_skipped_only_when_saturated
    (scheduled : Scheduled 0 (.create settings concurrency chance) steps now t) :
    (∀ earlier x later tag, steps = earlier ++ x :: later → .measure (.skipped tag) ∈ x.records →
      ∃ c first wake between, x.before.get? c.id = some c ∧ c.tag = tag ∧ earlier = first ++ wake :: between ∧
        WaitedInterval settings (max concurrency 1) c.id wake between x) ∧
    (∀ (o p : Observatory) (moment : Moment) (id : Nat) (move : CycleMove) (records : List Record) (tag : String),
      Reachable o → o.perform? (.cycle moment id move) = some (p, records) → .measure (.skipped tag) ∈ records →
        o.SameCandidates p ∧ ∀ j : Journal, j.metrics.CountsSkip (j.add moment records).metrics tag) ∧
    ((∀ x ∈ steps, x.before.live.length ≤ max concurrency 1) → t.live.length ≤ max concurrency 1 →
      (∀ x ∈ steps, ∀ tag, .measure (.skipped tag) ∉ x.records) ∧
      (∀ c ∈ t.live, c.isQueued = false) ∧
      (settings.CanPause → (∀ n, (chance n).inUnitInterval = true) →
        (∀ x ∈ steps, x.ProbesWhenDue) ∧ t.NeverLate now)) := by
  refine ⟨fun _ _ _ _ hsteps hskipped => scheduled.waited hsteps hskipped, ?_, fun hfew hlast => ⟨?_, ?_, ?_⟩⟩
  · intro o p moment id move records tag ho happens hskipped
    obtain ⟨hsame, hcounts⟩ := ho.skip happens hskipped
    exact ⟨hsame, fun j => hcounts j moment⟩
  · exact fun _ hx tag => scheduled.not_skipped hfew hx tag
  · intro c hc
    cases hstage : c.stage with
    | queued giveUpAt => exact absurd ⟨c, hc, rfl, hstage⟩ (scheduled.not_queued hfew)
    | _ => simp [Cycle.isQueued, hstage]
  · intro hpause hchance
    exact ⟨fun _ hx => scheduled.probesWhenDue hfew hpause hchance hx, scheduled.neverLate hlast hpause hchance⟩

/-- Three candidates hang. One permit passes from the first to the second, and the third waits for one interval and is
skipped. Three permits are enough for all to begin when they are due. A skip in an observatory changes nothing. -/
theorem hung_probes_skipped_only_when_saturated :
    let probe : ProbeSettings := { intervalMs := 1000, timeoutMs := 600, concurrency := 1, jitterRatio := .zero }
    let config : Config := { Config.bare with probe := probe }
    let settings := Observatory.cycleSettings config 0
    (∃ (c : Cycle) (first : List ScheduleStep) (wake : ScheduleStep) (between : List ScheduleStep)
        (last : ScheduleStep) (now : Moment) (t : Scheduler),
      Scheduled 0 (.create settings 1 World.desert.chance) (first ++ wake :: between ++ [last]) now t ∧
        .measure (.skipped "c") ∈ last.records ∧ c.tag = "c" ∧ WaitedInterval settings 1 c.id wake between last) ∧
      (∃ steps now t, Scheduled 0 (.create settings 3 World.desert.chance) steps now t ∧ t.permitsHeld = 3 ∧
        (∀ x ∈ steps, ∀ tag, .measure (.skipped tag) ∉ x.records) ∧ (∀ x ∈ steps, x.ProbesWhenDue) ∧
        t.NeverLate now) ∧
      ∃ o p records, Reachable o ∧ o.perform? (.cycle 1000000000 2 .advance) = some (p, records) ∧
        .measure (.skipped "c") ∈ records ∧ o.SameCandidates p := by
  intro probe config settings
  let hanging (tag : String) : ProbeTarget := ⟨tag, fun _ => .hangs⟩
  let begun : List (Moment × SchedulerEvent) :=
    [(0, .spawn "a" 1 (hanging "a")), (0, .spawn "b" 2 (hanging "b")), (0, .spawn "c" 3 (hanging "c")),
      (0, .move 0 0 .advance), (0, .move 0 1 .advance), (0, .move 0 2 .advance),
      (0, .move 0 0 .advance), (0, .move 0 1 .advance), (0, .move 0 2 .advance)]
  refine ⟨?_, ?_, ?_⟩
  · have hplayed : ((create settings 1 World.desert.chance).playClock? 0
        (begun ++ [(600000000, .move 600000000 0 .advance), (1000000000, .move 1000000000 2 .advance)])).bind
          (fun played => played.1.getLast?.map fun x => x.records.filterMap Record.measurement?) =
        some [.skipped "c"] := by
      decide +kernel
    obtain ⟨⟨steps, now, t⟩, hsteps, hlast⟩ := Option.bind_eq_some_iff.mp hplayed
    obtain ⟨last, hfound, hmeasured⟩ := Option.map_eq_some_iff.mp hlast
    obtain ⟨earlier, rfl⟩ := List.getLast?_eq_some_iff.mp hfound
    have hskipped := mem_of_measured hmeasured
    have scheduled := Scheduled.of_playClock? hsteps
    obtain ⟨c, first, wake, between, -, htag, rfl, hwaited⟩ :=
      (probes_skipped_only_when_saturated scheduled).1 earlier last [] "c" rfl hskipped
    exact ⟨c, first, wake, between, last, now, t, scheduled, hskipped, htag, hwaited⟩
  · have hplayed : ((create settings 3 World.desert.chance).playClock? 0 begun).map (fun played =>
        (played.1.all fun x => x.before.live.length ≤ 3, played.2.2.live.length, played.2.2.permitsHeld)) =
        some (true, 3, 3) := by
      decide +kernel
    obtain ⟨⟨steps, now, t⟩, hsteps, heq⟩ := Option.map_eq_some_iff.mp hplayed
    simp only [Prod.mk.injEq, List.all_eq_true, decide_eq_true_eq] at heq
    obtain ⟨hfew, hlast, hheld⟩ := heq
    have scheduled := Scheduled.of_playClock? hsteps
    obtain ⟨hnone, -, hdue⟩ := (probes_skipped_only_when_saturated scheduled).2.2 hfew hlast.le
    have hpause : settings.CanPause := CycleSettings.canPause rfl (by decide +kernel)
    have hzero : (Binary64.ofDecimal false 0 0).inUnitInterval = true := by decide +kernel
    exact ⟨steps, now, t, scheduled, hheld, hnone, hdue hpause fun _ => hzero⟩
  · have hplayed : ((Observatory.create config World.desert).play? [.register "a" (hanging "a"),
        .register "b" (hanging "b"), .register "c" (hanging "c"), .cycle 0 0 .advance, .cycle 0 1 .advance,
        .cycle 0 2 .advance, .cycle 0 0 .advance, .cycle 0 1 .advance, .cycle 0 2 .advance,
        .cycle 600000000 0 .advance]).bind (fun played =>
          (played.2.perform? (.cycle 1000000000 2 .advance)).map fun made => made.2.filterMap Record.measurement?) =
        some [.skipped "c"] := by
      decide +kernel
    obtain ⟨⟨steps, o⟩, hsteps, hmade⟩ := Option.bind_eq_some_iff.mp hplayed
    obtain ⟨⟨p, records⟩, happens, hmeasured⟩ := Option.map_eq_some_iff.mp hmade
    have hskipped := mem_of_measured hmeasured
    have hvalid : config.errors = [] := by decide +kernel
    have hpermits : ¬Observatory.maxPermits < config.probe.concurrency.toNat := by decide +kernel
    obtain ⟨started, hstart⟩ := Observatory.start_without_candidates World.desert hvalid hpermits rfl
    have ho : Reachable o := ⟨config, World.desert, _, started, steps, hstart, Run.of_play? hsteps⟩
    have scheduled : Scheduled 0 (.create settings 1 World.desert.chance) [] 0 _ := .refl
    obtain ⟨hsame, -⟩ :=
      (probes_skipped_only_when_saturated scheduled).2.1 o p _ _ _ records "c" ho happens hskipped
    exact ⟨o, p, records, ho, happens, hskipped, hsame⟩

end OutboundWatch
