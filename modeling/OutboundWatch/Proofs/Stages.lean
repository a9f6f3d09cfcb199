import OutboundWatch.Proofs.Conservation

/-!
# How cycles come to their stages

An event leaves all stages but that of the cycle that moves and that of the cycle that is handed a permit. What a
cycle comes to begins at the moment of the event, and it comes to wait for a permit only if its sleep has ended and
no permit was free.
-/

namespace OutboundWatch

/-- The moment that an event reads off the clock, if it needs one. -/
def SchedulerEvent.moment? : SchedulerEvent → Option Moment
  | .move now _ _ => some now
  | .accept now _ => some now
  | .refuse now _ => some now
  | _ => none

namespace Scheduler

variable {s t : Scheduler} {now : Moment} {id : Nat} {c d : Cycle} {event : SchedulerEvent}

/-- What a cycle comes to at a moment that is neither waiting nor what it was. -/
inductive Begun (now : Moment) : CycleStage → Prop where
  | sleeping (pause : Span) : Begun now (.sleeping (now + pause.nanos))
  | probing (trip : RoundTrip) : Begun now (.probing trip now)
  | reporting (status : Status) : Begun now (.reporting status)

/-- A cycle has begun to wait for a permit at the end of its sleep, since none was free. -/
structure Queues (s : Scheduler) (now : Moment) (id : Nat) (stage : CycleStage) : Prop where
  slept : ∃ c ∈ s.live, c.id = id ∧ ∃ wakeAt, c.stage = .sleeping wakeAt
  saturated : s.available = 0
  stage : stage = .queued (now + s.settings.interval.nanos)

/-- A cycle is in the stage in which it was. -/
def Stays (s : Scheduler) (d : Cycle) : Prop := ∃ c ∈ s.live, c.id = d.id ∧ c.stage = d.stage

lemma stays_of_mem (hd : d ∈ s.live) : s.Stays d := ⟨d, hd, rfl, rfl⟩

/-- A cycle that has at most been told to stop. -/
def Told (s : Scheduler) (d : Cycle) : Prop := ∃ c ∈ s.live, ∃ stopping, d = { c with stopping := stopping }

lemma told_of_mem (hd : d ∈ s.live) : s.Told d := ⟨d, hd, d.stopping, rfl⟩

lemma Told.stays (h : s.Told d) : s.Stays d := by
  obtain ⟨c, hc, stopping, rfl⟩ := h
  exact ⟨c, hc, rfl, rfl⟩

lemma told_map {f : Cycle → Cycle} (htold : ∀ c, ∃ stopping, f c = { c with stopping := stopping })
    (hd : d ∈ s.live.map f) : s.Told d := by
  obtain ⟨c, hc, rfl⟩ := List.mem_map.mp hd
  obtain ⟨stopping, heq⟩ := htold c
  exact ⟨c, hc, stopping, heq⟩

lemma told_requestStop {told : Nat} (hd : d ∈ (s.requestStop told).live) : s.Told d := by
  refine told_map (fun c => ?_) hd
  split
  · exact ⟨true, rfl⟩
  · exact ⟨c.stopping, rfl⟩

lemma told_dismissAll (hd : d ∈ s.dismissAll.live) : s.Told d := by
  have hfold : ∀ (told : List RunningCycle) (t : Scheduler), (∀ e ∈ t.live, s.Told e) →
      ∀ e ∈ (told.foldl (fun acc current => acc.requestStop current.id) t).live, s.Told e := by
    intro told
    induction told with
    | nil => exact fun t ht => ht
    | cons current rest ih =>
      intro t ht
      apply ih
      intro e he
      obtain ⟨c, hc, stopping, rfl⟩ := told_requestStop he
      obtain ⟨b, hb, before, rfl⟩ := ht c hc
      exact ⟨b, hb, stopping, rfl⟩
  exact hfold s.running.values s (fun e he => told_of_mem he) d hd

/-- A call tells cycles to stop, and it may start one. -/
lemma told_perform? (hcall : event.mover? = none) (happens : s.perform? event = some t) (hd : d ∈ t.live) :
    s.Told d ∨ d.stage = .starting ∧ d.id = s.nextId := by
  cases event with
  | spawn tag generation target =>
    cases happens
    unfold spawn at hd
    obtain hold | hnew := List.mem_append.mp hd
    · apply Or.inl
      split at hold
      · exact told_requestStop hold
      · exact told_of_mem hold
    · rw [List.mem_singleton.mp hnew]
      exact .inr ⟨rfl, rfl⟩
  | cancel tag =>
    cases happens
    obtain ⟨-, heq⟩ | ⟨current, -, heq⟩ := s.cancel_cases tag
    · rw [heq] at hd
      exact .inl (told_of_mem hd)
    · rw [heq] at hd
      exact .inl (told_requestStop hd)
  | signal =>
    cases happens
    exact .inl (told_map (fun c => ⟨true, rfl⟩) hd)
  | join =>
    cases happens
    exact .inl (told_dismissAll hd)
  | _ => cases hcall

lemma mem_live_modify {f : Cycle → Cycle} (hd : d ∈ (s.modify id f).live) :
    d ∈ s.live ∨ ∃ c ∈ s.live, c.id = id ∧ d = f c := by
  obtain ⟨c, hc, rfl⟩ := List.mem_map.mp hd
  split
  · rename_i hid
    exact .inr ⟨c, hc, hid, rfl⟩
  · exact .inl hc

lemma mem_live_returnPermit (hd : d ∈ (s.returnPermit now).live) :
    d ∈ s.live ∨ ∃ c ∈ s.live, d = c.probeFrom now := by
  unfold returnPermit at hd
  split at hd
  · exact .inl hd
  · obtain hold | ⟨c, hc, -, hnew⟩ := mem_live_modify hd
    · exact .inl hold
    · exact .inr ⟨c, hc, hnew⟩

lemma mem_live_remove (hd : d ∈ (s.remove now c).live) : d ∈ s.live ∨ ∃ c ∈ s.live, d = c.probeFrom now := by
  unfold remove at hd
  split at hd
  · obtain hold | ⟨e, he, hnew⟩ := mem_live_returnPermit hd
    · exact .inl (List.mem_of_mem_filter hold)
    · exact .inr ⟨e, List.mem_of_mem_filter he, hnew⟩
  · exact .inl (List.mem_of_mem_filter hd)

/-- How a cycle that is live after an event came to its stage. -/
inductive Staged (s : Scheduler) (event : SchedulerEvent) (d : Cycle) : Prop where
  | stays (same : s.Stays d)
  | starts (new : d.stage = .starting)
  | begun {now : Moment} (at_ : event.moment? = some now) (stage : Begun now d.stage)
  | queues {now : Moment} (own : event = .move now d.id .advance) (queued : s.Queues now d.id d.stage)

namespace Staged

lemma of_remove (hmoment : event.moment? = some now) (hd : d ∈ (s.remove now c).live) : s.Staged event d := by
  obtain hold | ⟨e, -, rfl⟩ := mem_live_remove hd
  · exact .stays (stays_of_mem hold)
  · exact .begun hmoment (.probing _)

/-- A cycle that has been put into a stage that begins now, and the others as they were. -/
lemma of_modify (hmoment : event.moment? = some now) {f : Cycle → Cycle} (hbegun : ∀ e, Begun now (f e).stage)
    (hd : d ∈ (s.modify id f).live) : s.Staged event d := by
  obtain hold | ⟨e, -, -, rfl⟩ := mem_live_modify hd
  · exact .stays (stays_of_mem hold)
  · exact .begun hmoment (hbegun e)

lemma wake (hc : s.get? id = some c) {wakeAt : Moment} (hstage : c.stage = .sleeping wakeAt)
    (hd : d ∈ (s.wake now c).1.live) : s.Staged (.move now id .advance) d := by
  obtain ⟨hmem, rfl⟩ := mem_of_get? hc
  unfold Scheduler.wake draw at hd
  dsimp only at hd
  generalize jitteredInterval? s.settings.interval s.settings.jitterRatio (s.chance s.drawn) = delay at hd
  cases delay with
  | none => exact of_remove rfl hd
  | some pause =>
    dsimp only at hd
    split at hd
    · rename_i hfull
      have hqueued : d ∈ (s.modify c.id fun c =>
          { c with pause := pause, stage := .queued (now + s.settings.interval.nanos) }).live := hd
      obtain hold | ⟨e, -, hid, rfl⟩ := mem_live_modify hqueued
      · exact .stays (stays_of_mem hold)
      · exact .queues (by rw [← hid]) ⟨⟨c, hmem, hid.symm, wakeAt, hstage⟩, hfull, rfl⟩
    · have hprobing : d ∈ (s.modify c.id fun c => { c with pause := pause }.probeFrom now).live := hd
      exact of_modify rfl (fun e => .probing _) hprobing

lemma goOn (hc : s.get? id = some c) (hd : d ∈ (s.goOn now c).1.live) : s.Staged (.move now id .advance) d := by
  unfold Scheduler.goOn at hd
  cases hstage : c.stage with
  | sleeping wakeAt =>
    rw [hstage] at hd
    exact wake hc hstage hd
  | reporting status =>
    rw [hstage] at hd
    exact .stays (stays_of_mem hd)
  | queued giveUpAt =>
    rw [hstage] at hd
    have hsleeping : d ∈ (s.modify c.id (·.sleepFrom now)).live := hd
    exact of_modify rfl (fun e => .sleeping e.pause) hsleeping
  | starting =>
    rw [hstage] at hd
    dsimp only at hd
    unfold Scheduler.begin draw at hd
    dsimp only at hd
    generalize initialDelay? s.settings.interval s.settings.jitterRatio (s.chance s.drawn) = delay at hd
    cases delay with
    | none => exact of_remove rfl hd
    | some pause =>
      have hsleeping : d ∈ (s.modify c.id fun c => { c with pause := pause }.sleepFrom now).live := hd
      exact of_modify rfl (fun e => .sleeping pause) hsleeping
  | probing trip startedAt =>
    rw [hstage] at hd
    have hreturned : d ∈ ((s.modify c.id fun _ => (c.finishTrip s.settings now trip).1).returnPermit now).live := hd
    obtain hold | ⟨e, -, rfl⟩ := mem_live_returnPermit hreturned
    · exact of_modify rfl (fun e => .reporting _) hold
    · exact .begun rfl (.probing _)

end Staged

/-- Every cycle that is live after an event stays in its stage, is new, has begun its stage now, or has begun to
wait. -/
theorem staged_perform? (happens : s.perform? event = some t) (hd : d ∈ t.live) : s.Staged event d := by
  by_cases hcall : event.mover? = none
  · obtain htold | ⟨hnew, -⟩ := told_perform? hcall happens hd
    · exact .stays htold.stays
    · exact .starts hnew
  · cases event with
    | move now id move =>
      obtain ⟨⟨after, records⟩, hmove, rfl⟩ := Option.map_eq_some_iff.mp happens
      cases move with
      | advance =>
        obtain ⟨c, hc, heq⟩ := Option.map_eq_some_iff.mp hmove
        apply Staged.goOn hc
        rw [heq]
        exact hd
      | quit =>
        obtain ⟨c, -, heq⟩ := Option.map_eq_some_iff.mp hmove
        cases heq
        exact .of_remove rfl hd
    | accept now id =>
      obtain ⟨c, -, rfl⟩ := Option.map_eq_some_iff.mp happens
      exact .of_modify rfl (fun e => .sleeping e.pause) hd
    | refuse now id =>
      obtain ⟨c, -, rfl⟩ := Option.map_eq_some_iff.mp happens
      exact .of_remove rfl hd
    | _ => exact absurd rfl hcall

/-- No permit becomes free while somebody waits. -/
lemma available_le_of_waiting (h : s.Seated) (happens : s.perform? event = some t) (hwaiting : t.waiting ≠ []) :
    t.available ≤ s.available := by
  obtain ⟨-, hquiet⟩ | ⟨now, id, c, place, -, hc, hplace, hpasses, -⟩ := perform?_cases h happens
  · exact Nat.le_of_eq hquiet.available
  · cases hpasses with
    | idle _ same => exact Nat.le_of_eq same
    | takes _ one => omega
    | gives moved same =>
      obtain ⟨hnone, heq⟩ | ⟨next, d, -, -, -, -, hkept⟩ := (moved.seated h hc hplace).returnPermit_cases now
      · rw [heq] at hwaiting
        exact absurd hnone hwaiting
      · exact Nat.le_of_eq (hkept.trans same)

/-- Whoever waits for a permit finds none free. -/
def Saturated (s : Scheduler) : Prop := ∀ c ∈ s.live, c.isQueued = true → s.available = 0

lemma Saturated.perform? (hsaturated : s.Saturated) (h : s.Seated) (happens : s.perform? event = some t)
    (ht : t.Seated) : t.Saturated := by
  intro d hd hqueued
  have hwaiting : t.waiting ≠ [] := List.ne_nil_of_mem ((ht.mem_waiting_iff d.id).mpr ⟨d, hd, rfl, hqueued⟩)
  have hle := available_le_of_waiting h happens hwaiting
  have hfull : s.available = 0 := by
    cases staged_perform? happens hd with
    | stays same =>
      obtain ⟨c, hc, -, hstage⟩ := same
      apply hsaturated c hc
      rwa [Cycle.isQueued, hstage]
    | starts new => simp [Cycle.isQueued, new] at hqueued
    | begun _ stage =>
      unfold Cycle.isQueued at hqueued
      cases hstage : d.stage <;> rw [hstage] at stage hqueued <;> cases stage <;> cases hqueued
    | queues _ queued => exact queued.saturated
  omega

/-- A cycle waits for a permit until a moment. -/
def Queued (s : Scheduler) (id : Nat) (giveUpAt : Moment) : Prop :=
  ∃ c ∈ s.live, c.id = id ∧ c.stage = .queued giveUpAt

/-- Whoever waits has waited before, or has just begun to. -/
lemma queued_perform? (happens : s.perform? event = some t) {giveUpAt : Moment} (h : t.Queued id giveUpAt) :
    s.Queued id giveUpAt ∨ ∃ now, event = .move now id .advance ∧ s.Queues now id (.queued giveUpAt) := by
  obtain ⟨d, hd, rfl, hstage⟩ := h
  cases staged_perform? happens hd with
  | stays same =>
    obtain ⟨c, hc, hid, hsame⟩ := same
    exact .inl ⟨c, hc, hid, hsame.trans hstage⟩
  | starts new =>
    rw [hstage] at new
    cases new
  | begun _ stage =>
    rw [hstage] at stage
    cases stage
  | queues own queued =>
    rw [hstage] at queued
    exact .inr ⟨_, own, queued⟩

/-- While somebody waits, all permits are held. -/
lemma Balanced.all_held (h : s.Balanced) (hsaturated : s.Saturated) {giveUpAt : Moment} (hqueued : s.Queued id giveUpAt) :
    s.permitsHeld = s.concurrency := by
  obtain ⟨c, hc, -, hstage⟩ := hqueued
  have hfull : s.available = 0 := hsaturated c hc (by simp [Cycle.isQueued, hstage])
  have htotal := h.total
  omega

/-- With as many permits as there are cycles, whoever holds none finds one. -/
lemma Balanced.available_pos (h : s.Balanced) (hfew : s.live.length ≤ s.concurrency) (hc : c ∈ s.live)
    (hidle : c.holdsPermit = false) : 0 < s.available := by
  have hheld : s.permitsHeld < s.live.length := by
    apply Nat.lt_of_le_of_ne (List.countP_le_length)
    intro hall
    have hholds := List.countP_eq_length.mp hall c hc
    rw [hidle] at hholds
    cases hholds
  have htotal := h.total
  omega

/-- A cycle that wakes up while a permit is free probes at once. -/
lemma probes_of_wake (hc : s.get? id = some c) {wakeAt : Moment} (hstage : c.stage = .sleeping wakeAt)
    (hfree : 0 < s.available) {pause : Span}
    (hpause : jitteredInterval? s.settings.interval s.settings.jitterRatio (s.chance s.drawn) = some pause) :
    ∃ t, s.perform? (.move now id .advance) = some t ∧
      ∃ d ∈ t.live, d.id = id ∧ d.stage = .probing (c.target.reply c.probes) now := by
  obtain ⟨hmem, rfl⟩ := mem_of_get? hc
  refine ⟨(s.goOn now c).1, by simp [perform?, move?, hc], { c with pause := pause }.probeFrom now, ?_, rfl, rfl⟩
  rw [goOn, hstage]
  dsimp only
  unfold wake draw
  dsimp only
  rw [hpause]
  dsimp only
  rw [if_neg (Nat.ne_of_gt hfree)]
  exact List.mem_map.mpr ⟨c, hmem, if_pos rfl⟩

lemma chance_foldl_requestStop (told : List RunningCycle) (s : Scheduler) :
    (told.foldl (fun acc current => acc.requestStop current.id) s).chance = s.chance := by
  induction told generalizing s with
  | nil => rfl
  | cons current rest ih => exact ih (s.requestStop current.id)

lemma chance_returnPermit (s : Scheduler) (now : Moment) : (s.returnPermit now).chance = s.chance := by
  unfold returnPermit
  split <;> rfl

lemma chance_remove (s : Scheduler) (now : Moment) (c : Cycle) : (s.remove now c).chance = s.chance := by
  unfold remove
  split
  · apply chance_returnPermit
  · rfl

lemma chance_goOn (s : Scheduler) (now : Moment) (c : Cycle) : (s.goOn now c).1.chance = s.chance := by
  unfold goOn
  cases c.stage with
  | queued giveUpAt => rfl
  | reporting status => rfl
  | probing trip startedAt => exact chance_returnPermit _ now
  | starting =>
    dsimp only
    unfold begin draw
    dsimp only
    generalize initialDelay? s.settings.interval s.settings.jitterRatio (s.chance s.drawn) = delay
    cases delay with
    | none => exact s.chance_remove now c
    | some pause => rfl
  | sleeping wakeAt =>
    dsimp only
    unfold wake draw
    dsimp only
    generalize jitteredInterval? s.settings.interval s.settings.jitterRatio (s.chance s.drawn) = delay
    cases delay with
    | none => exact s.chance_remove now c
    | some pause =>
      dsimp only
      split <;> rfl

/-- The random numbers come from outside. -/
lemma chance_perform? (happens : s.perform? event = some t) : t.chance = s.chance := by
  cases event with
  | spawn tag generation target =>
    cases happens
    unfold spawn
    cases s.running.get? tag <;> rfl
  | cancel tag =>
    cases happens
    obtain ⟨-, heq⟩ | ⟨current, -, heq⟩ := s.cancel_cases tag <;> rw [heq]
    rfl
  | signal =>
    cases happens
    rfl
  | join =>
    cases happens
    exact chance_foldl_requestStop _ s
  | move now id move =>
    obtain ⟨⟨after, records⟩, hmove, rfl⟩ := Option.map_eq_some_iff.mp happens
    cases move with
    | advance =>
      obtain ⟨c, -, heq⟩ := Option.map_eq_some_iff.mp hmove
      have hsame := s.chance_goOn now c
      rwa [heq] at hsame
    | quit =>
      obtain ⟨c, -, heq⟩ := Option.map_eq_some_iff.mp hmove
      cases heq
      exact s.chance_remove now c
  | accept now id =>
    obtain ⟨c, -, rfl⟩ := Option.map_eq_some_iff.mp happens
    rfl
  | refuse now id =>
    obtain ⟨c, -, rfl⟩ := Option.map_eq_some_iff.mp happens
    exact s.chance_remove now c

end Scheduler

end OutboundWatch
