import OutboundWatch.Proofs.Permits

/-!
# Conservation of permits

Calls of a scheduler leave the permits alone, and every other event is the move of one cycle. So no permit is
lost or made in whatever order cycles are spawned, told to stop, move and end.
-/

namespace OutboundWatch

namespace SchedulerEvent

/-- The cycle whose own move an event is. -/
def mover? : SchedulerEvent → Option Nat
  | .move _ id _ => some id
  | .accept _ id => some id
  | .refuse _ id => some id
  | _ => none

/-- The cycle that ends in an event, wherever it is. -/
def leaver? : SchedulerEvent → Option Nat
  | .move _ id .quit => some id
  | .refuse _ id => some id
  | _ => none

lemma mover?_of_leaver? {event : SchedulerEvent} {id : Nat} (h : event.leaver? = some id) :
    event.mover? = some id := by
  unfold leaver? at h
  split at h <;> cases h <;> rfl

end SchedulerEvent

namespace Scheduler

variable {s t : Scheduler} {now : Moment} {id : Nat} {c : Cycle}

/-- Nothing happens to the permits: who holds one keeps it, and nobody else gets one. -/
structure Quiet (s t : Scheduler) : Prop where
  seated : t.Seated
  available : t.available = s.available
  waiting : t.waiting = s.waiting
  concurrency : t.concurrency = s.concurrency
  held : t.permitsHeld = s.permitsHeld
  holds : ∀ key, t.Holds key ↔ s.Holds key

namespace Quiet

variable {u : Scheduler}

lemma refl (h : s.Seated) : s.Quiet s := ⟨h, rfl, rfl, rfl, rfl, fun _ => .rfl⟩

lemma trans (first : s.Quiet t) (second : t.Quiet u) : s.Quiet u where
  seated := second.seated
  available := second.available.trans first.available
  waiting := second.waiting.trans first.waiting
  concurrency := second.concurrency.trans first.concurrency
  held := second.held.trans first.held
  holds key := (second.holds key).trans (first.holds key)

lemma balanced (h : s.Quiet t) (hs : s.Balanced) : t.Balanced := by
  refine ⟨h.seated, ?_⟩
  rw [h.available, h.held, h.concurrency]
  exact hs.total

end Quiet

namespace Seated

variable (h : s.Seated)

include h

lemma congr (hlive : t.live = s.live) (hwaiting : t.waiting = s.waiting) (hnext : t.nextId = s.nextId) :
    t.Seated := by
  refine ⟨?_, ?_, ?_, ?_⟩
  · rw [hlive]; exact h.ids
  · rw [hlive, hnext]; exact h.fresh
  · rw [hwaiting]; exact h.waits
  · rw [hlive, hwaiting]; exact h.mem_waiting_iff

lemma quiet_tell {f : Cycle → Cycle} (htold : ∀ c, ∃ stopping, f c = { c with stopping := stopping }) :
    s.Quiet { s with live := s.live.map f } := by
  have hid : ∀ c, (f c).id = c.id := fun c => by
    obtain ⟨stopping, hc⟩ := htold c
    rw [hc]
  have hqueued : ∀ c, (f c).isQueued = c.isQueued := fun c => by
    obtain ⟨stopping, hc⟩ := htold c
    rw [hc]
    rfl
  have hholds : ∀ c, (f c).holdsPermit = c.holdsPermit := fun c => by
    obtain ⟨stopping, hc⟩ := htold c
    rw [hc]
    rfl
  refine ⟨⟨?_, ?_, h.waits, fun key => ?_⟩, rfl, rfl, rfl, ?_, fun key => ?_⟩
  · have hids : (s.live.map f).map Cycle.id = s.live.map Cycle.id := by
      rw [List.map_map]
      exact List.map_congr_left fun c _ => hid c
    rw [hids]
    exact h.ids
  · intro d hd
    obtain ⟨c, hc, rfl⟩ := List.mem_map.mp hd
    rw [hid]
    exact h.fresh c hc
  · simp only [List.mem_map, exists_exists_and_eq_and, hid, hqueued]
    exact h.mem_waiting_iff key
  · simp only [permitsHeld, List.countP_map]
    exact List.countP_congr fun c _ => by rw [Function.comp_apply, hholds]
  · simp only [Holds, List.mem_map, exists_exists_and_eq_and, hid, hholds]

lemma quiet_requestStop (id : Nat) : s.Quiet (s.requestStop id) := by
  refine h.quiet_tell fun c => ?_
  split
  · exact ⟨true, rfl⟩
  · exact ⟨c.stopping, rfl⟩

lemma quiet_retag (running : TagMap RunningCycle) : s.Quiet { s with running := running } :=
  ⟨h.congr rfl rfl rfl, rfl, rfl, rfl, rfl, fun _ => .rfl⟩

lemma quiet_cancel (tag : String) : s.Quiet (s.cancel tag).1 := by
  rcases s.cancel_cases tag with ⟨-, heq⟩ | ⟨current, -, heq⟩
  · rw [heq]
    exact .refl h
  · rw [heq]
    have htold := h.quiet_requestStop current.id
    exact htold.trans (htold.seated.quiet_retag _)

lemma quiet_dismissAll : s.Quiet s.dismissAll := by
  have hfold : ∀ (told : List RunningCycle) (t : Scheduler), s.Quiet t →
      s.Quiet (told.foldl (fun acc current => acc.requestStop current.id) t) := by
    intro told
    induction told with
    | nil => exact fun t ht => ht
    | cons current rest ih => exact fun t ht => ih _ (ht.trans (ht.seated.quiet_requestStop current.id))
  have hall := hfold s.running.values s (.refl h)
  exact hall.trans (hall.seated.quiet_retag _)

lemma quiet_add {c : Cycle} (hid : c.id = s.nextId) (hstage : c.stage = .starting) :
    s.Quiet { s with live := s.live ++ [c], nextId := s.nextId + 1 } := by
  have hqueued : c.isQueued = false := by simp [Cycle.isQueued, hstage]
  have hholds : c.holdsPermit = false := by simp [Cycle.holdsPermit, hstage]
  refine ⟨⟨?_, ?_, h.waits, fun key => ?_⟩, rfl, rfl, rfl, ?_, fun key => ?_⟩
  · rw [List.map_append, List.nodup_append]
    refine ⟨h.ids, by simp, ?_⟩
    rintro a ha b hb rfl
    obtain ⟨d, hd, rfl⟩ := List.mem_map.mp ha
    have hlast : d.id = c.id := by simpa using hb
    have hless := h.fresh d hd
    omega
  · intro d hd
    rcases List.mem_append.mp hd with hold | hlast
    · exact Nat.lt_succ_of_lt (h.fresh d hold)
    · rw [List.mem_singleton.mp hlast, hid]
      exact Nat.lt_succ_self _
  · simp only [List.mem_append, List.mem_singleton, or_and_right, exists_or, exists_eq_left, hqueued,
      Bool.false_eq_true, and_false, or_false]
    exact h.mem_waiting_iff key
  · simp [permitsHeld, hholds]
  · simp only [Holds, List.mem_append, List.mem_singleton, or_and_right, exists_or, exists_eq_left, hholds,
      Bool.false_eq_true, and_false, or_false]

lemma quiet_spawn (tag : String) (generation : Nat) (target : ProbeTarget) :
    s.Quiet (s.spawn tag generation target) := by
  unfold spawn
  dsimp only
  cases s.running.get? tag with
  | none =>
    have hadded := h.quiet_add (c := Cycle.create s.nextId tag generation target) rfl rfl
    exact hadded.trans (hadded.seated.quiet_retag _)
  | some previous =>
    have htold := h.quiet_requestStop previous.id
    have hadded := htold.seated.quiet_add (c := Cycle.create s.nextId tag generation target) rfl rfl
    exact (htold.trans hadded).trans (hadded.seated.quiet_retag _)

end Seated

/-- A call leaves the permits alone, and every other event is the move of one cycle. -/
theorem perform?_cases (h : s.Seated) {event : SchedulerEvent} (happens : s.perform? event = some t) :
    (event.mover? = none ∧ s.Quiet t) ∨
      ∃ now id c place, event.mover? = some id ∧ s.get? id = some c ∧ (∀ d ∈ place, d.id = id) ∧
        s.Passes now id c place t ∧ (event.leaver? = some id → place = none) := by
  cases event with
  | spawn tag generation target =>
    cases happens
    exact .inl ⟨rfl, h.quiet_spawn tag generation target⟩
  | cancel tag =>
    cases happens
    exact .inl ⟨rfl, h.quiet_cancel tag⟩
  | signal =>
    cases happens
    exact .inl ⟨rfl, h.quiet_tell fun c => ⟨true, rfl⟩⟩
  | join =>
    cases happens
    exact .inl ⟨rfl, h.quiet_dismissAll⟩
  | move now id move =>
    obtain ⟨⟨after, records⟩, hmove, rfl⟩ := Option.map_eq_some_iff.mp happens
    cases move with
    | advance =>
      obtain ⟨c, hc, heq⟩ := Option.map_eq_some_iff.mp hmove
      obtain ⟨place, hplace, hpasses⟩ := h.passes_goOn hc now
      rw [heq] at hpasses
      exact .inr ⟨now, id, c, place, rfl, hc, hplace, hpasses, by simp [SchedulerEvent.leaver?]⟩
    | quit =>
      obtain ⟨c, hc, heq⟩ := Option.map_eq_some_iff.mp hmove
      cases heq
      obtain ⟨hc, -⟩ := Option.filter_eq_some_iff.mp hc
      exact .inr ⟨now, id, c, none, rfl, hc, by simp, passes_remove hc now, fun _ => rfl⟩
  | accept now id =>
    obtain ⟨c, hc, rfl⟩ := Option.map_eq_some_iff.mp happens
    obtain ⟨hc, hreporting⟩ := Option.filter_eq_some_iff.mp hc
    obtain ⟨-, hid⟩ := mem_of_get? hc
    have hpasses := h.passes_reporting hc now hreporting (f := (·.sleepFrom now))
      (by simp [Cycle.sleepFrom, Cycle.isQueued]) (by simp [Cycle.sleepFrom, Cycle.holdsPermit])
    refine .inr ⟨now, id, c, some (c.sleepFrom now), rfl, hc, by simp [Cycle.sleepFrom, hid], ?_,
      by simp [SchedulerEvent.leaver?]⟩
    rw [reported, hid]
    exact hpasses
  | refuse now id =>
    obtain ⟨c, hc, rfl⟩ := Option.map_eq_some_iff.mp happens
    obtain ⟨hc, -⟩ := Option.filter_eq_some_iff.mp hc
    exact .inr ⟨now, id, c, none, rfl, hc, by simp, passes_remove hc now, fun _ => rfl⟩

lemma Balanced.perform? (h : s.Balanced) {event : SchedulerEvent} (happens : s.perform? event = some t) :
    t.Balanced ∧ t.concurrency = s.concurrency := by
  rcases perform?_cases h.toSeated happens with ⟨-, hquiet⟩ | ⟨now, id, c, place, -, hc, hplace, hpasses, -⟩
  · exact ⟨hquiet.balanced h, hquiet.concurrency⟩
  · exact hpasses.balanced hc hplace h

lemma Balanced.reaches (h : s.Balanced) (reach : s.Reaches t) :
    t.Balanced ∧ t.concurrency = s.concurrency := by
  induction reach with
  | refl => exact ⟨h, rfl⟩
  | step _ _ happens ih =>
    obtain ⟨hbalanced, hsame⟩ := ih.1.perform? happens
    exact ⟨hbalanced, hsame.trans ih.2⟩

lemma Balanced.create (settings : CycleSettings) (concurrency : Nat) (chance : Nat → Binary64) :
    (Scheduler.create settings concurrency chance).Balanced :=
  ⟨.create settings concurrency chance, rfl⟩

/-- What the number of permits comes to. -/
structure Conserved (s : Scheduler) (permits : Nat) : Prop where
  /-- Cycles have ids of their own, and each of them counts for one permit at most. -/
  ids : (s.live.map Cycle.id).Nodup
  total : s.available + s.permitsHeld = permits
  /-- The difference that is shown as the number of probes in flight is one of natural numbers. -/
  available_le : s.available ≤ s.concurrency
  inFlight : s.inFlight = s.permitsHeld
  inFlight_le : s.inFlight ≤ permits
  ended : s.live = [] → s.inFlight = 0

lemma Balanced.conserved (h : s.Balanced) : s.Conserved s.concurrency := by
  have htotal := h.total
  have hflight : s.inFlight = s.permitsHeld := by
    unfold Scheduler.inFlight
    omega
  refine ⟨h.ids, htotal, by omega, hflight, by omega, fun hended => ?_⟩
  rw [hflight, permitsHeld, hended, List.countP_nil]

/-- Which cycles hold a permit before and after an event. -/
structure HandsOver (s : Scheduler) (event : SchedulerEvent) (t : Scheduler) : Prop where
  /-- The hold on a permit ends by a move of the cycle itself, and no such move leaves it. -/
  released : ∀ key, s.Holds key → (¬t.Holds key ↔ event.mover? = some key)
  /-- A hold begins when a sleep ends while a permit is free, or when another cycle gives its permit back
  to the first in the queue. -/
  acquired : ∀ key, ¬s.Holds key → t.Holds key →
    (event.mover? = some key ∧ 0 < s.available ∧ ∃ c ∈ s.live, c.id = key ∧ ∃ wakeAt, c.stage = .sleeping wakeAt) ∨
      (s.waiting.head? = some key ∧ ∃ other, event.mover? = some other ∧ s.Holds other ∧ ¬t.Holds other)
  /-- A cycle that ends, from whatever stage, leaves nothing behind. -/
  left : ∀ key, event.leaver? = some key → t.get? key = none ∧ ¬t.Holds key

lemma holds_iff_of_get? (h : s.Seated) (hc : s.get? id = some c) : s.Holds id ↔ c.holdsPermit = true := by
  obtain ⟨hmem, hid⟩ := mem_of_get? hc
  constructor
  · rintro ⟨d, hd, hown, hholds⟩
    rwa [h.eq_of_id hd hmem (hown.trans hid.symm)] at hholds
  · exact fun hholds => ⟨c, hmem, hid, hholds⟩

lemma not_holds_of_get?_none (hnone : s.get? id = none) : ¬s.Holds id := by
  rintro ⟨d, hd, rfl, -⟩
  have hnot := List.find?_eq_none.mp hnone d hd
  simp at hnot

lemma Seated.handsOver (h : s.Seated) {event : SchedulerEvent} (happens : s.perform? event = some t) :
    s.HandsOver event t := by
  rcases perform?_cases h happens with
    ⟨hcall, hquiet⟩ | ⟨now, id, c, place, hmover, hc, hplace, hpasses, hleaves⟩
  · have hnobody : event.leaver? = none := by
      cases hleaver : event.leaver? with
      | none => rfl
      | some key => rw [SchedulerEvent.mover?_of_leaver? hleaver] at hcall; cases hcall
    refine ⟨fun key hholds => ?_, fun key hbefore hafter => ?_, fun key hkey => ?_⟩
    · rw [hquiet.holds key, hcall]
      simpa using hholds
    · exact absurd ((hquiet.holds key).mp hafter) hbefore
    · rw [hnobody] at hkey
      cases hkey
  · have hown := holds_iff_of_get? h hc
    have hgone : ∀ key, event.leaver? = some key → t.get? key = none := by
      intro key hkey
      obtain rfl : id = key := by
        rw [SchedulerEvent.mover?_of_leaver? hkey] at hmover
        simpa using hmover.symm
      exact hpasses.get?_none hc hplace h (hleaves hkey)
    have hleft : ∀ key, event.leaver? = some key → t.get? key = none ∧ ¬t.Holds key :=
      fun key hkey => ⟨hgone key hkey, not_holds_of_get?_none (hgone key hkey)⟩
    -- A cycle that holds a permit can only give it away, and one that holds none can only take one.
    cases hholder : c.holdsPermit with
    | true =>
      have hafter := hpasses.holds_iff_of_holder hc hplace h hholder
      have hnext := h.head?_waiting_ne hc (isQueued_of_holdsPermit hholder)
      have hended : ¬t.Holds id := by simp [hafter id, hnext]
      refine ⟨fun key hholds => ?_, fun key hbefore hholds => .inr ?_, hleft⟩
      · rw [hmover, Option.some_inj]
        constructor
        · intro hnot
          by_contra hother
          exact hnot ((hafter key).mpr (.inl ⟨Ne.symm hother, hholds⟩))
        · rintro rfl
          exact hended
      · rcases (hafter key).mp hholds with ⟨-, hsame⟩ | hhead
        · exact absurd hsame hbefore
        · exact ⟨hhead, id, hmover, hown.mpr hholder, hended⟩
    | false =>
      have hfree : ¬s.Holds id := by rw [hown, hholder]; simp
      refine ⟨fun key hholds => ?_, fun key hbefore hholds => .inl ?_, hleft⟩
      · have hother : key ≠ id := fun heq => hfree (heq ▸ hholds)
        rcases hpasses.holds_iff_of_idle hc hplace h hholder key with hsame | ⟨hkey, -⟩
        · rw [hmover, hsame]
          simp [hholds, hother.symm]
        · exact absurd hkey hother
      · rcases hpasses.holds_iff_of_idle hc hplace h hholder key with hsame | ⟨rfl, -, hpositive, hstage⟩
        · exact absurd (hsame.mp hholds) hbefore
        · obtain ⟨hmem, hid⟩ := mem_of_get? hc
          exact ⟨hmover, hpositive, c, hmem, hid, hstage⟩

/-- Whatever is spawned, cancelled and told to stop, and in whatever order cycles move, no permit is lost or
made: those that are free and those that cycles hold add up, and each event hands them over one at a time. -/
theorem permits_conserved {settings : CycleSettings} {concurrency : Nat} {chance : Nat → Binary64}
    (hpositive : 0 < concurrency) (reach : (Scheduler.create settings concurrency chance).Reaches s) :
    s.Conserved concurrency ∧
      ∀ event t, s.perform? event = some t → s.HandsOver event t ∧ t.Conserved concurrency := by
  have hcount : (Scheduler.create settings concurrency chance).concurrency = concurrency := by
    change max concurrency 1 = concurrency
    omega
  obtain ⟨hbalanced, hsame⟩ := (Balanced.create settings concurrency chance).reaches reach
  rw [hcount] at hsame
  refine ⟨hsame ▸ hbalanced.conserved, fun event t happens => ⟨hbalanced.toSeated.handsOver happens, ?_⟩⟩
  obtain ⟨hafter, hkept⟩ := hbalanced.perform? happens
  have hconserved := hafter.conserved
  rwa [hkept, hsame] at hconserved

/-- The state after events that happen one after the other, if they are possible. -/
def performAll? (s : Scheduler) (events : List SchedulerEvent) : Option Scheduler :=
  events.foldlM perform? s

lemma reaches_of_performAll? {events : List SchedulerEvent} (h : s.performAll? events = some t) :
    s.Reaches t := by
  induction events using List.reverseRecOn generalizing t with
  | nil =>
    cases h
    exact .refl
  | append_singleton events event ih =>
    simp only [performAll?, List.foldlM_append, List.foldlM_cons, List.foldlM_nil, bind_pure] at h
    obtain ⟨u, hu, happens⟩ := Option.bind_eq_some_iff.mp h
    exact .step event (ih hu) happens

/-- Of two cycles that share one permit, the first is cancelled in its round trip, and the second has the permit
when the first has ended. -/
theorem permit_handed_over : ∃ s t, 0 < 1 ∧
    (Scheduler.create (Observatory.cycleSettings Config.bare 0) 1 World.desert.chance).Reaches s ∧
      s.perform? (.move 0 0 .quit) = some t ∧ s.Holds 0 ∧ ¬s.Holds 1 ∧ t.Holds 1 ∧ t.Conserved 1 := by
  have hplayed : ((Scheduler.create (Observatory.cycleSettings Config.bare 0) 1 World.desert.chance).performAll?
      [.spawn "a" 1 ⟨"a", fun _ => .instant⟩, .spawn "b" 2 ⟨"b", fun _ => .instant⟩, .move 0 0 .advance,
        .move 0 1 .advance, .move 0 0 .advance, .move 0 1 .advance, .cancel "a"]).bind (fun s =>
          (s.perform? (.move 0 0 .quit)).map fun t =>
            (s.live.map fun c => (c.id, c.holdsPermit), t.live.map fun c => (c.id, c.holdsPermit))) =
        some ([(0, true), (1, false)], [(1, true)]) := by
    decide +kernel
  obtain ⟨s, hs, hstep⟩ := Option.bind_eq_some_iff.mp hplayed
  obtain ⟨t, ht, heq⟩ := Option.map_eq_some_iff.mp hstep
  have hholds : ∀ (u : Scheduler) (key : Nat),
      u.Holds key ↔ (key, true) ∈ u.live.map fun c => (c.id, c.holdsPermit) := by
    intro u key
    simp [Holds]
  obtain ⟨hbefore, hafter⟩ := Prod.mk.inj heq
  have hreach := reaches_of_performAll? hs
  refine ⟨s, t, Nat.one_pos, hreach, ht, ?_, ?_, ?_, ((permits_conserved Nat.one_pos hreach).2 _ t ht).2⟩
  · simp [hholds, hbefore]
  · simp [hholds, hbefore]
  · simp [hholds, hafter]

end Scheduler

/-- The scheduler of an observatory is one that its events have led to. -/
theorem Reachable.scheduler_reaches {o : Observatory} (ho : Reachable o) :
    ∃ settings chance,
      (Scheduler.create settings o.config.probe.concurrency.toNat chance).Reaches o.scheduler := by
  obtain ⟨config, world, started, records, steps, hstart, run⟩ := ho
  obtain ⟨hconfig, hreach, -⟩ := (Observatory.evolves_of_start hstart).trans run.evolves
  rw [hconfig]
  exact ⟨_, _, hreach⟩

/-- In every state of an observatory the probes in flight are those that hold a permit, and they are never
more than the configured number. -/
theorem Reachable.probesInFlight_le {o : Observatory} (ho : Reachable o) :
    o.probesInFlight = o.scheduler.permitsHeld ∧ o.probesInFlight ≤ max o.config.probe.concurrency.toNat 1 := by
  obtain ⟨settings, chance, hreach⟩ := ho.scheduler_reaches
  obtain ⟨hbalanced, hsame⟩ :=
    (Scheduler.Balanced.create settings o.config.probe.concurrency.toNat chance).reaches hreach
  have hconserved := hbalanced.conserved
  exact ⟨hconserved.inFlight, le_of_le_of_eq hconserved.inFlight_le hsame⟩

end OutboundWatch
