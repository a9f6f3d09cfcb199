import OutboundWatch.Proofs.Halting
import OutboundWatch.Proofs.Tracking

/-!
# Coming to rest after a stop

After a stop everything that is done at a moment leaves less to do at this moment: cycles end, the publisher
ends, closings look, drains end or wait, and the stop goes on. When nothing is due any more, the stop has come to
its end, or a closing waits for its next look.
-/

namespace OutboundWatch

/-- The time at which a transfer that waits goes on is to come. -/
lemma Transfer.isDue_of_run {now : Moment} {sink : Sink} {copied : Nat} {source : List SourcePart}
    {waiting : Transfer} (h : run now sink copied source = .waits waiting) : waiting.isDue now = false := by
  induction source generalizing sink copied with
  | nil => cases h
  | cons part rest ih =>
    cases part with
    | data bytes =>
      simp only [run] at h
      split at h
      · exact ih h
      · cases h
    | pause length =>
      simp only [run] at h
      split at h
      · exact ih h
      · rename_i hlong
        cases h
        have hpositive : 0 < length.nanos := Nat.pos_of_ne_zero (by simpa [Span.isZero] using hlong)
        exact decide_eq_false (Nat.not_le_of_gt (Nat.lt_add_of_pos_right (n := now) hpositive))
    | failure error => cases h
    | hang =>
      cases h
      simp [isDue]

lemma Transfer.isDue_of_turn {t waiting : Transfer} {now : Moment} (h : t.turn now = .waits waiting) :
    waiting.isDue now = false := by
  unfold turn at h
  split at h
  · exact isDue_of_run h
  · rename_i hwaits
    cases h
    simpa using hwaits

lemma countP_lt_of_imp {α : Type} {items : List α} {p q : α → Bool}
    (himp : ∀ x ∈ items, q x = true → p x = true) {x : α} (hx : x ∈ items) (hp : p x = true) (hq : q x = false) :
    items.countP q < items.countP p := by
  obtain ⟨before, after, rfl⟩ := List.append_of_mem hx
  have hbefore : before.countP q ≤ before.countP p :=
    List.countP_mono_left fun y hy => himp y (List.mem_append_left _ hy)
  have hafter : after.countP q ≤ after.countP p :=
    List.countP_mono_left fun y hy => himp y (List.mem_append_right _ (List.mem_cons_of_mem _ hy))
  simp only [List.countP_append, List.countP_cons, hp, hq, if_true, Bool.false_eq_true, if_false]
  omega

namespace DrainTracker

variable {t u : DrainTracker} {now : Moment}

/-- How much the tracker has to do at `now`: looks, drains that can go on, and connections that can end. -/
def left (t : DrainTracker) (now : Moment) : Nat :=
  t.closings.countP (fun c => decide (c.nextLook ≤ now)) + t.opened.length +
    t.opened.countP fun c => c.transfer.any (·.isDue now)

/-- What the tracker does: a closing looks, a drain goes on, or a drain notices the force-close signal. -/
lemma work?_cases (hids : (t.opened.map Connection.id).Nodup) {records : List Record}
    (happens : t.work? now = some (u, records)) :
    (∃ closing ∈ t.closings, closing.nextLook ≤ now ∧ u = (t.look now closing).1) ∨
      ∃ c ∈ t.opened, ∃ transfer, c.transfer = some transfer ∧ t.get? c.id = some c ∧
        (transfer.isDue now = true ∧ u = (t.turnDrain now c.id).1 ∨
          t.forceClosing = true ∧ u = (t.interruptDrain c.id).1) := by
  unfold work? at happens
  split at happens
  · rename_i closing hclosing
    have hu : u = (t.look now closing).1 := (congrArg Prod.fst (Option.some.inj happens)).symm
    exact .inl ⟨closing, List.mem_of_find?_eq_some hclosing, by simpa using List.find?_some hclosing, hu⟩
  · split at happens
    · rename_i c hc
      have hu : u = (t.turnDrain now c.id).1 := (congrArg Prod.fst (Option.some.inj happens)).symm
      have hmem := List.mem_of_find?_eq_some hc
      have hany : c.transfer.any (·.isDue now) = true := by simpa using List.find?_some hc
      obtain ⟨transfer, htransfer, hdue⟩ := (Option.any_eq_true _ _).mp hany
      exact .inr ⟨c, hmem, transfer, htransfer, get?_eq hids hmem, .inl ⟨hdue, hu⟩⟩
    · split at happens
      · rename_i c hc
        have hu : u = (t.interruptDrain c.id).1 := (congrArg Prod.fst (Option.some.inj happens)).symm
        have hmem := List.mem_of_find?_eq_some hc
        have hboth : t.forceClosing = true ∧ c.transfer.isSome = true := by
          simpa [Connection.isHeld] using List.find?_some hc
        obtain ⟨hforce, hdraining⟩ := hboth
        obtain ⟨transfer, htransfer⟩ := Option.isSome_iff_exists.mp hdraining
        exact .inr ⟨c, hmem, transfer, htransfer, get?_eq hids hmem, .inr ⟨hforce, hu⟩⟩
      · cases happens

lemma left_conclude {c : Connection} (hc : c ∈ t.opened) (result : Except DrainError DrainSummary) (sink : Sink) :
    (t.conclude c result sink).1.left now < t.left now := by
  have hfewer : (t.opened.filter fun d => d.id != c.id).length < t.opened.length :=
    List.length_filter_lt_length_iff_exists.mpr ⟨c, hc, by simp⟩
  have hdue : (t.opened.filter fun d => d.id != c.id).countP (fun d => d.transfer.any (·.isDue now)) ≤
      t.opened.countP fun d => d.transfer.any (·.isDue now) := List.filter_sublist.countP_le
  simp only [left, fst_conclude]
  omega

/-- A closing that looks has nothing more to do at the moment, whether it goes on or not. -/
lemma left_look {closing : Closing} (hmem : closing ∈ t.closings) (hdue : closing.nextLook ≤ now) :
    (t.look now closing).1.left now < t.left now := by
  have hfewer : (t.closings.filter fun c => c.ticket != closing.ticket).countP (fun c => decide (c.nextLook ≤ now)) <
      t.closings.countP fun c => decide (c.nextLook ≤ now) := by
    rw [List.countP_filter]
    refine countP_lt_of_imp (fun c _ hc => ?_) hmem (decide_eq_true hdue) (by simp)
    exact (Bool.and_eq_true_iff.mp hc).1
  unfold look
  dsimp only
  split
  · have hsame : ((t.opened.map (·.advance .forceClosed)).countP fun c => c.transfer.any (·.isDue now)) =
        t.opened.countP fun c => c.transfer.any (·.isDue now) := by
      rw [List.countP_map]
      congr 1
      funext c
      simp only [Function.comp_apply, Connection.advance]
      split <;> rfl
    simp only [left, forceClose, hsame, List.length_map]
    omega
  · have hpause : 0 < lookEvery := by decide
    have hlater : ¬now + lookEvery ≤ now := Nat.not_le.mpr (Nat.lt_add_of_pos_right hpause)
    simp only [left, hlater, List.countP_append, List.countP_cons, List.countP_nil, decide_false,
      Bool.false_eq_true, if_false]
    omega

lemma left_turnDrain {c : Connection} (hc : c ∈ t.opened) (hget : t.get? c.id = some c) {transfer : Transfer}
    (htransfer : c.transfer = some transfer) (hdue : transfer.isDue now = true) :
    (t.turnDrain now c.id).1.left now < t.left now := by
  simp only [turnDrain, hget, htransfer]
  split
  · rename_i waiting hturn
    have hwaits := Transfer.isDue_of_turn hturn
    have hless := countP_lt_of_imp (p := fun d : Connection => d.transfer.any (·.isDue now))
      (q := (fun d : Connection => d.transfer.any (·.isDue now)) ∘ fun d =>
        if d.id = c.id then { d with transfer := some waiting } else d) ?_ hc (by simp [htransfer, hdue])
      (by simp [hwaits])
    · simp only [left, modify, List.length_map, List.countP_map]
      omega
    · intro d _ hd
      simp only [Function.comp_apply] at hd
      split at hd
      · simp [hwaits] at hd
      · exact hd
  · exact left_conclude hc _ _
  · exact left_conclude hc _ _

lemma left_interruptDrain {c : Connection} (hc : c ∈ t.opened) (hget : t.get? c.id = some c) {transfer : Transfer}
    (htransfer : c.transfer = some transfer) (hforce : t.forceClosing = true) :
    (t.interruptDrain c.id).1.left now < t.left now := by
  simp only [interruptDrain, hforce, if_true, hget, htransfer]
  exact left_conclude hc _ _

theorem left_work? (hids : (t.opened.map Connection.id).Nodup) {records : List Record}
    (happens : t.work? now = some (u, records)) : u.left now < t.left now := by
  rcases work?_cases hids happens with ⟨closing, hmem, hdue, rfl⟩ |
    ⟨c, hc, transfer, htransfer, hget, ⟨hdue, rfl⟩ | ⟨hforce, rfl⟩⟩
  · exact left_look hmem hdue
  · exact left_turnDrain hc hget htransfer hdue
  · exact left_interruptDrain hc hget htransfer hforce

end DrainTracker

namespace Publisher

/-- How many moves a publisher that knows of the shutdown has still to make. -/
def left (p : Publisher) : Nat :=
  match p.phase with
  | .starting => 2
  | .running => 1
  | .ended => 0

lemma left_work? {p after : Publisher} {table published : RankingTable} {records : List Record}
    (hsignalled : p.signalled = true) (happens : p.work? table = some (after, published, records)) :
    after.left < p.left := by
  unfold work? at happens
  split at happens <;> rename_i hphase
  · cases happens
  · cases happens
    simp [left, hphase]
  · rw [if_pos hsignalled] at happens
    cases happens
    simp [left, finish, hphase]

end Publisher

namespace Scheduler

variable {s : Scheduler}

lemma stopping_of_told (htold : ∀ f ∈ s.faces, f.stopping = true) {c : Cycle} (hc : c ∈ s.live) :
    c.stopping = true :=
  htold c.face (face_mem hc)

/-- Cycles that were told to stop report nothing any more. -/
lemma report?_of_told (htold : ∀ f ∈ s.faces, f.stopping = true) : s.report? = none := by
  refine List.findSome?_eq_none_iff.mpr fun c hc => ?_
  split
  · rw [if_pos (stopping_of_told htold hc)]
  · rfl

/-- Of cycles that were told to stop, one ends after the other. -/
lemma work?_of_told (htold : ∀ f ∈ s.faces, f.stopping = true) (now : Moment) :
    s.live = [] ∧ s.work? now = none ∨ ∃ c ∈ s.live, s.work? now = some (s.exit now c) := by
  have hdue : s.live.filter (s.isDue now) = s.live := by
    refine List.filter_eq_self.mpr fun c hc => ?_
    rw [isDue, stopping_of_told htold hc, Bool.true_or]
  unfold work?
  dsimp only
  rw [hdue]
  cases hlive : s.live with
  | nil => exact .inl ⟨rfl, rfl⟩
  | cons c rest =>
    have hstopping := stopping_of_told htold (hlive ▸ List.mem_cons_self)
    refine .inr ⟨c, List.mem_cons_self, ?_⟩
    simp [hstopping, act]

lemma length_exit (h : s.Sound) (now : Moment) {c : Cycle} (hc : c ∈ s.live) :
    (s.exit now c).1.live.length < s.live.length := by
  have hfaces : (s.exit now c).1.faces = s.faces.filter fun f => f.id != c.id := h.faces_remove now c
  have hless : (s.faces.filter fun f => f.id != c.id).length < s.faces.length :=
    List.length_filter_lt_length_iff_exists.mpr ⟨c.face, face_mem hc, by simp [Cycle.face]⟩
  rw [← hfaces] at hless
  simpa [faces] using hless

end Scheduler

/-- How many parts of a stop are to come, with the first look of a closing that is not yet made. -/
def StopStage.left : StopStage → Nat
  | .joining _ => 4
  | .flushing => 3
  | .draining _ => 1
  | _ => 0

namespace Observatory

variable {o p : Observatory} {now : Moment} {records : List Record}

/-- How much there is to do at `now` after a stop. -/
def left (o : Observatory) (now : Moment) : Nat :=
  o.publisher.left + o.scheduler.live.length + o.routing.drains.left now + o.stage.left

/-- What an observatory does by itself after a stop: the publisher moves, a cycle ends, the tracker works, or
the stop goes on. -/
lemma work?_of_stopped (ho : Reachable o) (hstopped : o.isStopped = true)
    (happens : Clockwork.work? now o = some (p, records)) :
    (∃ publisher table, o.publisher.work? o.routing.table = some (publisher, table, records) ∧
        p = { o with publisher := publisher, routing := { o.routing with table := table } }) ∨
      (∃ c ∈ o.scheduler.live, p = { o with scheduler := (o.scheduler.exit now c).1 }) ∨
      (∃ drains, o.routing.drains.work? now = some (drains, records) ∧
        p = { o with routing := { o.routing with drains := drains } }) ∨
      o.proceedStop? now = some (p, records) := by
  have htold := ho.halting.told hstopped
  simp only [Clockwork.work?, Option.orElse_eq_orElse, Option.orElse_eq_or, Option.or_eq_some_iff] at happens
  rcases happens with hpublisher | ⟨-, hdelivery | ⟨-, hscheduler | ⟨-, hdrain | ⟨-, hstop⟩⟩⟩⟩
  · obtain ⟨⟨publisher, table, made⟩, hafter, heq⟩ := Option.map_eq_some_iff.mp hpublisher
    cases heq
    exact .inl ⟨publisher, table, hafter, rfl⟩
  · simp [deliveryWork?, Scheduler.report?_of_told htold] at hdelivery
  · obtain ⟨after, hafter, heq⟩ := Option.map_eq_some_iff.mp hscheduler
    cases heq
    rcases Scheduler.work?_of_told htold now with ⟨-, hnone⟩ | ⟨c, hc, hexit⟩
    · rw [hnone] at hafter
      cases hafter
    · rw [hexit] at hafter
      cases hafter
      exact .inr (.inl ⟨c, hc, rfl⟩)
  · obtain ⟨⟨drains, made⟩, hafter, heq⟩ := Option.map_eq_some_iff.mp hdrain
    cases heq
    exact .inr (.inr (.inl ⟨drains, hafter, rfl⟩))
  · exact .inr (.inr (.inr hstop))

lemma left_proceedStop? (happens : o.proceedStop? now = some (p, records)) : p.left now < o.left now := by
  rcases proceedStop?_stages happens with ⟨cycles, hstage, rfl⟩ | ⟨hstage, rfl⟩ |
    ⟨hstage, drains, ticket, hbegin, rfl⟩ | ⟨ticket, drains, forced, hstage, htake, rfl⟩
  · simp [left, hstage, StopStage.left]
  · simp [left, hstage, StopStage.left]
  · obtain ⟨deadline, -, heq⟩ := Option.map_eq_some_iff.mp hbegin
    cases heq
    simp only [left, hstage, StopStage.left, DrainTracker.left, List.countP_append, List.countP_cons,
      List.countP_nil, Nat.le_refl, decide_true, if_true]
    omega
  · unfold DrainTracker.takeClosed at htake
    split at htake <;> cases htake
    simp [left, hstage, StopStage.left, DrainTracker.left]

/-- After a stop there is less to do after everything that is done. -/
theorem left_work? (ho : Reachable o) (hstopped : o.isStopped = true)
    (happens : Clockwork.work? now o = some (p, records)) : p.left now < o.left now := by
  rcases work?_of_stopped ho hstopped happens with ⟨publisher, table, hwork, rfl⟩ | ⟨c, hc, rfl⟩ |
    ⟨drains, hwork, rfl⟩ | hstop
  · have hless := Publisher.left_work? (ho.halting.signalled hstopped) hwork
    simp only [left]
    omega
  · have hless := Scheduler.length_exit ho.ordered.sound now hc
    simp only [left]
    omega
  · have hless := DrainTracker.left_work? ho.tracked.ids hwork
    simp only [left]
    omega
  · exact left_proceedStop? hstop

/-- When nothing is due after a stop, the stop has come to its end, or a closing waits for its next look. -/
theorem idle_of_stopped (ho : Reachable o) (hstopped : o.isStopped = true)
    (hidle : Clockwork.work? now o = none) :
    o.stage = .overflowed ∨ (∃ n, o.stage = .stopped n) ∨
      ∃ ticket closing, o.stage = .draining ticket ∧ closing ∈ o.routing.drains.closings ∧
        now < closing.nextLook := by
  simp only [Clockwork.work?, Option.orElse_eq_orElse, Option.orElse_eq_or, Option.or_eq_none_iff] at hidle
  obtain ⟨hpublisher, -, hscheduler, hdrain, hstop⟩ := hidle
  have hlive : o.scheduler.live = [] := by
    rcases Scheduler.work?_of_told (ho.halting.told hstopped) now with ⟨hnone, -⟩ | ⟨c, -, hexit⟩
    · exact hnone
    · simp [schedulerWork?, hexit] at hscheduler
  have hended : o.publisher.isRunning = false := by
    have hsignalled := ho.halting.signalled hstopped
    cases hphase : o.publisher.phase with
    | ended => simp [Publisher.isRunning, hphase]
    | starting => simp [publisherWork?, Publisher.work?, hphase] at hpublisher
    | running => simp [publisherWork?, Publisher.work?, hphase, hsignalled] at hpublisher
  cases hstage : o.stage with
  | running => simp [isStopped, hstage] at hstopped
  | joining cycles => simp [proceedStop?, hstage, Scheduler.get?, hlive] at hstop
  | flushing =>
    simp only [proceedStop?, hstage, hended, Bool.false_eq_true, if_false] at hstop
    split at hstop <;> cases hstop
  | draining ticket =>
    have hfits := ho.tracked.fits
    rw [hstage] at hfits
    rcases hfits with ⟨-, -, closing, honly, -⟩ | ⟨-, -, forced, hclosed⟩
    · refine .inr (.inr ⟨ticket, closing, rfl, honly ▸ List.mem_singleton_self _, ?_⟩)
      by_contra hlook
      have hdue : closing.nextLook ≤ now := Nat.not_lt.mp hlook
      simp [drainWork?, DrainTracker.work?, honly, hdue] at hdrain
    · simp [proceedStop?, hstage, DrainTracker.takeClosed, hclosed] at hstop
  | stopped n => exact .inr (.inl ⟨n, rfl⟩)
  | overflowed => exact .inl rfl

end Observatory

end OutboundWatch
