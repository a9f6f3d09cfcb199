import OutboundWatch.Proofs.Evolution

/-!
# Permits

A permit passes from the scheduler to a cycle and back, or straight to the cycle that has waited longest. Each
move puts one cycle into another place, so that the permits are counted over the places of a single cycle.
-/

namespace OutboundWatch

def Cycle.isQueued (c : Cycle) : Bool :=
  match c.stage with
  | .queued _ => true
  | _ => false

lemma Cycle.stage_of_isQueued {c : Cycle} (h : c.isQueued = true) : ∃ giveUpAt, c.stage = .queued giveUpAt := by
  unfold isQueued at h
  split at h
  · exact ⟨_, ‹_›⟩
  · cases h

/-- A cycle that has something to report neither has a permit nor waits for one. -/
lemma Cycle.idle_of_isReporting {c : Cycle} (h : c.isReporting = true) :
    c.isQueued = false ∧ c.holdsPermit = false := by
  revert h
  unfold isReporting isQueued holdsPermit CycleStage.unsent
  cases c.stage <;> simp

namespace Scheduler

/-- The cycle with this id holds a permit. -/
def Holds (s : Scheduler) (id : Nat) : Prop := ∃ c ∈ s.live, c.id = id ∧ c.holdsPermit = true

/-- The number of permits that cycles hold. -/
def permitsHeld (s : Scheduler) : Nat := s.live.countP Cycle.holdsPermit

/-- Cycles have ids of their own, and those that are queued for a permit wait once each. -/
structure Seated (s : Scheduler) : Prop where
  ids : (s.live.map Cycle.id).Nodup
  fresh : ∀ c ∈ s.live, c.id < s.nextId
  waits : s.waiting.Nodup
  mem_waiting_iff : ∀ id, id ∈ s.waiting ↔ ∃ c ∈ s.live, c.id = id ∧ c.isQueued = true

/-- One cycle is in another place, or has ended, and everything else is as it was but for the free permits. -/
structure Moved (s : Scheduler) (id : Nat) (place : Option Cycle) (t : Scheduler) : Prop where
  live : t.live = s.live.filterMap fun d => if d.id = id then place else some d
  waiting : t.waiting = s.waiting.filter (· != id) ++ (place.filter Cycle.isQueued).toList.map Cycle.id
  nextId : t.nextId = s.nextId
  concurrency : t.concurrency = s.concurrency

variable {s t : Scheduler} {now : Moment} {id : Nat} {c : Cycle} {place : Option Cycle}

namespace Seated

lemma create (settings : CycleSettings) (concurrency : Nat) (chance : Nat → Binary64) :
    (Scheduler.create settings concurrency chance).Seated where
  ids := .nil
  fresh _ h := by cases h
  waits := .nil
  mem_waiting_iff id := by simp [Scheduler.create]

lemma eq_of_id (h : s.Seated) {c d : Cycle} (hc : c ∈ s.live) (hd : d ∈ s.live) (hid : c.id = d.id) : c = d :=
  List.inj_on_of_nodup_map h.ids hc hd hid

lemma split (h : s.Seated) (hc : s.get? id = some c) :
    ∃ xs ys, s.live = xs ++ c :: ys ∧ c.id = id ∧ ∀ d ∈ xs ++ ys, d.id ≠ id := by
  obtain ⟨hmem, rfl⟩ := mem_of_get? hc
  obtain ⟨xs, ys, hlive⟩ := List.append_of_mem hmem
  refine ⟨xs, ys, hlive, rfl, fun d hd heq => ?_⟩
  have hids := h.ids
  rw [hlive, List.map_append, List.map_cons, List.nodup_middle, ← List.map_append, List.nodup_cons] at hids
  exact hids.1 (heq ▸ List.mem_map_of_mem hd)

lemma waiting_filter (h : s.Seated) (hc : s.get? id = some c) (hidle : c.isQueued = false) :
    s.waiting.filter (· != id) = s.waiting := by
  obtain ⟨hmem, rfl⟩ := mem_of_get? hc
  refine List.filter_eq_self.mpr fun key hkey => ?_
  obtain ⟨d, hd, rfl, hqueued⟩ := (h.mem_waiting_iff key).mp hkey
  have hne : d.id ≠ c.id := fun heq => by
    rw [h.eq_of_id hd hmem heq, hidle] at hqueued
    cases hqueued
  simpa using hne

/-- A change of one cycle puts it into its new place. -/
lemma moved (h : s.Seated) (hc : s.get? id = some c) {f : Cycle → Cycle}
    (hlive : t.live = (s.modify id f).live)
    (hwaiting : t.waiting = s.waiting.filter (· != id) ++ ((some (f c)).filter Cycle.isQueued).toList.map Cycle.id)
    (hnext : t.nextId = s.nextId) (hconcurrency : t.concurrency = s.concurrency) :
    s.Moved id (some (f c)) t := by
  refine ⟨?_, hwaiting, hnext, hconcurrency⟩
  rw [hlive, modify, ← List.filterMap_eq_map]
  refine List.filterMap_congr fun d hd => ?_
  obtain ⟨hmem, rfl⟩ := mem_of_get? hc
  by_cases hid : d.id = c.id
  · simp [h.eq_of_id hd hmem hid]
  · simp [hid]

/-- A cycle that neither waits nor is going to wait leaves the queue alone. -/
lemma moved_idle (h : s.Seated) (hc : s.get? id = some c) (hidle : c.isQueued = false) {f : Cycle → Cycle}
    (hstays : (f c).isQueued = false) (hlive : t.live = (s.modify id f).live) (hwaiting : t.waiting = s.waiting)
    (hnext : t.nextId = s.nextId) (hconcurrency : t.concurrency = s.concurrency) :
    s.Moved id (some (f c)) t := by
  refine h.moved hc hlive ?_ hnext hconcurrency
  rw [h.waiting_filter hc hidle, hwaiting]
  simp [Option.filter, hstays]

end Seated

namespace Moved

lemma live_eq (h : s.Moved id place t) {xs ys : List Cycle} (hlive : s.live = xs ++ c :: ys) (hid : c.id = id)
    (hothers : ∀ d ∈ xs ++ ys, d.id ≠ id) : t.live = xs ++ place.toList ++ ys := by
  have hkeep : ∀ zs : List Cycle, (∀ d ∈ zs, d.id ≠ id) →
      (zs.filterMap fun d => if d.id = id then place else some d) = zs := by
    intro zs hzs
    rw [List.filterMap_congr (g := some) fun d hd => if_neg (hzs d hd), List.filterMap_some]
  have hxs := hkeep xs fun d hd => hothers d (List.mem_append_left _ hd)
  have hys := hkeep ys fun d hd => hothers d (List.mem_append_right _ hd)
  rw [h.live, hlive, List.filterMap_append, List.filterMap_cons, hxs, hys, if_pos hid]
  cases place <;> simp

/-- What the place of a cycle adds to the permits held. -/
lemma permitsHeld_add (h : s.Moved id place t) (hs : s.Seated) (hc : s.get? id = some c) :
    t.permitsHeld + c.holdsPermit.toNat = s.permitsHeld + place.elim 0 fun d => d.holdsPermit.toNat := by
  obtain ⟨xs, ys, hlive, hid, hothers⟩ := hs.split hc
  have hone : ∀ d : Cycle, [d].countP Cycle.holdsPermit = d.holdsPermit.toNat := by
    intro d
    cases hd : d.holdsPermit <;> simp [hd]
  have hplace : place.toList.countP Cycle.holdsPermit = place.elim 0 fun d => d.holdsPermit.toNat := by
    cases place with
    | none => rfl
    | some d => exact hone d
  rw [permitsHeld, permitsHeld, h.live_eq hlive hid hothers, hlive, List.append_cons]
  simp only [List.countP_append, hone, hplace]
  omega

variable (h : s.Moved id place t) (hs : s.Seated) (hc : s.get? id = some c) (hplace : ∀ d ∈ place, d.id = id)

include h hs hc

lemma mem_live_iff (d : Cycle) : d ∈ t.live ↔ (d ∈ s.live ∧ d.id ≠ id) ∨ place = some d := by
  obtain ⟨xs, ys, hlive, hid, hothers⟩ := hs.split hc
  have hd := hothers d
  rw [h.live_eq hlive hid hothers, hlive]
  simp only [List.mem_append, List.mem_cons, Option.mem_toList] at hd ⊢
  -- The ids apart, it is a matter of being the moved cycle or one around it.
  by_cases heq : d = c
  · subst heq
    tauto
  · tauto

include hplace

lemma seated : t.Seated := by
  have hmem := h.mem_live_iff hs hc
  refine ⟨?_, ?_, ?_, ?_⟩
  · obtain ⟨xs, ys, hlive, hid, hothers⟩ := hs.split hc
    have hids := hs.ids
    rw [hlive, List.append_cons] at hids
    rw [h.live_eq hlive hid hothers]
    refine hids.sublist ?_
    simp only [List.map_append, List.append_assoc]
    refine List.Sublist.append_left (List.Sublist.append_right ?_ _) _
    cases place with
    | none => exact List.nil_sublist _
    | some d => simp [hplace d rfl, hid]
  · intro d hd
    rw [h.nextId]
    rcases (hmem d).mp hd with ⟨hold, -⟩ | hnew
    · exact hs.fresh d hold
    · obtain ⟨hold, hid⟩ := mem_of_get? hc
      rw [hplace d hnew, ← hid]
      exact hs.fresh c hold
  · rw [h.waiting, List.nodup_append]
    refine ⟨hs.waits.filter _, ?_, ?_⟩
    · cases place with
      | none => simp
      | some d => cases hd : d.isQueued <;> simp [Option.filter, hd]
    · rintro a ha b hb rfl
      obtain ⟨d, hd, rfl⟩ := List.mem_map.mp hb
      have hnew : place = some d := (Option.filter_eq_some_iff.mp (Option.mem_toList.mp hd)).1
      simp [hplace d hnew] at ha
  · intro key
    rw [h.waiting, List.mem_append]
    constructor
    · rintro (hkey | hkey)
      · obtain ⟨hwaits, hother⟩ := List.mem_filter.mp hkey
        obtain ⟨d, hd, rfl, hqueued⟩ := (hs.mem_waiting_iff key).mp hwaits
        exact ⟨d, (hmem d).mpr (.inl ⟨hd, by simpa using hother⟩), rfl, hqueued⟩
      · obtain ⟨d, hd, rfl⟩ := List.mem_map.mp hkey
        obtain ⟨hnew, hqueued⟩ := Option.filter_eq_some_iff.mp (Option.mem_toList.mp hd)
        exact ⟨d, (hmem d).mpr (.inr hnew), rfl, hqueued⟩
    · rintro ⟨d, hd, rfl, hqueued⟩
      rcases (hmem d).mp hd with ⟨hold, hother⟩ | hnew
      · have hwaits := (hs.mem_waiting_iff d.id).mpr ⟨d, hold, rfl, hqueued⟩
        exact .inl (List.mem_filter.mpr ⟨hwaits, by simpa using hother⟩)
      · exact .inr (List.mem_map.mpr ⟨d, by simp [hnew, Option.filter, hqueued], rfl⟩)

/-- Which cycles hold a permit after one has changed its place. -/
lemma holds_iff (key : Nat) :
    t.Holds key ↔ if key = id then ∃ d, place = some d ∧ d.holdsPermit = true else s.Holds key := by
  have hmem := h.mem_live_iff hs hc
  unfold Holds
  split
  · rename_i hkey
    constructor
    · rintro ⟨d, hd, hown, hholds⟩
      exact ⟨d, ((hmem d).mp hd).resolve_left fun hother => hother.2 (hown.trans hkey), hholds⟩
    · rintro ⟨d, hnew, hholds⟩
      exact ⟨d, (hmem d).mpr (.inr hnew), (hplace d hnew).trans hkey.symm, hholds⟩
  · rename_i hkey
    constructor
    · rintro ⟨d, hd, rfl, hholds⟩
      rcases (hmem d).mp hd with ⟨hold, -⟩ | hnew
      · exact ⟨d, hold, rfl, hholds⟩
      · exact absurd (hplace d hnew) hkey
    · rintro ⟨d, hd, rfl, hholds⟩
      exact ⟨d, (hmem d).mpr (.inl ⟨hd, hkey⟩), rfl, hholds⟩

end Moved

/-- The permits that are free and those that cycles hold are all that there are. -/
structure Balanced (s : Scheduler) : Prop extends s.Seated where
  total : s.available + s.permitsHeld = s.concurrency

/-- What a move of the cycle `c` with this id does with the permits: none passes, it takes a free one, or it gives
its own back. -/
inductive Passes (s : Scheduler) (now : Moment) (id : Nat) (c : Cycle) : Option Cycle → Scheduler → Prop where
  | idle {place : Option Cycle} {t : Scheduler} (moved : s.Moved id place t) (same : t.available = s.available)
    (before : c.holdsPermit = false) (after : ∀ d ∈ place, d.holdsPermit = false) : Passes s now id c place t
  | takes {d : Cycle} {t : Scheduler} (moved : s.Moved id (some d) t) (one : t.available + 1 = s.available)
    (before : ∃ wakeAt, c.stage = .sleeping wakeAt) (after : d.holdsPermit = true) :
    Passes s now id c (some d) t
  | gives {place : Option Cycle} {t : Scheduler} (moved : s.Moved id place t) (same : t.available = s.available)
    (before : c.holdsPermit = true) (after : ∀ d ∈ place, d.holdsPermit = false)
    (leaves : ∀ d ∈ place, d.isQueued = false) : Passes s now id c place (t.returnPermit now)

lemma holdsPermit_of_isQueued (h : c.isQueued = true) : c.holdsPermit = false := by
  unfold Cycle.isQueued at h
  unfold Cycle.holdsPermit
  split at h <;> simp_all

lemma isQueued_of_holdsPermit (h : c.holdsPermit = true) : c.isQueued = false := by
  by_contra hqueued
  rw [holdsPermit_of_isQueued (by simpa using hqueued)] at h
  cases h

namespace Seated

lemma head?_waiting_ne (h : s.Seated) (hc : s.get? id = some c) (hidle : c.isQueued = false) :
    s.waiting.head? ≠ some id := by
  intro hhead
  rw [← h.waiting_filter hc hidle] at hhead
  simpa using (List.mem_filter.mp (List.mem_of_head? hhead)).2

/-- A permit that comes back is free, or the cycle that has waited longest has it. -/
lemma returnPermit_cases (h : s.Seated) (now : Moment) :
    (s.waiting = [] ∧ s.returnPermit now = { s with available := s.available + 1 }) ∨
      ∃ next d, s.waiting.head? = some next ∧ s.get? next = some d ∧ d.isQueued = true ∧
        s.Moved next (some (d.probeFrom now)) (s.returnPermit now) ∧
        (s.returnPermit now).available = s.available := by
  unfold Scheduler.returnPermit
  split
  · rename_i hwaiting
    exact .inl ⟨hwaiting, rfl⟩
  · rename_i next others hwaiting
    obtain ⟨d, hd, rfl, hqueued⟩ := (h.mem_waiting_iff next).mp (by rw [hwaiting]; exact List.mem_cons_self)
    have hget := get?_eq_of_nodup h.ids hd
    refine .inr ⟨d.id, d, by rw [hwaiting]; rfl, hget, hqueued, ?_, rfl⟩
    refine h.moved hget (f := (·.probeFrom now)) rfl ?_ rfl rfl
    have hwaits := h.waits
    rw [hwaiting, List.nodup_cons] at hwaits
    have hothers : others.filter (· != d.id) = others := by
      refine List.filter_eq_self.mpr fun key hkey => ?_
      have hne : key ≠ d.id := fun heq => hwaits.1 (heq ▸ hkey)
      simpa using hne
    simp [hwaiting, hothers, Cycle.isQueued, Cycle.probeFrom, Option.filter]

lemma returnPermit (h : s.Seated) (hone : s.available + s.permitsHeld + 1 = s.concurrency) (now : Moment) :
    (s.returnPermit now).Balanced ∧ (s.returnPermit now).concurrency = s.concurrency := by
  rcases h.returnPermit_cases now with ⟨-, heq⟩ | ⟨next, d, -, hd, hqueued, hmoved, hsame⟩
  · rw [heq]
    refine ⟨⟨⟨h.ids, h.fresh, h.waits, h.mem_waiting_iff⟩, ?_⟩, rfl⟩
    simp only [permitsHeld] at hone ⊢
    omega
  · refine ⟨⟨hmoved.seated h hd fun e he => ?_, ?_⟩, hmoved.concurrency⟩
    · cases he
      exact (mem_of_get? hd).2
    · have hcount := hmoved.permitsHeld_add h hd
      have hbegun : (d.probeFrom now).holdsPermit = true := rfl
      simp only [Option.elim_some, holdsPermit_of_isQueued hqueued, hbegun, Bool.toNat_true, Bool.toNat_false]
        at hcount
      rw [hmoved.concurrency, hsame]
      omega

/-- A permit that comes back goes to nobody but the first in the queue. -/
lemma holds_returnPermit (h : s.Seated) (now : Moment) (key : Nat) :
    (s.returnPermit now).Holds key ↔ s.Holds key ∨ s.waiting.head? = some key := by
  rcases h.returnPermit_cases now with ⟨hwaiting, heq⟩ | ⟨next, d, hnext, hd, hqueued, hmoved, -⟩
  · rw [heq, hwaiting]
    simp [Holds]
  · rw [hmoved.holds_iff h hd (fun e he => by cases he; exact (mem_of_get? hd).2), hnext]
    by_cases hkey : key = next
    · subst hkey
      simp [Cycle.probeFrom, Cycle.holdsPermit]
    · simp [hkey, Ne.symm hkey]

end Seated

namespace Passes

variable (h : s.Passes now id c place t) (hc : s.get? id = some c) (hplace : ∀ d ∈ place, d.id = id)

include h hc hplace

lemma balanced (hs : s.Balanced) : t.Balanced ∧ t.concurrency = s.concurrency := by
  have htotal := hs.total
  have hnone : ∀ {place : Option Cycle}, (∀ d ∈ place, d.holdsPermit = false) →
      (place.elim 0 fun d => d.holdsPermit.toNat) = 0 := by
    intro place hafter
    cases place with
    | none => rfl
    | some d => simp [hafter d rfl]
  cases h with
  | idle moved same before after =>
    have hcount := moved.permitsHeld_add hs.toSeated hc
    rw [hnone after, before, Bool.toNat_false] at hcount
    refine ⟨⟨moved.seated hs.toSeated hc hplace, ?_⟩, moved.concurrency⟩
    rw [moved.concurrency, same]
    omega
  | takes moved one before after =>
    obtain ⟨wakeAt, hstage⟩ := before
    have hfree : c.holdsPermit = false := by simp [Cycle.holdsPermit, hstage]
    have hcount := moved.permitsHeld_add hs.toSeated hc
    rw [Option.elim_some, after, hfree, Bool.toNat_true, Bool.toNat_false] at hcount
    refine ⟨⟨moved.seated hs.toSeated hc hplace, ?_⟩, moved.concurrency⟩
    rw [moved.concurrency]
    omega
  | gives moved same before after leaves =>
    -- Between the move and the return, one permit is neither free nor held.
    have hcount := moved.permitsHeld_add hs.toSeated hc
    rw [hnone after, before, Bool.toNat_true] at hcount
    have hone := (moved.seated hs.toSeated hc hplace).returnPermit (by rw [moved.concurrency, same]; omega) now
    exact ⟨hone.1, hone.2.trans moved.concurrency⟩

lemma holds_iff_of_holder (hs : s.Seated) (hholder : c.holdsPermit = true) (key : Nat) :
    t.Holds key ↔ (key ≠ id ∧ s.Holds key) ∨ s.waiting.head? = some key := by
  cases h with
  | idle moved same before after =>
    rw [before] at hholder
    cases hholder
  | takes moved one before after =>
    obtain ⟨wakeAt, hstage⟩ := before
    simp [Cycle.holdsPermit, hstage] at hholder
  | @gives place m moved same before after leaves =>
    have hqueue : m.waiting = s.waiting := by
      rw [moved.waiting, hs.waiting_filter hc (isQueued_of_holdsPermit hholder)]
      cases place with
      | none => simp
      | some d => simp [Option.filter, leaves d rfl]
    rw [(moved.seated hs hc hplace).holds_returnPermit now key, hqueue, moved.holds_iff hs hc hplace key]
    by_cases hkey : key = id
    · have hleft : ¬∃ d, place = some d ∧ d.holdsPermit = true := by
        rintro ⟨d, hd, hholds⟩
        rw [after d hd] at hholds
        cases hholds
      simp [hkey, hleft]
    · simp [hkey]

lemma holds_iff_of_idle (hs : s.Seated) (hidle : c.holdsPermit = false) (key : Nat) :
    (t.Holds key ↔ s.Holds key) ∨
      (key = id ∧ t.Holds key ∧ 0 < s.available ∧ ∃ wakeAt, c.stage = .sleeping wakeAt) := by
  have hnone : ¬s.Holds id := by
    rintro ⟨d, hd, hown, hholds⟩
    obtain ⟨hmem, hid⟩ := mem_of_get? hc
    rw [hs.eq_of_id hd hmem (hown.trans hid.symm), hidle] at hholds
    cases hholds
  cases h with
  | idle moved same before after =>
    refine .inl ?_
    rw [moved.holds_iff hs hc hplace key]
    split
    · rename_i hkey
      subst hkey
      refine iff_of_false ?_ hnone
      rintro ⟨d, hd, hholds⟩
      rw [after d hd] at hholds
      cases hholds
    · rfl
  | takes moved one before after =>
    rw [moved.holds_iff hs hc hplace key]
    split
    · rename_i hkey
      exact .inr ⟨hkey, ⟨_, rfl, after⟩, by omega, before⟩
    · exact .inl .rfl
  | gives moved same before after leaves =>
    rw [before] at hidle
    cases hidle

/-- A cycle that has moved to no other place has ended. -/
lemma get?_none (hs : s.Seated) (hgone : place = none) : t.get? id = none := by
  subst hgone
  have habsent : ∀ {m : Scheduler}, s.Moved id none m → ∀ d ∈ m.live, d.id ≠ id := by
    intro m moved d hd
    rcases (moved.mem_live_iff hs hc d).mp hd with ⟨-, hother⟩ | hnew
    · exact hother
    · cases hnew
  refine List.find?_eq_none.mpr fun d hd => ?_
  suffices d.id ≠ id by simpa using this
  cases h with
  | idle moved same before after => exact habsent moved d hd
  | @gives _ m moved same before after leaves =>
    rcases (moved.seated hs hc hplace).returnPermit_cases now with ⟨-, heq⟩ | ⟨next, e, -, he, -, hnext, -⟩
    · rw [heq] at hd
      exact habsent moved d hd
    · rcases (hnext.mem_live_iff (moved.seated hs hc hplace) he d).mp hd with ⟨hold, -⟩ | hnew
      · exact habsent moved d hold
      · cases hnew
        exact habsent moved e (mem_of_get? he).1

end Passes

/-- A cycle that ends gives its permit back, or leaves the queue. -/
lemma passes_remove (hc : s.get? id = some c) (now : Moment) : s.Passes now id c none (s.remove now c) := by
  obtain ⟨-, hid⟩ := mem_of_get? hc
  have hmoved : s.Moved id none { s with
      live := s.live.filter fun other => other.id != id
      waiting := s.waiting.filter (· != id) } := by
    refine ⟨?_, by simp, rfl, rfl⟩
    dsimp only
    rw [← List.filterMap_eq_filter]
    refine List.filterMap_congr fun d _ => ?_
    by_cases hd : d.id = id <;> simp [hd, Option.guard]
  unfold Scheduler.remove
  rw [hid]
  split
  · rename_i hholds
    exact .gives hmoved rfl hholds (by simp) (by simp)
  · rename_i hholds
    exact .idle hmoved rfl (by simpa using hholds) (by simp)

namespace Seated

variable (h : s.Seated) (hc : s.get? id = some c)

include h hc

lemma passes_begin (hstage : c.stage = .starting) :
    ∃ place, (∀ d ∈ place, d.id = id) ∧ s.Passes now id c place (s.begin now c).1 := by
  obtain ⟨-, hid⟩ := mem_of_get? hc
  have hqueued : c.isQueued = false := by simp [Cycle.isQueued, hstage]
  have hholds : c.holdsPermit = false := by simp [Cycle.holdsPermit, hstage]
  unfold Scheduler.begin draw
  dsimp only
  generalize initialDelay? s.settings.interval s.settings.jitterRatio (s.chance s.drawn) = delay
  cases delay with
  | none => exact ⟨none, by simp, passes_remove hc now⟩
  | some pause =>
    rw [hid]
    refine ⟨some ({ c with pause := pause }.sleepFrom now), by simp [Cycle.sleepFrom, hid], .idle ?_ rfl hholds ?_⟩
    · refine h.moved_idle hc hqueued (f := fun c => { c with pause := pause }.sleepFrom now) ?_ ?_ ?_ ?_ ?_ <;> rfl
    · simp [Cycle.sleepFrom, Cycle.holdsPermit]

lemma passes_wake {wakeAt : Moment} (hstage : c.stage = .sleeping wakeAt) :
    ∃ place, (∀ d ∈ place, d.id = id) ∧ s.Passes now id c place (s.wake now c).1 := by
  obtain ⟨-, hid⟩ := mem_of_get? hc
  have hqueued : c.isQueued = false := by simp [Cycle.isQueued, hstage]
  have hholds : c.holdsPermit = false := by simp [Cycle.holdsPermit, hstage]
  unfold Scheduler.wake draw
  dsimp only
  generalize jitteredInterval? s.settings.interval s.settings.jitterRatio (s.chance s.drawn) = delay
  cases delay with
  | none => exact ⟨none, by simp, passes_remove hc now⟩
  | some pause =>
    dsimp only
    rw [hid]
    split
    · refine ⟨some { c with pause := pause, stage := .queued (now + s.settings.interval.nanos) }, by simp [hid],
        .idle ?_ rfl hholds (by simp [Cycle.holdsPermit])⟩
      refine h.moved hc
        (f := fun c => { c with pause := pause, stage := .queued (now + s.settings.interval.nanos) }) rfl ?_ rfl rfl
      rw [h.waiting_filter hc hqueued]
      simp [Cycle.isQueued, Option.filter, hid]
    · rename_i hfree
      refine ⟨some ({ c with pause := pause }.probeFrom now), by simp [Cycle.probeFrom, hid],
        .takes ?_ ?_ ⟨wakeAt, hstage⟩ rfl⟩
      · refine h.moved_idle hc hqueued (f := fun c => { c with pause := pause }.probeFrom now) ?_ ?_ ?_ ?_ ?_ <;> rfl
      · dsimp only
        omega

lemma passes_skip {giveUpAt : Moment} (hstage : c.stage = .queued giveUpAt) :
    s.Passes now id c (some (c.sleepFrom now)) (s.skip now c).1 := by
  obtain ⟨-, hid⟩ := mem_of_get? hc
  have hholds : c.holdsPermit = false := by simp [Cycle.holdsPermit, hstage]
  unfold Scheduler.skip
  rw [hid]
  refine .idle (h.moved hc (f := (·.sleepFrom now)) rfl ?_ rfl rfl) rfl hholds ?_
  · simp [Cycle.sleepFrom, Cycle.isQueued, Option.filter]
  · simp [Cycle.sleepFrom, Cycle.holdsPermit]

lemma passes_complete {trip : RoundTrip} {startedAt : Moment} (hstage : c.stage = .probing trip startedAt) :
    s.Passes now id c (some (c.finishTrip s.settings now trip).1) (s.complete now trip c).1 := by
  obtain ⟨-, hid⟩ := mem_of_get? hc
  have hholds : c.holdsPermit = true := by simp [Cycle.holdsPermit, hstage]
  have hmoved : s.Moved id (some (c.finishTrip s.settings now trip).1)
      (s.modify c.id fun _ => (c.finishTrip s.settings now trip).1) := by
    rw [hid]
    exact h.moved_idle hc (isQueued_of_holdsPermit hholds)
      (f := fun _ => (c.finishTrip s.settings now trip).1) rfl rfl rfl rfl rfl
  refine .gives hmoved rfl hholds ?_ ?_ <;> simp [Cycle.finishTrip, Cycle.holdsPermit, Cycle.isQueued]

lemma passes_reporting (now : Moment) (hreporting : c.isReporting = true) {f : Cycle → Cycle}
    (hqueued : (f c).isQueued = false) (hholds : (f c).holdsPermit = false) :
    s.Passes now id c (some (f c)) (s.modify id f) := by
  obtain ⟨hwaits, hhas⟩ := Cycle.idle_of_isReporting hreporting
  refine .idle (h.moved_idle hc hwaits hqueued rfl rfl rfl rfl) rfl hhas ?_
  simp [hholds]

lemma passes_goOn (now : Moment) :
    ∃ place, (∀ d ∈ place, d.id = id) ∧ s.Passes now id c place (s.goOn now c).1 := by
  obtain ⟨-, hid⟩ := mem_of_get? hc
  unfold goOn
  cases hstage : c.stage with
  | starting => exact h.passes_begin hc hstage
  | sleeping wakeAt => exact h.passes_wake hc hstage
  | queued giveUpAt => exact ⟨_, by simp [Cycle.sleepFrom, hid], h.passes_skip hc hstage⟩
  | probing trip startedAt => exact ⟨_, by simp [Cycle.finishTrip, hid], h.passes_complete hc hstage⟩
  | reporting status =>
    have hsame := h.passes_reporting hc now (f := fun d => d) (by simp [Cycle.isReporting, hstage,
      CycleStage.unsent]) (by simp [Cycle.isQueued, hstage]) (by simp [Cycle.holdsPermit, hstage])
    refine ⟨some c, by simp [hid], ?_⟩
    simpa [modify] using hsame

end Seated

end Scheduler

end OutboundWatch
