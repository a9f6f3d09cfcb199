import Mathlib.Data.List.Nodup
import OutboundWatch.Proofs.Operations

/-!
# What happens to tracked connections

Whatever the tracker does, the connections that are left come from earlier ones with the same id and tag,
and each is pushed to at most one phase. The numbers that the tracker returns count the phases that change.
-/

namespace OutboundWatch

namespace Connection

variable (c : Connection) (phase : DrainPhase)

@[simp] lemma id_advance : (c.advance phase).id = c.id := by
  unfold advance
  split <;> rfl

@[simp] lemma tag_advance : (c.advance phase).tag = c.tag := by
  unfold advance
  split <;> rfl

lemma phase_advance_ne_iff : (c.advance phase).phase ≠ c.phase ↔ c.isBefore phase = true := by
  unfold advance
  split
  · rename_i hbefore
    refine ⟨fun _ => hbefore, fun _ heq => ?_⟩
    have hless : c.phase.rank < phase.rank := of_decide_eq_true hbefore
    have hrank := congrArg DrainPhase.rank heq
    simp only at hrank
    omega
  · rename_i hnot
    exact ⟨fun hne => absurd rfl hne, fun hbefore => absurd hbefore hnot⟩

end Connection

lemma DrainPhase.eq_of_rank {a b : DrainPhase} (h : a.rank = b.rank) : a = b := by
  rw [← DrainPhase.ofRank_rank a, h, DrainPhase.ofRank_rank]

lemma Connection.advance_forceClosed (c : Connection) :
    c.advance .forceClosed = { c with phase := .forceClosed } := by
  obtain ⟨id, tag, phase, acknowledged, transfer⟩ := c
  cases phase <;> rfl

lemma Connection.isBefore_forceClosed (c : Connection) :
    c.isBefore .forceClosed = decide (c.phase ≠ .forceClosed) := by
  obtain ⟨id, tag, phase, acknowledged, transfer⟩ := c
  cases phase <;> rfl

lemma Connection.phase_advance_forceClosed (c : Connection) :
    (c.advance .forceClosed).phase = .forceClosed := by
  rw [c.advance_forceClosed]

/-- The connection whose handle a move can end. -/
def ConnectionMove.ending? : ConnectionMove → Option Nat
  | .drop id => some id
  | .turn _ id => some id
  | .interrupt id => some id
  | _ => none

namespace DrainTracker

/-- The connections of `t` are those of `s` but for one that is gone, and those of a tag are pushed to the
phase for that tag. -/
structure Carries (s t : DrainTracker) (push : String → DrainPhase) (gone : Option Nat) : Prop where
  nextId : t.nextId = s.nextId
  ids : t.opened.map Connection.id = (s.opened.map Connection.id).filter fun id => decide (gone ≠ some id)
  phases : ∀ d ∈ t.opened, ∃ c ∈ s.opened, c.id = d.id ∧ c.tag = d.tag ∧
    d.phase.rank = max c.phase.rank (push d.tag).rank

variable {s t : DrainTracker}

/-- Nothing that concerns a phase. -/
def unpushed (_ : String) : DrainPhase := .active

lemma rank_unpushed (tag : String) (n : Nat) : n = max n (unpushed tag).rank := (Nat.max_zero n).symm

lemma Carries.of_opened (hopened : t.opened = s.opened) (hnext : t.nextId = s.nextId) :
    s.Carries t unpushed none where
  nextId := hnext
  ids := by simp [hopened]
  phases d hd := ⟨d, hopened ▸ hd, rfl, rfl, rank_unpushed _ _⟩

lemma Carries.of_map {f : Connection → Connection} {push : String → DrainPhase}
    (hopened : t.opened = s.opened.map f)
    (hnext : t.nextId = s.nextId) (hid : ∀ c, (f c).id = c.id) (htag : ∀ c, (f c).tag = c.tag)
    (hphase : ∀ c, (f c).phase.rank = max c.phase.rank (push c.tag).rank) : s.Carries t push none where
  nextId := hnext
  ids := by simp [hopened, hid]
  phases d hd := by
    rw [hopened] at hd
    obtain ⟨c, hc, rfl⟩ := List.mem_map.mp hd
    refine ⟨c, hc, (hid c).symm, (htag c).symm, ?_⟩
    rw [hphase, htag]

lemma carries_advanceAll (s : DrainTracker) (tag : String) (phase : DrainPhase) :
    s.Carries (s.advanceAll tag phase).1 (fun key => if key = tag then phase else .active) none := by
  refine .of_map rfl rfl (fun c => ?_) (fun c => ?_) fun c => ?_
  · split <;> simp
  · split <;> simp
  · split
    · exact Connection.rank_phase_advance c phase
    · exact rank_unpushed c.tag _

lemma filter_advanceAll (s : DrainTracker) (tag : String) (phase : DrainPhase) (key : String) :
    ((s.advanceAll tag phase).1.opened.filter fun c => decide (c.tag = key)) =
      (s.opened.filter fun c => decide (c.tag = key)).map fun c =>
        if key = tag then c.advance phase else c := by
  have htags :
      ((fun c : Connection => decide (c.tag = key)) ∘ fun c => if c.tag = tag then c.advance phase else c) =
      fun c => decide (c.tag = key) := by
    funext c
    rw [Function.comp_apply]
    split
    · rw [Connection.tag_advance]
    · rfl
  rw [advanceAll, List.filter_map, htags]
  refine List.map_congr_left fun c hc => ?_
  rw [of_decide_eq_true (List.mem_filter.mp hc).2]

lemma carries_forceClose (s : DrainTracker) : s.Carries s.forceClose.1 (fun _ => .forceClosed) none :=
  .of_map rfl rfl (fun c => c.id_advance _) (fun c => c.tag_advance _) fun c => c.rank_phase_advance _

/-- No connection is pushed, and the closings are as they were. -/
structure Quiet (s t : DrainTracker) (gone : Option Nat) : Prop extends s.Carries t unpushed gone where
  forceClosing : t.forceClosing = s.forceClosing
  closings : t.closings = s.closings
  closed : t.closed = s.closed

lemma Quiet.refl (s : DrainTracker) : s.Quiet s none := ⟨.of_opened rfl rfl, rfl, rfl, rfl⟩

lemma quiet_modify (s : DrainTracker) (id : Nat) {f : Connection → Connection}
    (hsame : ∀ c, (f c).id = c.id ∧ (f c).tag = c.tag ∧ (f c).phase = c.phase) :
    s.Quiet (s.modify id f) none := by
  refine ⟨.of_map rfl rfl (fun c => ?_) (fun c => ?_) fun c => ?_, rfl, rfl, rfl⟩
  · split
    · exact (hsame c).1
    · rfl
  · split
    · exact (hsame c).2.1
    · rfl
  · split
    · rw [(hsame c).2.2]
      exact rank_unpushed c.tag _
    · exact rank_unpushed c.tag _

/-- A release takes the connection away and leaves everything else as it is. -/
lemma fst_release (s : DrainTracker) (id : Nat) :
    (s.release id).1 = { s with opened := s.opened.filter fun c => c.id != id } := by
  unfold release
  split
  · rfl
  · rename_i hnone
    have hkept : (s.opened.filter fun c => c.id != id) = s.opened := by
      refine List.filter_eq_self.mpr fun c hc => ?_
      simp only [List.any_eq_true, not_exists, not_and] at hnone
      simpa using hnone c hc
    rw [hkept]

lemma quiet_release (s : DrainTracker) (id : Nat) : s.Quiet (s.release id).1 (some id) := by
  rw [fst_release]
  refine ⟨⟨rfl, ?_, ?_⟩, rfl, rfl, rfl⟩
  · rw [List.filter_map]
    congr 1
    refine List.filter_congr fun c _ => ?_
    by_cases hid : c.id = id
    · simp [hid]
    · have hid' : ¬id = c.id := fun heq => hid heq.symm
      simp [hid, hid']
  · intro d hd
    exact ⟨d, List.mem_of_mem_filter hd, rfl, rfl, rank_unpushed _ _⟩

/-- The end of a drain takes the connection away and adds a report. -/
lemma fst_conclude (s : DrainTracker) (c : Connection) (result : Except DrainError DrainSummary) (sink : Sink) :
    (s.conclude c result sink).1 = { s with
      opened := s.opened.filter fun d => d.id != c.id
      reports := s.reports ++ [⟨c.id, result, sink, if result.isOk then c.phase else .forceClosed⟩] } := by
  have hphase : (if result.isOk then c else c.advance .forceClosed).phase =
      if result.isOk then c.phase else .forceClosed := by
    split
    · rfl
    · exact c.phase_advance_forceClosed
  simp only [conclude, fst_release, hphase]

lemma quiet_conclude (s : DrainTracker) (c : Connection) (result : Except DrainError DrainSummary)
    (sink : Sink) :
    s.Quiet (s.conclude c result sink).1 (some c.id) := by
  obtain ⟨⟨hnext, hids, hphases⟩, hforce, hclosings, hclosed⟩ := s.quiet_release c.id
  exact ⟨⟨hnext, hids, hphases⟩, hforce, hclosings, hclosed⟩

lemma id_of_get? {id : Nat} {c : Connection} (hc : s.get? id = some c) : c ∈ s.opened ∧ c.id = id :=
  ⟨List.mem_of_find?_eq_some hc, by simpa using List.find?_some hc⟩

lemma quiet_turnDrain (s : DrainTracker) (now : Moment) (id : Nat) :
    ∃ gone, (gone = none ∨ gone = some id) ∧ s.Quiet (s.turnDrain now id).1 gone := by
  unfold turnDrain
  split
  · exact ⟨none, .inl rfl, .refl s⟩
  · rename_i c hc
    obtain ⟨-, rfl⟩ := id_of_get? hc
    split
    · exact ⟨none, .inl rfl, .refl s⟩
    · split
      · exact ⟨none, .inl rfl, quiet_modify s _ fun d => ⟨rfl, rfl, rfl⟩⟩
      · exact ⟨_, .inr rfl, quiet_conclude s c _ _⟩
      · exact ⟨_, .inr rfl, quiet_conclude s c _ _⟩

lemma quiet_interruptDrain (s : DrainTracker) (id : Nat) :
    ∃ gone, (gone = none ∨ gone = some id) ∧ s.Quiet (s.interruptDrain id).1 gone := by
  unfold interruptDrain
  split
  · split
    · exact ⟨none, .inl rfl, .refl s⟩
    · rename_i c hc
      obtain ⟨-, rfl⟩ := id_of_get? hc
      split
      · exact ⟨none, .inl rfl, .refl s⟩
      · exact ⟨_, .inr rfl, quiet_conclude s c _ _⟩
  · exact ⟨none, .inl rfl, .refl s⟩

/-- What the moves do. -/
theorem effect_of_move? {move : ConnectionMove} {records : List Record}
    (happens : s.move? move = some (t, records)) :
    (∃ id size, move = .acknowledge id size ∧ t = s.acknowledge id size) ∨
      (∃ id source sink, move = .beginDrain id source sink ∧ t = s.beginDrain id source sink) ∨
      (∃ id, move = .drop id ∧ t = (s.release id).1) ∨
      (∃ now id, move = .turn now id ∧ t = (s.turnDrain now id).1) ∨
      (∃ id, move = .interrupt id ∧ t = (s.interruptDrain id).1) ∨
      ∃ now ticket closing, move = .look now ticket ∧ closing ∈ s.closings ∧ closing.ticket = ticket ∧
        t = (s.look now closing).1 := by
  cases move with
  | acknowledge id size =>
    obtain ⟨-, -, heq⟩ := Option.map_eq_some_iff.mp happens
    exact .inl ⟨id, size, rfl, (congrArg Prod.fst heq).symm⟩
  | beginDrain id source sink =>
    obtain ⟨-, -, heq⟩ := Option.map_eq_some_iff.mp happens
    exact .inr (.inl ⟨id, source, sink, rfl, (congrArg Prod.fst heq).symm⟩)
  | drop id =>
    obtain ⟨-, -, heq⟩ := Option.map_eq_some_iff.mp happens
    exact .inr (.inr (.inl ⟨id, rfl, (congrArg Prod.fst heq).symm⟩))
  | turn now id =>
    obtain ⟨-, -, heq⟩ := Option.map_eq_some_iff.mp happens
    exact .inr (.inr (.inr (.inl ⟨now, id, rfl, (congrArg Prod.fst heq).symm⟩)))
  | interrupt id =>
    obtain ⟨-, -, heq⟩ := Option.map_eq_some_iff.mp happens
    exact .inr (.inr (.inr (.inr (.inl ⟨id, rfl, (congrArg Prod.fst heq).symm⟩))))
  | look now ticket =>
    obtain ⟨closing, hclosing, heq⟩ := Option.map_eq_some_iff.mp happens
    exact .inr (.inr (.inr (.inr (.inr ⟨now, ticket, closing, rfl, List.mem_of_find?_eq_some hclosing,
      by simpa using List.find?_some hclosing, (congrArg Prod.fst heq).symm⟩))))

/-- What a move does to connections: a closing that ends pushes all of them, and other moves push none. -/
theorem move?_cases {move : ConnectionMove} {records : List Record}
    (happens : s.move? move = some (t, records)) :
    (∃ gone, (gone = none ∨ gone = move.ending?) ∧ s.Quiet t gone) ∨
      ∃ now ticket closing, move = .look now ticket ∧ closing ∈ s.closings ∧ closing.ticket = ticket ∧
        t = (s.look now closing).1 := by
  rcases effect_of_move? happens with ⟨id, size, -, rfl⟩ | ⟨id, source, sink, -, rfl⟩ | ⟨id, rfl, rfl⟩ |
    ⟨now, id, rfl, rfl⟩ | ⟨id, rfl, rfl⟩ | hlook
  · exact .inl ⟨none, .inl rfl, quiet_modify s id fun c => ⟨rfl, rfl, rfl⟩⟩
  · exact .inl ⟨none, .inl rfl, quiet_modify s id fun c => ⟨rfl, rfl, rfl⟩⟩
  · exact .inl ⟨some id, .inr rfl, quiet_release s id⟩
  · exact .inl (quiet_turnDrain s now id)
  · exact .inl (quiet_interruptDrain s id)
  · exact .inr hlook

/-- A closing that looks waits on, or it force-closes what is open and ends with the number of connections
that this has moved. -/
theorem look_cases (s : DrainTracker) (now : Moment) (closing : Closing) :
    (s.Carries (s.look now closing).1 unpushed none ∧
        (s.look now closing).1.forceClosing = s.forceClosing ∧ (s.look now closing).1.closed = s.closed ∧
        (s.look now closing).1.closings = (s.closings.filter fun c => c.ticket != closing.ticket) ++
          [{ closing with nextLook := now + lookEvery }]) ∨
      (s.Carries (s.look now closing).1 (fun _ => .forceClosed) none ∧
        (s.look now closing).1.opened = s.forceClose.1.opened ∧ (s.look now closing).1.forceClosing = true ∧
        (s.look now closing).1.closed = s.closed ++ [(closing.ticket, s.forceClose.2)] ∧
        (s.look now closing).1.closings = s.closings.filter fun c => c.ticket != closing.ticket) := by
  unfold look
  dsimp only
  by_cases hends : (s.opened.isEmpty || decide (closing.deadline ≤ now)) = true
  · refine .inr ?_
    rw [if_pos hends]
    obtain ⟨hnext, hids, hphases⟩ := carries_forceClose s
    exact ⟨⟨hnext, hids, hphases⟩, rfl, rfl, rfl, rfl⟩
  · refine .inl ?_
    rw [if_neg hends]
    exact ⟨.of_opened rfl rfl, rfl, rfl, rfl⟩

/-- What no turn of a drain changes. -/
lemma fixed_turnDrain (s : DrainTracker) (now : Moment) (id : Nat) :
    (s.turnDrain now id).1.grace = s.grace ∧ (s.turnDrain now id).1.nextTicket = s.nextTicket := by
  unfold turnDrain
  split
  · exact ⟨rfl, rfl⟩
  · split
    · exact ⟨rfl, rfl⟩
    · split
      · exact ⟨rfl, rfl⟩
      · simp only [fst_conclude, and_self]
      · simp only [fst_conclude, and_self]

lemma fixed_interruptDrain (s : DrainTracker) (id : Nat) :
    (s.interruptDrain id).1.grace = s.grace ∧ (s.interruptDrain id).1.nextTicket = s.nextTicket := by
  unfold interruptDrain
  split
  · split
    · exact ⟨rfl, rfl⟩
    · split
      · exact ⟨rfl, rfl⟩
      · simp only [fst_conclude, and_self]
  · exact ⟨rfl, rfl⟩

lemma fixed_look (s : DrainTracker) (now : Moment) (closing : Closing) :
    (s.look now closing).1.grace = s.grace ∧ (s.look now closing).1.nextTicket = s.nextTicket := by
  unfold look
  dsimp only
  split <;> exact ⟨rfl, rfl⟩

/-- The grace stays, and moves hand out no tickets. -/
lemma fixed_move? {move : ConnectionMove} {records : List Record} (happens : s.move? move = some (t, records)) :
    t.grace = s.grace ∧ t.nextTicket = s.nextTicket := by
  rcases effect_of_move? happens with ⟨id, size, -, rfl⟩ | ⟨id, source, sink, -, rfl⟩ | ⟨id, -, rfl⟩ |
    ⟨now, id, -, rfl⟩ | ⟨id, -, rfl⟩ | ⟨now, ticket, closing, -, -, -, rfl⟩
  · exact ⟨rfl, rfl⟩
  · exact ⟨rfl, rfl⟩
  · simp only [fst_release, and_self]
  · exact s.fixed_turnDrain now id
  · exact s.fixed_interruptDrain id
  · exact s.fixed_look now closing

/-- How many connections of `s` are in another phase in `t`. -/
def phaseChanges (s t : DrainTracker) : Nat :=
  s.opened.countP fun c => (t.get? c.id).any fun d => decide (d.phase ≠ c.phase)

/-- What keeps the ids can be done before or after a connection is looked up. -/
lemma get?_map {f : Connection → Connection} (hopened : t.opened = s.opened.map f) (hid : ∀ c, (f c).id = c.id)
    (id : Nat) : t.get? id = (s.get? id).map f := by
  have hsame : ((fun c : Connection => c.id == id) ∘ f) = fun c => c.id == id := by
    funext c
    rw [Function.comp_apply, hid]
  rw [get?, get?, hopened, List.find?_map, hsame]

lemma get?_modify (s : DrainTracker) (other : Nat) {f : Connection → Connection} (hid : ∀ c, (f c).id = c.id)
    (id : Nat) : (s.modify other f).get? id = if id = other then (s.get? id).map f else s.get? id := by
  have hmapped : ∀ c : Connection, (if c.id = other then f c else c).id = c.id := fun c => by
    split
    · exact hid c
    · rfl
  rw [get?_map (s := s) rfl hmapped]
  cases hc : s.get? id with
  | none => simp
  | some c =>
    obtain ⟨-, rfl⟩ := id_of_get? hc
    by_cases hother : c.id = other <;> simp [hother]

lemma get?_modify_of_ne {id other : Nat} (hother : other ≠ id) {f : Connection → Connection}
    (hid : ∀ c, (f c).id = c.id) : (s.modify other f).get? id = s.get? id :=
  (s.get?_modify other hid id).trans (if_neg hother.symm)

lemma get?_of_filter {other : Nat} (hopened : t.opened = s.opened.filter fun c => c.id != other) {id : Nat}
    (hother : other ≠ id) : t.get? id = s.get? id := by
  rw [get?, hopened, List.find?_filter, get?]
  congr 1
  funext c
  by_cases hc : c.id = id
  · simp [hc, hother.symm]
  · simp [hc]

lemma get?_of_map (hids : (s.opened.map Connection.id).Nodup) {f : Connection → Connection}
    (hopened : t.opened = s.opened.map f) (hid : ∀ c, (f c).id = c.id) {c : Connection} (hc : c ∈ s.opened) :
    t.get? c.id = some (f c) := by
  cases hget : t.get? c.id with
  | none =>
    have hnot := List.find?_eq_none.mp hget (f c) (hopened ▸ List.mem_map_of_mem hc)
    simp [hid] at hnot
  | some d =>
    obtain ⟨hd, hsame⟩ := id_of_get? hget
    rw [hopened] at hd
    obtain ⟨e, he, rfl⟩ := List.mem_map.mp hd
    rw [List.inj_on_of_nodup_map hids he hc ((hid e).symm.trans hsame)]

lemma get?_eq (hids : (s.opened.map Connection.id).Nodup) {c : Connection} (hc : c ∈ s.opened) :
    s.get? c.id = some c :=
  get?_of_map hids (List.map_id _).symm (fun _ => rfl) hc

lemma phaseChanges_of_map (hids : (s.opened.map Connection.id).Nodup) {f : Connection → Connection}
    (hopened : t.opened = s.opened.map f) (hid : ∀ c, (f c).id = c.id) {moves : Connection → Bool}
    (hmoves : ∀ c, (f c).phase ≠ c.phase ↔ moves c = true) : s.phaseChanges t = s.opened.countP moves := by
  refine List.countP_congr fun c hc => ?_
  rw [get?_of_map hids hopened hid hc]
  simpa using hmoves c

/-- The number that an advance of a tag returns is the number of phases that it changes. -/
theorem advanceAll_counts (hids : (s.opened.map Connection.id).Nodup) (tag : String) (phase : DrainPhase) :
    (s.advanceAll tag phase).2 = s.phaseChanges (s.advanceAll tag phase).1 := by
  refine (phaseChanges_of_map hids rfl (fun c => ?_) fun c => ?_).symm
  · split <;> simp
  · split
    · rename_i htag
      simpa [htag] using c.phase_advance_ne_iff phase
    · rename_i htag
      simp [htag]

theorem forceClose_counts (hids : (s.opened.map Connection.id).Nodup) :
    s.forceClose.2 = s.phaseChanges s.forceClose.1 :=
  (phaseChanges_of_map hids rfl (fun c => c.id_advance _) fun c => c.phase_advance_ne_iff _).symm

end DrainTracker

end OutboundWatch
