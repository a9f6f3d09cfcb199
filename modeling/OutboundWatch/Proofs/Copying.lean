import Mathlib.Data.List.Basic
import OutboundWatch.Drain.Transfer

/-!
# What a transfer has forwarded

A transfer that has neither ended nor failed has given everything that its source has yielded so far to the sink,
in order. So a complete one leaves all the bytes of the source in the sink, and a failed one those before the
failure. A source that hangs is one that stays pending; a sink that keeps the transfer waiting is told by pauses of
the source, and one that fails when it is flushed by a failure at that place.
-/

namespace OutboundWatch

namespace SourcePart

/-- The bytes that a part of a source yields. -/
def bytes : SourcePart → List UInt8
  | data bytes => bytes
  | pause _ => []
  | failure _ => []
  | hang => []

/-- Whether a source goes on after a part. -/
def passes : SourcePart → Bool
  | data _ => true
  | pause _ => true
  | failure _ => false
  | hang => false

end SourcePart

/-- All the bytes of a source, in order. -/
def bytesIn (source : List SourcePart) : List UInt8 := source.flatMap SourcePart.bytes

namespace Sink

/-- Whether the sink can take `n` more bytes. -/
def HasRoom (s : Sink) (n : Nat) : Prop :=
  n = 0 ∨ (s.perWrite ≠ some 0 ∧ ∀ budget, s.budget = some budget → n ≤ budget)

/-- The sink takes `bytes`, in whatever writes, and is `after` then. -/
structure Takes (s : Sink) (bytes : List UInt8) (after : Sink) : Prop where
  room : s.HasRoom bytes.length
  received : after.received = s.received ++ if s.keeps then bytes else []
  budget : after.budget = s.budget.map (· - bytes.length)
  perWrite : after.perWrite = s.perWrite
  refusal : after.refusal = s.refusal
  keeps : after.keeps = s.keeps

variable {s after last : Sink} {bytes more : List UInt8}

lemma Takes.refl (s : Sink) : s.Takes [] s where
  room := .inl rfl
  received := by simp
  budget := by simp
  perWrite := rfl
  refusal := rfl
  keeps := rfl

/-- What is left of the room when some bytes were taken. -/
lemma Takes.hasRoom_add (h : s.Takes bytes after) (n : Nat) :
    s.HasRoom (bytes.length + n) ↔ after.HasRoom n := by
  have hroom := h.room
  unfold HasRoom at hroom ⊢
  rw [h.perWrite, h.budget]
  by_cases hwrite : s.perWrite = some 0
  · simp only [hwrite, ne_eq, not_true_eq_false, false_and, or_false] at hroom ⊢
    omega
  · cases hbudget : s.budget with
    | none => simp [hwrite]
    | some budget =>
      simp only [hwrite, hbudget, ne_eq, not_false_eq_true, true_and, Option.map_some, Option.some.injEq,
        forall_eq'] at hroom ⊢
      omega

lemma Takes.trans (first : s.Takes bytes after) (second : after.Takes more last) :
    s.Takes (bytes ++ more) last where
  room := by
    rw [List.length_append]
    exact (first.hasRoom_add more.length).mpr second.room
  received := by
    rw [second.received, first.received, first.keeps, List.append_assoc]
    cases s.keeps <;> rfl
  budget := by
    rw [second.budget, first.budget, Option.map_map, List.length_append]
    congr 1
    funext budget
    exact Nat.sub_sub budget _ _
  perWrite := second.perWrite.trans first.perWrite
  refusal := second.refusal.trans first.refusal
  keeps := second.keeps.trans first.keeps

/-- One write. -/
lemma takes_take (hroom : s.HasRoom bytes.length) : s.Takes bytes (s.take bytes) where
  room := hroom
  received := by
    unfold received take
    cases s.keeps <;> simp
  budget := rfl
  perWrite := rfl
  refusal := rfl
  keeps := rfl

/-- A sink takes nothing of the offered bytes only if it has no room for them. -/
lemma not_hasRoom_of_room {n : Nat} (hn : n ≠ 0) (hroom : s.room n = 0) : ¬s.HasRoom n := by
  rintro (hzero | ⟨hwrite, hbudget⟩)
  · exact hn hzero
  · unfold room at hroom
    cases hp : s.perWrite with
    | none =>
      cases hb : s.budget with
      | none => simp [hp, hb, hn] at hroom
      | some budget =>
        have hle := hbudget budget hb
        simp only [hp, hb, Option.getD_none, Option.getD_some] at hroom
        omega
    | some limit =>
      have hlimit : limit ≠ 0 := fun h => hwrite (by rw [hp, h])
      cases hb : s.budget with
      | none =>
        simp only [hp, hb, Option.getD_none, Option.getD_some] at hroom
        omega
      | some budget =>
        have hle := hbudget budget hb
        simp only [hp, hb, Option.getD_some] at hroom
        omega

lemma hasRoom_room {n : Nat} : s.HasRoom (s.room n) := by
  unfold HasRoom room
  cases s.perWrite with
  | none =>
    refine .inr ⟨by simp, fun budget hb => ?_⟩
    rw [hb, Option.getD_some]
    exact Nat.min_le_right _ _
  | some limit =>
    by_cases hlimit : limit = 0
    · exact .inl (by simp [hlimit])
    · refine .inr ⟨by simpa using hlimit, fun budget hb => ?_⟩
      rw [hb, Option.getD_some]
      exact Nat.min_le_right _ _

lemma room_le (s : Sink) (n : Nat) : s.room n ≤ n :=
  Nat.le_trans (Nat.min_le_left _ _) (Nat.min_le_left _ _)

/-- All of the bytes are taken if there is room for them, and else the sink refuses after a part of them. -/
theorem writeAll_cases (s : Sink) (bytes : List UInt8) :
    (s.Takes bytes (s.writeAll bytes).1 ∧ (s.writeAll bytes).2 = none) ∨
      (¬s.HasRoom bytes.length ∧ (s.writeAll bytes).2 = some (s.refusal.getD IoError.writeZero) ∧
        ∃ taken, taken <+: bytes ∧ s.Takes taken (s.writeAll bytes).1) := by
  fun_induction writeAll s bytes with
  | case1 s bytes hempty =>
    obtain rfl := List.isEmpty_iff.mp hempty
    exact .inl ⟨.refl s, rfl⟩
  | case2 s bytes hsome n hfull =>
    have hlength : bytes.length ≠ 0 := by simpa using hsome
    exact .inr ⟨not_hasRoom_of_room hlength hfull, rfl, [], List.nil_prefix, .refl s⟩
  | case3 s bytes hsome n hpart ih =>
    -- The sink takes `n` bytes at once, and the rest is written to the sink that this leaves.
    have hlength : (bytes.take n).length = n := by simp [n, s.room_le]
    have hfirst : s.Takes (bytes.take n) (s.take (bytes.take n)) :=
      takes_take (by rw [hlength]; exact hasRoom_room)
    have hsplit : (bytes.take n).length + (bytes.drop n).length = bytes.length := by
      rw [← List.length_append, List.take_append_drop]
    rcases ih with ⟨hrest, hnone⟩ | ⟨hfull, hrefused, taken, hprefix, hrest⟩
    · refine .inl ⟨?_, hnone⟩
      have hall := hfirst.trans hrest
      rwa [List.take_append_drop] at hall
    · refine .inr ⟨?_, hrefused, bytes.take n ++ taken, ?_, hfirst.trans hrest⟩
      · rwa [← hsplit, hfirst.hasRoom_add]
      · obtain ⟨left, hleft⟩ := hprefix
        exact ⟨left, by rw [List.append_assoc, hleft, List.take_append_drop]⟩

end Sink

/-- How a copy of `source` to `sink` ends: with the number of bytes or the first error, and with a sink. -/
inductive CopyEnds (source : List SourcePart) (sink : Sink) : Except IoError Nat → Sink → Prop where
  | complete {last : Sink} (passed : ∀ part ∈ source, part.passes = true) (taken : sink.Takes (bytesIn source) last) :
    CopyEnds source sink (.ok (bytesIn source).length) last
  /-- The source fails when all before it was taken. -/
  | readFails {past rest : List SourcePart} {error : IoError} {last : Sink}
    (split : source = past ++ .failure error :: rest) (passed : ∀ part ∈ past, part.passes = true)
    (taken : sink.Takes (bytesIn past) last) : CopyEnds source sink (.error error) last
  /-- The sink has no room for some piece and takes a part of it at most. -/
  | writeFails {past rest : List SourcePart} {bytes part : List UInt8} {before last : Sink}
    (split : source = past ++ .data bytes :: rest) (passed : ∀ part ∈ past, part.passes = true)
    (taken : sink.Takes (bytesIn past) before) (full : ¬before.HasRoom bytes.length)
    (begun : part <+: bytes) (last_taken : before.Takes part last) :
    CopyEnds source sink (.error (sink.refusal.getD IoError.writeZero)) last

namespace Transfer

/-- Everything before the rest of the source was forwarded. -/
def Forwarded (source : List SourcePart) (sink : Sink) (t : Transfer) : Prop :=
  ∃ past, source = past ++ t.source ∧ (∀ part ∈ past, part.passes = true) ∧ sink.Takes (bytesIn past) t.sink ∧
    t.copied = (bytesIn past).length

variable {source : List SourcePart} {sink : Sink}

lemma forwarded_start (source : List SourcePart) (sink : Sink) : (start source sink).Forwarded source sink :=
  ⟨[], rfl, List.forall_mem_nil _, .refl sink, rfl⟩

/-- What a turn leads to if everything before was forwarded. -/
def Goes (source : List SourcePart) (sink : Sink) : Turn → Prop
  | .waits waiting => waiting.Forwarded source sink
  | .ends last copied => CopyEnds source sink (.ok copied) last
  | .fails last error => CopyEnds source sink (.error error) last

/-- A run goes on from where everything before was forwarded. -/
theorem goes_run (now : Moment) {past rest : List SourcePart} (hsource : source = past ++ rest)
    (hpassed : ∀ part ∈ past, part.passes = true) {current : Sink} (htaken : sink.Takes (bytesIn past) current) :
    Goes source sink (run now current (bytesIn past).length rest) := by
  -- With every part that passes, `past` grows and `rest` gets shorter.
  induction rest generalizing past current with
  | nil =>
    rw [List.append_nil] at hsource
    subst hsource
    exact .complete hpassed htaken
  | cons part rest ih =>
    have hnext : source = past ++ [part] ++ rest := by rw [hsource, List.append_assoc, List.singleton_append]
    have hbytes : bytesIn (past ++ [part]) = bytesIn past ++ part.bytes := by simp [bytesIn]
    have hpass : part.passes = true → ∀ earlier ∈ past ++ [part], earlier.passes = true := by
      intro hpart earlier hearlier
      rcases List.mem_append.mp hearlier with hold | hlast
      · exact hpassed earlier hold
      · rwa [List.mem_singleton.mp hlast]
    cases part with
    | data bytes =>
      have hwritten := current.writeAll_cases bytes
      rw [run]
      generalize current.writeAll bytes = written at hwritten
      obtain ⟨last, error⟩ := written
      rcases hwritten with ⟨hall, rfl⟩ | ⟨hfull, rfl, begun, hprefix, hpart⟩
      · have hgoes := ih hnext (hpass rfl) (by rw [hbytes]; exact htaken.trans hall)
        rwa [hbytes, List.length_append] at hgoes
      · rw [htaken.refusal]
        exact .writeFails hsource hpassed htaken hfull hprefix hpart
    | pause length =>
      have hkept : bytesIn (past ++ [.pause length]) = bytesIn past := by
        rw [hbytes, SourcePart.bytes, List.append_nil]
      rw [run]
      split
      · have hgoes := ih hnext (hpass rfl) (by rwa [hkept])
        rwa [hkept] at hgoes
      · exact ⟨past ++ [.pause length], hnext, hpass rfl, by rwa [hkept], by rw [hkept]⟩
    | failure error => exact .readFails hsource hpassed htaken
    | hang => exact ⟨past, hsource, hpassed, htaken, rfl⟩

/-- A turn goes on from where everything before was forwarded. -/
theorem goes_turn {t : Transfer} (h : t.Forwarded source sink) (now : Moment) : Goes source sink (t.turn now) := by
  obtain ⟨past, hsource, hpassed, htaken, hcopied⟩ := h
  unfold turn
  split
  · rw [hcopied]
    exact goes_run now hsource hpassed htaken
  · exact ⟨past, hsource, hpassed, htaken, hcopied⟩

end Transfer

end OutboundWatch
