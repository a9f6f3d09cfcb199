import OutboundWatch.Proofs.Completions
import OutboundWatch.Proofs.Quiescence

/-!
# Trackers on a clock

What happens to a tracker between two moments is up to whoever uses it: connections are opened, drained and
dropped, and closings begin and look. The clock goes on while everybody sleeps. A closing whose sleep is over
looks first, so that a sleep lasts exactly as long as it was meant to, and a drain that was told to end ends
first.
-/

namespace OutboundWatch

namespace DrainTracker

def closing? (t : DrainTracker) (ticket : Nat) : Option Closing := t.closings.find? fun c => c.ticket == ticket

/-- The drain of a connection, if one is under way. -/
def transfer? (t : DrainTracker) (id : Nat) : Option Transfer := (t.get? id).bind Connection.transfer

/-- Whether an event can happen at a moment: who needs the time reads it off the clock, and a closing looks when
its sleep is over. -/
def OnTime (t : DrainTracker) (now : Moment) : DrainEvent → Prop
  | .beginClosing moment => moment = now
  | .move (.turn moment _) => moment = now
  | .move (.look moment ticket) => moment = now ∧ ∀ c, t.closing? ticket = some c → c.nextLook ≤ now
  | _ => True

/-- Whether no drain is under way that was told to end. -/
def Relieved (t : DrainTracker) : Prop := t.forceClosing = true → ∀ id, t.transfer? id = none

/-- Whether everybody sleeps up to a moment. -/
structure SleepsUntil (t : DrainTracker) (moment : Moment) : Prop where
  closings : ∀ ticket c, t.closing? ticket = some c → moment ≤ c.nextLook
  drains : t.Relieved

end DrainTracker

/-- An event that happens to a tracker at a moment, with the states around it. -/
structure DrainStep where
  moment : Moment
  before : DrainTracker
  event : DrainEvent
  after : DrainTracker

/-- `Timed start s steps now t`: the steps lead from `s` at the moment `start` to `t` at the moment `now`. -/
inductive Timed (start : Moment) (s : DrainTracker) : List DrainStep → Moment → DrainTracker → Prop where
  | refl : Timed start s [] start s
  | step {steps : List DrainStep} {now : Moment} {t u : DrainTracker} {event : DrainEvent}
    (timed : Timed start s steps now t) (hontime : t.OnTime now event) (happens : t.perform? event = some u) :
    Timed start s (steps ++ [⟨now, t, event, u⟩]) now u
  | pass {steps : List DrainStep} {now later : Moment} {t : DrainTracker}
    (timed : Timed start s steps now t) (hlater : now ≤ later) (hsleeps : t.SleepsUntil later) :
    Timed start s steps later t

namespace Timed

variable {start middle now : Moment} {s t u : DrainTracker} {steps more : List DrainStep}

lemma trans (first : Timed start s steps middle t) (second : Timed middle t more now u) :
    Timed start s (steps ++ more) now u := by
  induction second with
  | refl => simpa using first
  | step _ hontime happens ih =>
    rw [← List.append_assoc]
    exact ih.step hontime happens
  | pass _ hlater hsleeps ih => exact ih.pass hlater hsleeps

/-- What comes after a step starts at its moment, with the state that it has left. -/
lemma around {x : DrainStep} (timed : Timed start s (steps ++ x :: more) now t) :
    Timed start s steps x.moment x.before ∧ x.before.OnTime x.moment x.event ∧
      x.before.perform? x.event = some x.after ∧ Timed x.moment x.after more now t := by
  generalize hall : steps ++ x :: more = all at timed
  induction timed generalizing more with
  | refl => simp at hall
  | step timed hontime happens ih =>
    rcases List.eq_nil_or_concat more with rfl | ⟨init, last, rfl⟩
    · obtain ⟨rfl, hlast⟩ := List.append_inj' hall rfl
      obtain rfl := List.singleton_inj.mp hlast
      exact ⟨timed, hontime, happens, .refl⟩
    · rw [List.concat_eq_append, ← List.cons_append, ← List.append_assoc] at hall
      obtain ⟨hinit, hlast⟩ := List.append_inj' hall rfl
      obtain rfl := List.singleton_inj.mp hlast
      obtain ⟨hbefore, hx, hafter, hrest⟩ := ih hinit
      rw [List.concat_eq_append]
      exact ⟨hbefore, hx, hafter, hrest.step hontime happens⟩
  | pass _ hlater hsleeps ih =>
    obtain ⟨hbefore, hx, hafter, hrest⟩ := ih hall
    exact ⟨hbefore, hx, hafter, hrest.pass hlater hsleeps⟩

end Timed

namespace DrainTracker

variable {s t : DrainTracker} {event : DrainEvent} {ticket : Nat} {now : Moment}

lemma perform?_look (closing : Closing) (hwaiting : s.closing? ticket = some closing) :
    s.perform? (.move (.look now ticket)) = some (s.look now closing).1 := by
  unfold closing? at hwaiting
  simp [perform?, move?, hwaiting]

/-- The drain of a connection is told to end, and its source has nothing to give at the moment. -/
structure Pending (t : DrainTracker) (id : Nat) (now : Moment) : Prop where
  signalled : t.forceClosing = true
  waits : ∃ transfer waiting, t.transfer? id = some transfer ∧ transfer.turn now = .waits waiting

/-- Whether what has happened since is the end of a drain by the force-close signal. -/
def ReportsForced (s t : DrainTracker) (id : Nat) : Prop :=
  ∃ report, t.reports = s.reports ++ [report] ∧ report.id = id ∧ report.result = .error .forceClosed

lemma transfer?_of_get? {id : Nat} (hget : t.get? id = s.get? id) : t.transfer? id = s.transfer? id := by
  rw [transfer?, hget, transfer?]

lemma transfer?_map {f : Connection → Connection} (hopened : t.opened = s.opened.map f)
    (hsame : ∀ c, (f c).id = c.id ∧ (f c).transfer = c.transfer) (id : Nat) :
    t.transfer? id = s.transfer? id := by
  rw [transfer?, get?_map hopened (fun c => (hsame c).1), transfer?, Option.bind_map]
  congr 1
  funext c
  exact (hsame c).2

lemma get?_turnDrain_other {id other : Nat} (hother : other ≠ id) :
    (s.turnDrain now other).1.get? id = s.get? id := by
  unfold turnDrain
  split
  · rfl
  · rename_i c hc
    obtain ⟨-, rfl⟩ := id_of_get? hc
    split
    · rfl
    · split
      · exact get?_modify_of_ne hother fun _ => rfl
      · exact get?_of_filter (by rw [fst_conclude]) hother
      · exact get?_of_filter (by rw [fst_conclude]) hother

lemma get?_interruptDrain_other {id other : Nat} (hother : other ≠ id) :
    (s.interruptDrain other).1.get? id = s.get? id := by
  unfold interruptDrain
  split
  · split
    · rfl
    · rename_i c hc
      obtain ⟨-, rfl⟩ := id_of_get? hc
      split
      · rfl
      · exact get?_of_filter (by rw [fst_conclude]) hother
  · rfl

lemma transfer?_look (s : DrainTracker) (now : Moment) (closing : Closing) (id : Nat) :
    (s.look now closing).1.transfer? id = s.transfer? id := by
  unfold look
  dsimp only
  split
  · refine transfer?_map (f := fun c => c.advance .forceClosed) rfl (fun c => ?_) id
    rw [Connection.advance_forceClosed]
    exact ⟨rfl, rfl⟩
  · rfl

lemma transfer?_advanceAll (s : DrainTracker) (tag : String) (phase : DrainPhase) (id : Nat) :
    (s.advanceAll tag phase).1.transfer? id = s.transfer? id := by
  refine transfer?_map (f := fun c => if c.tag = tag then c.advance phase else c) rfl (fun c => ?_) id
  unfold Connection.advance
  split
  · split <;> exact ⟨rfl, rfl⟩
  · exact ⟨rfl, rfl⟩

/-- A transfer that waits after a turn waits on at the same moment. -/
lemma turn_of_turn {transfer waiting : Transfer} (h : transfer.turn now = .waits waiting) :
    waiting.turn now = .waits waiting := by
  rw [Transfer.turn, Transfer.isDue_of_turn h]
  rfl

lemma Pending.congr {id : Nat} (h : s.Pending id now) (hsignalled : t.forceClosing = true)
    (hsame : t.transfer? id = s.transfer? id) : t.Pending id now :=
  ⟨hsignalled, by rw [hsame]; exact h.waits⟩

/-- What a move leaves of a pending drain: its connection is dropped, or the signal ends it, or it stays
pending. -/
lemma Pending.move? {id : Nat} (h : s.Pending id now) {move : ConnectionMove}
    (hontime : s.OnTime now (.move move)) {records : List Record}
    (happens : s.move? move = some (t, records)) (hsignalled : t.forceClosing = true) :
    move = .drop id ∨ s.ReportsForced t id ∨ t.Pending id now := by
  obtain ⟨transfer, waiting, htransfer, hwaits⟩ := h.waits
  obtain ⟨c, hc, hdraining⟩ := Option.bind_eq_some_iff.mp htransfer
  rcases effect_of_move? happens with ⟨other, size, -, rfl⟩ | ⟨other, source, sink, rfl, rfl⟩ | ⟨other, rfl, rfl⟩ |
    ⟨moment, other, rfl, rfl⟩ | ⟨other, rfl, rfl⟩ | ⟨moment, other, closing, -, -, -, rfl⟩
  · refine .inr (.inr (h.congr hsignalled
      (transfer?_map (f := fun c => if c.id = other then c.acknowledge size else c) rfl (fun c => ?_) id)))
    split <;> exact ⟨rfl, rfl⟩
  · have hfree : other ≠ id := by
      rintro rfl
      obtain ⟨held, hheld, -⟩ := Option.map_eq_some_iff.mp happens
      obtain ⟨hfound, hfree⟩ := Option.filter_eq_some_iff.mp hheld
      cases hfound.symm.trans hc
      simp [Connection.isHeld, hdraining] at hfree
    exact .inr (.inr (h.congr hsignalled (transfer?_of_get? (get?_modify_of_ne hfree fun _ => rfl))))
  · by_cases hid : other = id
    · exact .inl (by rw [hid])
    · exact .inr (.inr (h.congr hsignalled (transfer?_of_get? (get?_of_filter (by rw [fst_release]) hid))))
  · obtain rfl : moment = now := hontime
    by_cases hid : other = id
    · subst hid
      rw [turnDrain_eq hc hdraining, hwaits] at hsignalled ⊢
      refine .inr (.inr ⟨hsignalled, waiting, waiting, ?_, turn_of_turn hwaits⟩)
      rw [transfer?, get?_modify s other (f := fun c => { c with transfer := some waiting }) (fun _ => rfl),
        if_pos rfl, hc]
      rfl
    · exact .inr (.inr (h.congr hsignalled (transfer?_of_get? (get?_turnDrain_other hid))))
  · by_cases hid : other = id
    · subst hid
      rw [interruptDrain_eq h.signalled hc hdraining]
      exact .inr (.inl ⟨_, s.reports_conclude c _ _, (id_of_get? hc).2, rfl⟩)
    · exact .inr (.inr (h.congr hsignalled (transfer?_of_get? (get?_interruptDrain_other hid))))
  · exact .inr (.inr (h.congr hsignalled (s.transfer?_look moment closing id)))

/-- At one moment, a pending drain stays pending until its connection is dropped or the signal ends it. -/
lemma Pending.perform? {id : Nat} (h : s.Pending id now) (hontime : s.OnTime now event)
    (happens : s.perform? event = some t) :
    event = .move (.drop id) ∨ s.ReportsForced t id ∨ t.Pending id now := by
  have hsignalled := forceClosing_perform? h.signalled happens
  have hcalled : t.transfer? id = s.transfer? id →
      event = .move (.drop id) ∨ s.ReportsForced t id ∨ t.Pending id now := fun hsame =>
    .inr (.inr (h.congr hsignalled hsame))
  rcases perform?_cases happens with ⟨tag, rfl⟩ | ⟨tag, phase, -, rfl⟩ | ⟨begun, kept, -, rfl⟩ |
    ⟨move, records, rfl, hmove⟩
  · obtain ⟨transfer, -, htransfer, -⟩ := h.waits
    obtain ⟨c, hc, -⟩ := Option.bind_eq_some_iff.mp htransfer
    have hfound : s.opened.find? (fun c => c.id == id) = some c := hc
    refine hcalled (transfer?_of_get? ?_)
    simp [get?, openConnection, List.find?_append, hfound]
  · exact hcalled (s.transfer?_advanceAll tag phase id)
  · exact hcalled rfl
  · exact (h.move? hontime hmove hsignalled).imp_left fun hdrop => by rw [hdrop]

end DrainTracker

open DrainTracker

end OutboundWatch
