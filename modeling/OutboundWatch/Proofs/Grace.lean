import OutboundWatch.Proofs.Timing

/-!
# The grace of a closing

A closing looks at the moment of its call and then every 50 milliseconds. The first look that finds nothing
open, or that comes when the grace is over, ends the closing. This look alone touches connections.
-/

namespace OutboundWatch

/-- Whether an event is a look of the closing with a ticket. -/
def DrainEvent.isLookOf (ticket : Nat) : DrainEvent → Bool
  | .move (.look _ other) => other == ticket
  | _ => false

namespace DrainTracker

variable {s t : DrainTracker} {event : DrainEvent} {ticket : Nat} {now : Moment}

lemma snd_takeClosed (t : DrainTracker) (ticket : Nat) : (t.takeClosed ticket).2 = t.closed.lookup ticket := by
  unfold takeClosed
  split
  · rename_i hnone
    exact hnone.symm
  · rename_i forced hforced
    exact hforced.symm

lemma find?_filter_other {closings : List Closing} {other : Nat} (hother : other ≠ ticket) :
    (closings.filter fun c => c.ticket != other).find? (fun c => c.ticket == ticket) =
      closings.find? fun c => c.ticket == ticket := by
  rw [List.find?_filter]
  congr 1
  funext c
  by_cases hc : c.ticket = ticket
  · simp [hc, hother.symm]
  · simp [hc]

/-- What is not a look of a closing leaves it alone. -/
lemma closing?_perform? (hknown : ticket < s.nextTicket) (hspares : event.isLookOf ticket = false)
    (happens : s.perform? event = some t) :
    ticket < t.nextTicket ∧ t.closing? ticket = s.closing? ticket ∧
      (s.closed.lookup ticket = none → t.closed.lookup ticket = none) := by
  rcases perform?_cases happens with ⟨tag, rfl⟩ | ⟨tag, phase, -, rfl⟩ | ⟨begun, kept, hbegun, rfl⟩ |
    ⟨move, records, rfl, hmove⟩
  · exact ⟨hknown, rfl, id⟩
  · exact ⟨hknown, rfl, id⟩
  · have hnew : begun.find? (fun c => c.ticket == ticket) = none :=
      List.find?_eq_none.mpr fun c hc => by simp [hbegun c hc, Nat.ne_of_gt hknown]
    refine ⟨Nat.lt_add_right _ hknown, ?_, fun hnone => ?_⟩
    · simp [closing?, List.find?_append, hnew]
    · exact List.lookup_eq_none_iff.mpr fun entry hentry =>
        List.lookup_eq_none_iff.mp hnone entry (List.mem_of_mem_filter hentry)
  · obtain ⟨-, hnext⟩ := fixed_move? hmove
    refine ⟨hnext ▸ hknown, ?_⟩
    rcases move?_cases hmove with ⟨gone, -, hquiet⟩ | ⟨moment, other, closing, rfl, -, rfl, rfl⟩
    · exact ⟨by rw [closing?, closing?, hquiet.closings], fun hnone => by rw [hquiet.closed, hnone]⟩
    · have hother : closing.ticket ≠ ticket := by simpa [DrainEvent.isLookOf] using hspares
      rcases s.look_cases moment closing with ⟨-, -, hclosed, hclosings⟩ | ⟨-, -, -, hclosed, hclosings⟩
      · refine ⟨?_, fun hnone => by rw [hclosed, hnone]⟩
        simp [closing?, hclosings, List.find?_append, find?_filter_other hother, hother]
      · refine ⟨?_, fun hnone => ?_⟩
        · rw [closing?, hclosings, find?_filter_other hother, closing?]
        · simp [hclosed, List.lookup_append, hnone, List.lookup_cons, beq_false_of_ne hother.symm]

/-- A closing that sleeps and has not answered. -/
structure Waits (t : DrainTracker) (closing : Closing) : Prop where
  known : closing.ticket < t.nextTicket
  waiting : t.closing? closing.ticket = some closing
  unanswered : t.closed.lookup closing.ticket = none

/-- A closing that has force-closed everything and will not look any more. -/
structure Over (t : DrainTracker) (ticket : Nat) : Prop where
  known : ticket < t.nextTicket
  gone : t.closing? ticket = none
  signalled : t.forceClosing = true

lemma Waits.perform? {closing : Closing} (h : s.Waits closing)
    (hspares : event.isLookOf closing.ticket = false) (happens : s.perform? event = some t) :
    t.Waits closing := by
  obtain ⟨hknown, hsame, hclosed⟩ := closing?_perform? h.known hspares happens
  exact ⟨hknown, hsame.trans h.waiting, hclosed h.unanswered⟩

lemma Over.perform? (h : s.Over ticket) (happens : s.perform? event = some t) :
    event.isLookOf ticket = false ∧ t.Over ticket := by
  have hspares : event.isLookOf ticket = false := by
    cases event with
    | move move =>
      cases move with
      | look moment other =>
        by_contra hlook
        obtain rfl : other = ticket := by simpa [DrainEvent.isLookOf] using hlook
        have hgone := h.gone
        unfold closing? at hgone
        simp [DrainTracker.perform?, move?, hgone] at happens
      | _ => rfl
    | _ => rfl
  obtain ⟨hknown, hsame, -⟩ := closing?_perform? h.known hspares happens
  exact ⟨hspares, hknown, hsame.trans h.gone, forceClosing_perform? h.signalled happens⟩

end DrainTracker

/-- Whether a look finds nothing open, or comes when the grace is over. -/
def DrainStep.FindsEnd (look : DrainStep) (deadline : Moment) : Prop :=
  look.before.opened = [] ∨ deadline ≤ look.moment

/-- A look that changes no connection, and after which the closing has not answered. -/
structure DrainStep.GoesOn (look : DrainStep) (ticket : Nat) : Prop where
  opened : look.after.opened = look.before.opened
  forceClosing : look.after.forceClosing = look.before.forceClosing
  unanswered : (look.after.takeClosed ticket).2 = none

/-- A look that force-closes everything that is open, and after which the closing answers with the number of
connections whose phase this has changed. -/
structure DrainStep.ForcesOpen (look : DrainStep) (ticket : Nat) : Prop where
  opened : look.after.opened = look.before.opened.map fun c => { c with phase := .forceClosed }
  forceClosing : look.after.forceClosing = true
  answer : (look.after.takeClosed ticket).2 =
    some (look.before.opened.countP fun c => decide (c.phase ≠ .forceClosed))

namespace DrainTracker

variable {s t : DrainTracker} {now : Moment}

lemma look_of_ends {closing : Closing} (hends : s.opened = [] ∨ closing.deadline ≤ now) :
    (s.look now closing).1 = { s with
      opened := s.opened.map fun c => { c with phase := .forceClosed }
      forceClosing := true
      closings := s.closings.filter fun c => c.ticket != closing.ticket
      closed := s.closed ++ [(closing.ticket, s.opened.countP fun c => decide (c.phase ≠ .forceClosed))] } := by
  rw [look, if_pos (by simpa using hends)]
  simp only [forceClose, Connection.advance_forceClosed, Connection.isBefore_forceClosed]

lemma look_of_goes_on {closing : Closing} (hends : ¬ (s.opened = [] ∨ closing.deadline ≤ now)) :
    (s.look now closing).1 = { s with
      closings := (s.closings.filter fun c => c.ticket != closing.ticket) ++
        [{ closing with nextLook := now + lookEvery }] } := by
  rw [look, if_neg (by simpa using hends)]

/-- A closing is no longer there once the closings with its ticket are taken away. -/
lemma find?_filter_same (closings : List Closing) (ticket : Nat) :
    (closings.filter fun c => c.ticket != ticket).find? (fun c => c.ticket == ticket) = none := by
  simp [List.find?_filter]

/-- What a look does of a closing that has not answered. -/
lemma Waits.look {closing : Closing} (h : s.Waits closing) (now : Moment) (event : DrainEvent) :
    let t := (s.look now closing).1
    let look : DrainStep := ⟨now, s, event, t⟩
    (look.FindsEnd closing.deadline ∧ look.ForcesOpen closing.ticket ∧ t.Over closing.ticket) ∨
      ¬ look.FindsEnd closing.deadline ∧ look.GoesOn closing.ticket ∧
        t.Waits { closing with nextLook := now + lookEvery } := by
  dsimp only
  by_cases hends : s.opened = [] ∨ closing.deadline ≤ now
  · rw [look_of_ends hends]
    refine .inl ⟨hends, ⟨rfl, rfl, (snd_takeClosed _ _).trans ?_⟩, h.known, find?_filter_same _ _, rfl⟩
    simp [List.lookup_append, h.unanswered]
  · rw [look_of_goes_on hends]
    refine .inr ⟨hends, ⟨rfl, rfl, (snd_takeClosed _ _).trans h.unanswered⟩, h.known, ?_, h.unanswered⟩
    rw [closing?, List.find?_append, find?_filter_same]
    simp

/-- Where a closing is that was called at a moment: it sleeps, and all its looks went on, or it is over, and the
last look has ended it. Its looks came every 50 milliseconds. -/
structure Course (closing : Closing) (looks : List DrainStep) (now : Moment) (t : DrainTracker) : Prop where
  moments : ∀ i look, looks[i]? = some look → look.moment = closing.nextLook + i * lookEvery
  stage :
    ((∀ look ∈ looks, ¬ look.FindsEnd closing.deadline ∧ look.GoesOn closing.ticket) ∧
        now ≤ closing.nextLook + looks.length * lookEvery ∧
        t.Waits { closing with nextLook := closing.nextLook + looks.length * lookEvery }) ∨
      ∃ earlier last, looks = earlier ++ [last] ∧
        (∀ look ∈ earlier, ¬ look.FindsEnd closing.deadline ∧ look.GoesOn closing.ticket) ∧
        last.FindsEnd closing.deadline ∧ last.ForcesOpen closing.ticket ∧ t.Over closing.ticket

lemma Course.look {closing : Closing} {looks : List DrainStep} (h : Course closing looks now s)
    (hontime : s.OnTime now (.move (.look now closing.ticket)))
    (happens : s.perform? (.move (.look now closing.ticket)) = some t) :
    Course closing (looks ++ [⟨now, s, .move (.look now closing.ticket), t⟩]) now t := by
  rcases h.stage with ⟨hearlier, hnow, hwaits⟩ | ⟨-, -, -, -, -, -, hover⟩
  · have hmoment : now = closing.nextLook + looks.length * lookEvery :=
      Nat.le_antisymm hnow (hontime.2 _ hwaits.waiting)
    obtain rfl := Option.some.inj ((perform?_look _ hwaits.waiting).symm.trans happens)
    refine ⟨fun i look hi => ?_, ?_⟩
    · rcases getElem?_append_singleton hi with hold | ⟨rfl, rfl⟩
      · exact h.moments i look hold
      · exact hmoment
    · rcases hwaits.look now _ with ⟨hends, hforces, hafter⟩ | ⟨hends, hgoes, hafter⟩
      · exact .inr ⟨looks, _, rfl, hearlier, hends, hforces, hafter⟩
      · have hnext : now + lookEvery = closing.nextLook + (looks.length + 1) * lookEvery := by
          rw [hmoment, Nat.succ_mul, Nat.add_assoc]
        rw [List.length_append, List.length_singleton, ← hnext]
        refine .inl ⟨fun look hmem => ?_, Nat.le_add_right _ _, hafter⟩
        rcases List.mem_append.mp hmem with hold | hnew
        · exact hearlier look hold
        · obtain rfl := List.mem_singleton.mp hnew
          exact ⟨hends, hgoes⟩
  · have hspared := (hover.perform? happens).1
    simp [DrainEvent.isLookOf] at hspared

/-- What is not a look of the closing and what the clock does leaves the closing where it is. -/
lemma Course.spared {closing : Closing} {looks : List DrainStep} {later : Moment}
    (h : Course closing looks now s)
    (hwaits : ∀ c, s.Waits c → c.ticket = closing.ticket → now ≤ c.nextLook →
      later ≤ c.nextLook ∧ t.Waits c)
    (hover : s.Over closing.ticket → t.Over closing.ticket) : Course closing looks later t := by
  refine ⟨h.moments, ?_⟩
  rcases h.stage with ⟨hearlier, hnow, hsleeps⟩ | ⟨earlier, last, hlooks, hearlier, hends, hforces, hgone⟩
  · obtain ⟨hlater, hsame⟩ := hwaits _ hsleeps rfl hnow
    exact .inl ⟨hearlier, hlater, hsame⟩
  · exact .inr ⟨earlier, last, hlooks, hearlier, hends, hforces, hover hgone⟩

namespace Course

variable {closing : Closing} {looks : List DrainStep} {look : DrainStep} {i : Nat}

end Course

/-- All tickets were handed out before the next one. -/
structure Ticketed (t : DrainTracker) : Prop where
  closings : ∀ c ∈ t.closings, c.ticket < t.nextTicket
  closed : ∀ entry ∈ t.closed, entry.1 < t.nextTicket

lemma Ticketed.perform? (h : s.Ticketed) (happens : s.perform? event = some t) : t.Ticketed := by
  rcases perform?_cases happens with ⟨tag, rfl⟩ | ⟨tag, phase, -, rfl⟩ | ⟨begun, kept, hbegun, rfl⟩ |
    ⟨move, records, -, hmove⟩
  · exact ⟨h.closings, h.closed⟩
  · exact ⟨h.closings, h.closed⟩
  · refine ⟨List.forall_mem_append.mpr ⟨fun c hc => Nat.lt_add_right _ (h.closings c hc), fun c hc => ?_⟩,
      fun entry hentry => Nat.lt_add_right _ (h.closed entry (List.mem_of_mem_filter hentry))⟩
    rw [hbegun c hc]
    exact Nat.lt_add_of_pos_right (List.length_pos_of_mem hc)
  · obtain ⟨-, hnext⟩ := fixed_move? hmove
    rcases move?_cases hmove with ⟨gone, -, hquiet⟩ | ⟨moment, other, closing, -, hmem, -, rfl⟩
    · exact ⟨by rw [hquiet.closings, hnext]; exact h.closings, by rw [hquiet.closed, hnext]; exact h.closed⟩
    · -- A look puts its closing back, or its answer, with the ticket that it had.
      have hknown := h.closings closing hmem
      have hothers : ∀ c ∈ s.closings.filter fun c => c.ticket != closing.ticket, c.ticket < s.nextTicket :=
        fun c hc => h.closings c (List.mem_of_mem_filter hc)
      rcases s.look_cases moment closing with ⟨-, -, hclosed, hclosings⟩ | ⟨-, -, -, hclosed, hclosings⟩
      · refine ⟨?_, by rw [hclosed, hnext]; exact h.closed⟩
        rw [hclosings, hnext, List.forall_mem_append, List.forall_mem_singleton]
        exact ⟨hothers, hknown⟩
      · refine ⟨by rw [hclosings, hnext]; exact hothers, ?_⟩
        rw [hclosed, hnext, List.forall_mem_append, List.forall_mem_singleton]
        exact ⟨h.closed, hknown⟩

end DrainTracker

open DrainTracker

variable {start now : Moment} {s t : DrainTracker} {steps : List DrainStep}

end OutboundWatch
