import OutboundWatch.Proofs.Evolution
import OutboundWatch.Proofs.Tracking

/-!
# How drains end

A drain waits for its copy and for the force-close signal at once. A poll of it asks both, in either order, and
the first answer ends it: a copy that has come to its end completes the drain, whatever the phase of its
connection is. So a connection that is force-closed can still report a completed drain, if a poll asks the copy
first.
-/

namespace OutboundWatch

/-- The branch of a drain that a poll asks first. -/
inductive DrainBranch where
  | copy
  | forceClose
  deriving DecidableEq

namespace DrainTracker

/-- A poll of a drain asks both branches. When the first has ended the drain, nothing is left for the second. -/
def poll (t : DrainTracker) (now : Moment) (id : Nat) : DrainBranch → DrainTracker × List Record
  | .copy =>
    let (copied, records) := t.turnDrain now id
    let (after, more) := copied.interruptDrain id
    (after, records ++ more)
  | .forceClose =>
    let (interrupted, records) := t.interruptDrain id
    let (after, more) := interrupted.turnDrain now id
    (after, records ++ more)

variable {s t : DrainTracker}

lemma get?_conclude (s : DrainTracker) (c : Connection) (result : Except DrainError DrainSummary)
    (sink : Sink) : (s.conclude c result sink).1.get? c.id = none := by
  simp [fst_conclude, get?]

lemma reports_conclude (s : DrainTracker) (c : Connection) (result : Except DrainError DrainSummary)
    (sink : Sink) :
    (s.conclude c result sink).1.reports =
      s.reports ++ [⟨c.id, result, sink, if result.isOk then c.phase else .forceClosed⟩] := by
  rw [fst_conclude]

lemma interruptDrain_of_none {id : Nat} (hnone : s.get? id = none) : s.interruptDrain id = (s, []) := by
  simp [interruptDrain, hnone]

lemma turnDrain_of_none {now : Moment} {id : Nat} (hnone : s.get? id = none) :
    s.turnDrain now id = (s, []) := by
  simp [turnDrain, hnone]

/-- A move that ends a drain, and the report that it leaves. -/
inductive Concludes (s : DrainTracker) : ConnectionMove → DrainReport → Prop where
  | completed {now : Moment} {id : Nat} {c : Connection} {transfer : Transfer} {sink : Sink} {copied : Nat}
    (found : s.get? id = some c) (draining : c.transfer = some transfer)
    (turned : transfer.turn now = .ends sink copied) :
    s.Concludes (.turn now id) ⟨id, .ok ⟨c.acknowledged, copied⟩, sink, c.phase⟩
  | failed {now : Moment} {id : Nat} {c : Connection} {transfer : Transfer} {sink : Sink} {error : IoError}
    (found : s.get? id = some c) (draining : c.transfer = some transfer)
    (turned : transfer.turn now = .fails sink error) :
    s.Concludes (.turn now id) ⟨id, .error (.io error), sink, .forceClosed⟩
  | interrupted {id : Nat} {c : Connection} {transfer : Transfer}
    (found : s.get? id = some c) (draining : c.transfer = some transfer) (signalled : s.forceClosing = true) :
    s.Concludes (.interrupt id) ⟨id, .error .forceClosed, transfer.sink, .forceClosed⟩

/-- A turn leaves the reports as they are, or it ends the drain and adds a report. -/
lemma turnDrain_reports (s : DrainTracker) (now : Moment) (id : Nat) :
    (s.turnDrain now id).1.reports = s.reports ∨
      ∃ report, (s.turnDrain now id).1.reports = s.reports ++ [report] ∧
        s.Concludes (.turn now id) report := by
  unfold turnDrain
  split
  · exact .inl rfl
  · rename_i c hc
    obtain ⟨-, rfl⟩ := id_of_get? hc
    split
    · exact .inl rfl
    · rename_i transfer htransfer
      split
      · exact .inl rfl
      · rename_i sink copied hturn
        exact .inr ⟨_, s.reports_conclude c _ sink, .completed hc htransfer hturn⟩
      · rename_i sink error hturn
        exact .inr ⟨_, s.reports_conclude c _ sink, .failed hc htransfer hturn⟩

lemma interruptDrain_reports (s : DrainTracker) (id : Nat) :
    (s.interruptDrain id).1.reports = s.reports ∨
      ∃ report, (s.interruptDrain id).1.reports = s.reports ++ [report] ∧
        s.Concludes (.interrupt id) report := by
  unfold interruptDrain
  split
  · rename_i hsignalled
    split
    · exact .inl rfl
    · rename_i c hc
      obtain ⟨-, rfl⟩ := id_of_get? hc
      split
      · exact .inl rfl
      · rename_i transfer htransfer
        exact .inr ⟨_, s.reports_conclude c _ transfer.sink, .interrupted hc htransfer hsignalled⟩
  · exact .inl rfl

/-- Only a move that ends a drain adds a report. -/
theorem reports_move? {move : ConnectionMove} {records : List Record}
    (happens : s.move? move = some (t, records)) :
    t.reports = s.reports ∨ ∃ report, t.reports = s.reports ++ [report] ∧ s.Concludes move report := by
  rcases effect_of_move? happens with ⟨id, size, -, rfl⟩ | ⟨id, source, sink, -, rfl⟩ | ⟨id, -, rfl⟩ |
    ⟨now, id, rfl, rfl⟩ | ⟨id, rfl, rfl⟩ | ⟨now, ticket, closing, -, -, -, rfl⟩
  · exact .inl rfl
  · exact .inl rfl
  · exact .inl (by rw [fst_release])
  · exact s.turnDrain_reports now id
  · exact s.interruptDrain_reports id
  · refine .inl ?_
    unfold look
    dsimp only
    split <;> rfl

/-- How a poll ends the drain of a connection after the force-close signal: the copy completes it if it is asked
first and has come to its end, and the signal interrupts it if it is asked first or the copy has to wait. -/
structure PollEnds (c : Connection) (transfer : Transfer) (now : Moment) (first : DrainBranch)
    (report : DrainReport) : Prop where
  id : report.id = c.id
  phase : report.phase = if report.result.isOk then c.phase else .forceClosed
  completed : ∀ summary, report.result = .ok summary ↔ first = .copy ∧
    summary.acknowledged = c.acknowledged ∧ ∃ sink, transfer.turn now = .ends sink summary.drained
  failed : ∀ error, report.result = .error (.io error) ↔ first = .copy ∧
    ∃ sink, transfer.turn now = .fails sink error
  interrupted : report.result = .error .forceClosed ↔
    first = .forceClose ∨ ∃ waiting, transfer.turn now = .waits waiting

/-- What a turn of a drain does, if there is one. -/
lemma turnDrain_eq {id : Nat} {c : Connection} (hc : s.get? id = some c) {transfer : Transfer}
    (htransfer : c.transfer = some transfer) (now : Moment) :
    s.turnDrain now id =
      match transfer.turn now with
      | .waits waiting => (s.modify id fun c => { c with transfer := some waiting }, [])
      | .ends sink copied => s.conclude c (.ok ⟨c.acknowledged, copied⟩) sink
      | .fails sink error => s.conclude c (.error (.io error)) sink := by
  cases hturn : transfer.turn now <;> simp [turnDrain, hc, htransfer, hturn]

lemma interruptDrain_eq (hforce : s.forceClosing = true) {id : Nat} {c : Connection}
    (hc : s.get? id = some c) {transfer : Transfer} (htransfer : c.transfer = some transfer) :
    s.interruptDrain id = s.conclude c (.error .forceClosed) transfer.sink := by
  simp [interruptDrain, hforce, hc, htransfer]

/-- Nothing is left for the signal when the copy has ended the drain. -/
lemma poll_copy_of_conclude {now : Moment} {c : Connection} {result : Except DrainError DrainSummary} {sink : Sink}
    (hturned : s.turnDrain now c.id = s.conclude c result sink) :
    (s.poll now c.id .copy).1 = (s.conclude c result sink).1 := by
  simp only [poll, hturned, interruptDrain_of_none (s.get?_conclude c result sink)]

/-- Nothing is left for the copy when the signal has ended the drain. -/
lemma poll_forceClose_of_conclude {now : Moment} {c : Connection} {result : Except DrainError DrainSummary}
    {sink : Sink} (hinterrupted : s.interruptDrain c.id = s.conclude c result sink) :
    (s.poll now c.id .forceClose).1 = (s.conclude c result sink).1 := by
  simp only [poll, hinterrupted, turnDrain_of_none (s.get?_conclude c result sink)]

/-- The signal ends the drain that waits on. -/
lemma poll_copy_of_waits (hforce : s.forceClosing = true) {now : Moment} {c : Connection}
    (hc : s.get? c.id = some c) {waiting : Transfer}
    (hturned : s.turnDrain now c.id = (s.modify c.id fun c => { c with transfer := some waiting }, [])) :
    (s.poll now c.id .copy).1 = ((s.modify c.id fun c => { c with transfer := some waiting }).conclude
      { c with transfer := some waiting } (.error .forceClosed) waiting.sink).1 := by
  have hget : (s.modify c.id fun c => { c with transfer := some waiting }).get? c.id =
      some { c with transfer := some waiting } := by
    rw [get?_modify s c.id (f := fun c => { c with transfer := some waiting }) (fun _ => rfl), if_pos rfl, hc,
      Option.map_some]
  simp only [poll, hturned, interruptDrain_eq (s := s.modify c.id _) hforce hget rfl]

/-- After the force-close signal, a poll of a drain ends it with a report. -/
lemma poll_forced (hforce : s.forceClosing = true) {id : Nat} {c : Connection} (hc : s.get? id = some c)
    {transfer : Transfer} (htransfer : c.transfer = some transfer) (now : Moment) (first : DrainBranch) :
    (s.poll now id first).1.get? id = none ∧
      ∃ report, (s.poll now id first).1.reports = s.reports ++ [report] ∧
        PollEnds c transfer now first report := by
  obtain ⟨-, rfl⟩ := id_of_get? hc
  have hturned := turnDrain_eq hc htransfer now
  cases first with
  | forceClose =>
    rw [poll_forceClose_of_conclude (interruptDrain_eq hforce hc htransfer)]
    refine ⟨get?_conclude _ c _ _, _, reports_conclude _ c _ _, rfl, rfl, ?_, ?_, ?_⟩ <;> simp
  | copy =>
    cases hturn : transfer.turn now with
    | waits waiting =>
      rw [poll_copy_of_waits hforce hc (hturned.trans (by rw [hturn]))]
      refine ⟨get?_conclude _ { c with transfer := some waiting } _ _, _, reports_conclude _ _ _ _, rfl, rfl,
        ?_, ?_, ?_⟩ <;> simp [hturn]
    | ends sink copied =>
      rw [poll_copy_of_conclude (hturned.trans (by rw [hturn]))]
      refine ⟨get?_conclude _ c _ _, _, reports_conclude _ c _ _, rfl, rfl, fun summary => ?_, ?_, ?_⟩
      · cases summary
        simp [hturn, eq_comm]
      · simp [hturn]
      · simp [hturn]
    | fails sink error =>
      rw [poll_copy_of_conclude (hturned.trans (by rw [hturn]))]
      refine ⟨get?_conclude _ c _ _, _, reports_conclude _ c _ _, rfl, rfl, ?_, ?_, ?_⟩ <;> simp [hturn]

/-- When there is nothing to do after the force-close signal, no drain is under way. -/
lemma transfer_of_idle (hforce : s.forceClosing = true) {now : Moment} (hidle : s.work? now = none) :
    ∀ c ∈ s.opened, c.transfer = none := by
  unfold work? at hidle
  split at hidle
  · cases hidle
  · split at hidle
    · cases hidle
    · split at hidle
      · cases hidle
      · rename_i hnone
        intro c hc
        simpa [hforce, Connection.isHeld] using List.find?_eq_none.mp hnone c hc

/-- Only the force-close signal brings open connections to the last phase. -/
def Unforced (t : DrainTracker) : Prop :=
  t.forceClosing = false → ∀ c ∈ t.opened, c.phase ≠ .forceClosed

lemma Unforced.carry (h : s.Unforced) {push : String → DrainPhase} {gone : Option Nat}
    (hcarries : s.Carries t push gone) (hpush : ∀ tag, (push tag).rank < DrainPhase.forceClosed.rank)
    (hforce : t.forceClosing = s.forceClosing) : t.Unforced := by
  intro hunforced d hd hphase
  obtain ⟨c, hc, -, -, hrank⟩ := hcarries.phases d hd
  have hbefore : c.phase.rank ≠ DrainPhase.forceClosed.rank := fun heq =>
    h (hforce.symm.trans hunforced) c hc (DrainPhase.eq_of_rank heq)
  have hless := hpush d.tag
  rw [hphase] at hrank
  omega

end DrainTracker

/-- A call of a tracker, or what happens to its connections and closings. -/
inductive DrainEvent where
  | openConnection (tag : String)
  | markDraining (tag : String)
  | retire (tag : String)
  | beginClosing (now : Moment)
  | takeClosed (ticket : Nat)
  | move (move : ConnectionMove)

namespace DrainTracker

def perform? (t : DrainTracker) : DrainEvent → Option DrainTracker
  | .openConnection tag => some (t.openConnection tag).1
  | .markDraining tag => some (t.markDraining tag).1
  | .retire tag => some (t.retire tag).1
  | .beginClosing now => (t.beginClosing? now).map Prod.fst
  | .takeClosed ticket => some (t.takeClosed ticket).1
  | .move move => (t.move? move).map Prod.fst

/-- The states that a tracker can come to. -/
inductive Reaches (s : DrainTracker) : DrainTracker → Prop where
  | refl : Reaches s s
  | step {t u : DrainTracker} (event : DrainEvent) : Reaches s t → t.perform? event = some u → Reaches s u

variable {s t u : DrainTracker}

lemma Reaches.trans (first : s.Reaches t) (second : t.Reaches u) : s.Reaches u := by
  induction second with
  | refl => exact first
  | step event _ happens ih => exact .step event ih happens

lemma Reaches.single (event : DrainEvent) (happens : s.perform? event = some t) : s.Reaches t :=
  .step event .refl happens

/-- What can happen to a tracker: a connection is opened, or those of a tag are pushed to an earlier phase than
the last one, or a closing begins or its answer is taken, or a move is made. -/
theorem perform?_cases {event : DrainEvent} (happens : s.perform? event = some t) :
    (∃ tag, t = (s.openConnection tag).1) ∨
      (∃ tag phase, phase.rank < DrainPhase.forceClosed.rank ∧ t = (s.advanceAll tag phase).1) ∨
      (∃ begun kept, (∀ c ∈ begun, c.ticket = s.nextTicket) ∧ t = { s with
        closings := s.closings ++ begun
        nextTicket := s.nextTicket + begun.length
        closed := s.closed.filter kept }) ∨
      ∃ move records, event = .move move ∧ s.move? move = some (t, records) := by
  cases event with
  | openConnection tag =>
    cases happens
    exact .inl ⟨tag, rfl⟩
  | markDraining tag =>
    cases happens
    exact .inr (.inl ⟨tag, .draining, by decide, rfl⟩)
  | retire tag =>
    cases happens
    exact .inr (.inl ⟨tag, .retired, by decide, rfl⟩)
  | beginClosing now =>
    obtain ⟨⟨after, ticket⟩, hbegin, rfl⟩ := Option.map_eq_some_iff.mp happens
    obtain ⟨deadline, -, heq⟩ := Option.map_eq_some_iff.mp hbegin
    cases heq
    refine .inr (.inr (.inl ⟨[⟨s.nextTicket, deadline, now⟩], fun _ => true, ?_, ?_⟩))
    · exact List.forall_mem_singleton.mpr rfl
    · rw [List.filter_true, List.length_singleton]
  | takeClosed ticket =>
    cases happens
    unfold takeClosed
    split
    · refine .inr (.inr (.inl ⟨[], fun _ => true, List.forall_mem_nil _, ?_⟩))
      rw [List.filter_true, List.append_nil, List.length_nil, Nat.add_zero]
    · refine .inr (.inr (.inl ⟨[], fun c => c.1 != ticket, List.forall_mem_nil _, ?_⟩))
      rw [List.append_nil, List.length_nil, Nat.add_zero]
  | move move =>
    obtain ⟨⟨after, records⟩, hmove, rfl⟩ := Option.map_eq_some_iff.mp happens
    exact .inr (.inr (.inr ⟨move, records, rfl, hmove⟩))

lemma Unforced.perform? (h : s.Unforced) {event : DrainEvent} (happens : s.perform? event = some t) :
    t.Unforced := by
  rcases perform?_cases happens with ⟨tag, rfl⟩ | ⟨tag, phase, hphase, rfl⟩ | ⟨_, _, -, rfl⟩ |
    ⟨move, records, -, hmove⟩
  · intro hunforced c hc
    rcases List.mem_append.mp hc with hold | hnew
    · exact h hunforced c hold
    · obtain rfl := List.mem_singleton.mp hnew
      exact DrainPhase.noConfusion
  · refine h.carry (s.carries_advanceAll tag phase) (fun key => ?_) rfl
    split
    · exact hphase
    · exact Nat.zero_lt_succ 2
  · exact h
  · have hless : ∀ tag, (unpushed tag).rank < DrainPhase.forceClosed.rank := fun _ => Nat.zero_lt_succ 2
    rcases move?_cases hmove with ⟨gone, -, hquiet⟩ | ⟨now, ticket, closing, -, -, -, rfl⟩
    · exact h.carry hquiet.toCarries hless hquiet.forceClosing
    · rcases s.look_cases now closing with ⟨hcarries, hforce, -⟩ | ⟨-, -, hforce, -⟩
      · exact h.carry hcarries hless hforce
      · intro hunforced
        cases hforce.symm.trans hunforced

/-- Once given, the force-close signal stays. -/
lemma forceClosing_perform? (h : s.forceClosing = true) {event : DrainEvent}
    (happens : s.perform? event = some t) : t.forceClosing = true := by
  rcases perform?_cases happens with ⟨tag, rfl⟩ | ⟨tag, phase, -, rfl⟩ | ⟨_, _, -, rfl⟩ |
    ⟨move, records, -, hmove⟩
  · exact h
  · exact h
  · exact h
  · rcases move?_cases hmove with ⟨gone, -, hquiet⟩ | ⟨now, ticket, closing, -, -, -, rfl⟩
    · exact hquiet.forceClosing.trans h
    · rcases s.look_cases now closing with ⟨-, hforce, -⟩ | ⟨-, -, hforce, -⟩
      · exact hforce.trans h
      · exact hforce

/-- A report is added by what ends a drain. -/
lemma reports_perform? {event : DrainEvent} (happens : s.perform? event = some t) :
    t.reports = s.reports ∨ ∃ move report, t.reports = s.reports ++ [report] ∧ s.Concludes move report := by
  rcases perform?_cases happens with ⟨tag, rfl⟩ | ⟨tag, phase, -, rfl⟩ | ⟨_, _, -, rfl⟩ |
    ⟨move, records, -, hmove⟩
  · exact .inl rfl
  · exact .inl rfl
  · exact .inl rfl
  · exact (reports_move? hmove).imp_right fun hadded => ⟨move, hadded⟩

lemma reaches_turnDrain (s : DrainTracker) (now : Moment) (id : Nat) : s.Reaches (s.turnDrain now id).1 := by
  cases hc : s.get? id with
  | none =>
    rw [turnDrain_of_none hc]
    exact .refl
  | some c => exact .single (.move (.turn now id)) (by simp [perform?, move?, hc])

lemma reaches_interruptDrain (s : DrainTracker) (id : Nat) : s.Reaches (s.interruptDrain id).1 := by
  cases hc : s.get? id with
  | none =>
    rw [interruptDrain_of_none hc]
    exact .refl
  | some c => exact .single (.move (.interrupt id)) (by simp [perform?, move?, hc])

/-- A poll of a drain is something that happens to it. -/
lemma reaches_poll (s : DrainTracker) (now : Moment) (id : Nat) (first : DrainBranch) :
    s.Reaches (s.poll now id first).1 := by
  cases first with
  | copy => exact (s.reaches_turnDrain now id).trans (reaches_interruptDrain _ id)
  | forceClose => exact (s.reaches_interruptDrain id).trans (reaches_turnDrain _ now id)

namespace Reaches

lemma unforced (h : s.Reaches t) (hs : s.Unforced) : t.Unforced := by
  induction h with
  | refl => exact hs
  | step event _ happens ih => exact ih.perform? happens

lemma forceClosing (h : s.Reaches t) (hforce : s.forceClosing = true) : t.forceClosing = true := by
  induction h with
  | refl => exact hforce
  | step event _ happens ih => exact forceClosing_perform? ih happens

lemma grace (h : s.Reaches t) : t.grace = s.grace := by
  induction h with
  | refl => rfl
  | step event _ happens ih =>
    rcases perform?_cases happens with ⟨tag, rfl⟩ | ⟨tag, phase, -, rfl⟩ | ⟨_, _, -, rfl⟩ |
      ⟨move, records, -, hmove⟩
    · exact ih
    · exact ih
    · exact ih
    · exact (fixed_move? hmove).1.trans ih

/-- All reports stem from what has ended drains. -/
lemma reports (h : s.Reaches t) {report : DrainReport} (hreport : report ∈ t.reports) :
    report ∈ s.reports ∨ ∃ u move, s.Reaches u ∧ u.Concludes move report := by
  induction h with
  | refl => exact .inl hreport
  | @step u v event h happens ih =>
    rcases reports_perform? happens with hsame | ⟨move, last, hlast, hconcludes⟩
    · exact ih (hsame ▸ hreport)
    · rw [hlast, List.mem_append, List.mem_singleton] at hreport
      rcases hreport with hu | rfl
      · exact ih hu
      · exact .inr ⟨u, move, h, hconcludes⟩

end Reaches

lemma forceClosing_of_concludes (h : s.Unforced) {move : ConnectionMove} {report : DrainReport}
    (hconcludes : s.Concludes move report) (hphase : report.phase = .forceClosed)
    (hok : report.result.isOk = true) : s.forceClosing = true := by
  cases hconcludes with
  | completed found _ _ =>
    by_contra hunforced
    exact h (Bool.eq_false_iff.mpr hunforced) _ (id_of_get? found).1 hphase
  | failed _ _ _ => cases hok
  | interrupted _ _ _ => cases hok

/-- Whatever has happened to a tracker, all reports stem from what has ended drains, and a drain that completes
reports a force-closed connection only if the force-close signal was given before. Connections are force-closed
only after the signal, which stays. After it every drain ends at its next poll, whether it was under way before or
has begun since, and it is over when there is nothing to do. It is interrupted, unless the poll asks the copy
first and the copy has come to its end or failed. -/
theorem drains_end {grace : Span} (h : (create grace).Reaches t) :
    (∀ report ∈ t.reports, ∃ s move, (create grace).Reaches s ∧ s.Concludes move report ∧
      (report.phase = .forceClosed → report.result.isOk = true → s.forceClosing = true)) ∧
      (∀ c ∈ t.opened, c.phase = .forceClosed → t.forceClosing = true) ∧
      (t.forceClosing = true → ∀ u, t.Reaches u →
        (∀ now, u.work? now = none → ∀ c ∈ u.opened, c.transfer = none) ∧
          ∀ id c transfer, u.get? id = some c → c.transfer = some transfer → ∀ now first,
            u.Reaches (u.poll now id first).1 ∧ (u.poll now id first).1.get? id = none ∧
              ∃ report, (u.poll now id first).1.reports = u.reports ++ [report] ∧
                PollEnds c transfer now first report) := by
  have hcreated : (create grace).Unforced := fun _ c hc => by cases hc
  refine ⟨fun report hreport => ?_, fun c hc hphase => ?_, fun hforce u hu => ?_⟩
  · rcases h.reports hreport with hnone | ⟨s, move, hs, hconcludes⟩
    · cases hnone
    · exact ⟨s, move, hs, hconcludes, forceClosing_of_concludes (hs.unforced hcreated) hconcludes⟩
  · by_contra hunforced
    exact h.unforced hcreated (Bool.eq_false_iff.mpr hunforced) c hc hphase
  · have hstays := hu.forceClosing hforce
    refine ⟨fun now hidle => transfer_of_idle hstays hidle, ?_⟩
    intro id c transfer hc htransfer now first
    exact ⟨u.reaches_poll now id first, poll_forced hstays hc htransfer now first⟩

lemma Reaches.of_foldlM {events : List DrainEvent} (h : events.foldlM perform? s = some t) : s.Reaches t := by
  induction events generalizing s with
  | nil =>
    cases h
    exact .refl
  | cons event rest ih =>
    obtain ⟨u, hfirst, hrest⟩ := Option.bind_eq_some_iff.mp h
    exact (Reaches.single event hfirst).trans (ih hrest)

/-- A drain can begin after its connection was force-closed. -/
lemma exists_forced_drain :
    ∃ t c transfer, (create Span.zero).Reaches t ∧ t.forceClosing = true ∧ t.get? 1 = some c ∧
      c.phase = .forceClosed ∧ c.acknowledged = 0 ∧ c.transfer = some transfer ∧
      transfer.turn 0 = .ends Sink.discard 1 := by
  have hlast : ([.openConnection "a", .beginClosing 0, .move (.look 0 0),
      .move (.beginDrain 1 [.data [7]] Sink.discard)].foldlM perform? (create Span.zero)).map (fun t =>
        (t.forceClosing, (t.get? 1).map fun c => (c.phase, c.acknowledged, c.transfer))) =
      some (true, some (.forceClosed, 0, some (Transfer.start [.data [7]] Sink.discard))) := by decide +kernel
  obtain ⟨t, hplay, heq⟩ := Option.map_eq_some_iff.mp hlast
  obtain ⟨hforce, hfound⟩ := Prod.mk.inj heq
  obtain ⟨c, hc, hsame⟩ := Option.map_eq_some_iff.mp hfound
  obtain ⟨hphase, hrest⟩ := Prod.mk.inj hsame
  obtain ⟨hacknowledged, htransfer⟩ := Prod.mk.inj hrest
  have hwritten : Sink.discard.writeAll [7] = (Sink.discard, none) := by decide +kernel
  refine ⟨t, c, _, .of_foldlM hplay, hforce, hc, hphase, hacknowledged, htransfer, ?_⟩
  simp [Transfer.turn, Transfer.isDue, Transfer.start, Transfer.run, hwritten]

/-- The drain of a force-closed connection whose copy has come to its end is completed or interrupted, as the
poll asks. -/
theorem drain_ends_either_way :
    ∃ t c, (create Span.zero).Reaches t ∧ t.forceClosing = true ∧ t.get? 1 = some c ∧
      ∀ first : DrainBranch, ∃ report, (t.poll 0 1 first).1.reports = t.reports ++ [report] ∧
        (report.result = .ok ⟨0, 1⟩ ↔ first = .copy) ∧
        (report.result = .error .forceClosed ↔ first = .forceClose) := by
  obtain ⟨t, c, transfer, h, hforce, hc, -, hacknowledged, htransfer, hturn⟩ := exists_forced_drain
  refine ⟨t, c, h, hforce, hc, fun first => ?_⟩
  obtain ⟨-, -, report, hreports, hends⟩ := ((drains_end h).2.2 hforce t .refl).2 1 c transfer hc htransfer 0 first
  refine ⟨report, hreports, ?_, ?_⟩
  · simp [hends.completed, hturn, hacknowledged]
  · simp [hends.interrupted, hturn]

/-- A drain of a force-closed connection can complete, and then it reports the connection as force-closed. -/
theorem completes_force_closed :
    ∃ t c u report, (create Span.zero).Reaches t ∧ t.forceClosing = true ∧ t.get? 1 = some c ∧
      c.phase = .forceClosed ∧ c.transfer.isSome = true ∧ t.Reaches u ∧ u.reports = t.reports ++ [report] ∧
      report.id = 1 ∧ report.result = .ok ⟨0, 1⟩ ∧ report.phase = .forceClosed := by
  obtain ⟨t, c, transfer, h, hforce, hc, hphase, hacknowledged, htransfer, hturn⟩ := exists_forced_drain
  obtain ⟨-, report, hreports, hends⟩ := poll_forced hforce hc htransfer 0 .copy
  have hcompleted : report.result = .ok ⟨0, 1⟩ :=
    (hends.completed _).mpr ⟨rfl, hacknowledged.symm, _, hturn⟩
  have hreported : report.phase = .forceClosed := by
    rw [hends.phase, hcompleted, hphase]
    rfl
  exact ⟨t, c, _, report, h, hforce, hc, hphase, by simp [htransfer], t.reaches_poll 0 1 .copy, hreports,
    hends.id.trans (id_of_get? hc).2, hcompleted, hreported⟩

end DrainTracker

namespace Observatory

variable {o p : Observatory}

/-- What happens to an observatory happens to its tracker. -/
lemma drains_perform? {event : Event} {records : List Record} (hsingle : ∀ desired, event ≠ .reconcile desired)
    (happens : o.perform? event = some (p, records)) : o.routing.drains.Reaches p.routing.drains := by
  cases event with
  | register tag target =>
    rw [eq_of_perform?_effect happens]
    exact o.register_keeps (P := fun q => o.routing.drains.Reaches q.routing.drains) tag target none .refl
      fun _ _ => .refl
  | registerConfigured candidate =>
    rw [eq_of_perform?_effect happens]
    exact o.registerConfigured_keeps (P := fun q => o.routing.drains.Reaches q.routing.drains) candidate .refl
      fun _ _ _ => .refl
  | unregister tag =>
    rw [eq_of_perform?_effect happens]
    exact o.unregister_keeps (P := fun q => o.routing.drains.Reaches q.routing.drains) tag .refl
      fun c _ => .single (.retire tag) rfl
  | reconcile desired => exact absurd rfl (hsingle desired)
  | selectBest =>
    cases happens
    rcases o.selectBest_cases with heq | ⟨chosen, -, -, heq⟩ <;> rw [heq]
    · exact .refl
    · cases o.heldBest with
      | none => exact .refl
      | some previous => exact .single (.markDraining previous) rfl
  | openConnection tag =>
    rw [eq_of_perform?_effect happens]
    rcases o.openConnection_cases tag with ⟨e, heq⟩ | ⟨-, -, heq, -⟩ <;> rw [heq]
    · exact .refl
    · exact .single (.openConnection tag) rfl
  | stop =>
    cases happens
    rcases o.stop_cases with ⟨-, heq⟩ | ⟨-, heq⟩ <;> rw [heq] <;> exact .refl
  | cycle now id move =>
    obtain ⟨scheduler, -, rfl⟩ := perform?_cycle happens
    exact .refl
  | deliver now id =>
    obtain ⟨c, status, -, -, hdeliver⟩ := perform?_deliver happens
    rcases deliver?_cases hdeliver with ⟨feed, -, rfl⟩ | ⟨-, rfl⟩ <;> exact .refl
  | publisher move =>
    obtain ⟨publisher, table, -, rfl⟩ := perform?_publisher happens
    exact .refl
  | connection move =>
    obtain ⟨drains, hmove, rfl⟩ := perform?_connection happens
    exact .single (.move move) (by simp [DrainTracker.perform?, hmove])
  | signal move =>
    cases happens
    exact .refl
  | proceedStop now =>
    rcases proceedStop?_stages happens with ⟨cycles, -, rfl⟩ | ⟨-, rfl⟩ | ⟨-, drains, ticket, hbegin, rfl⟩ |
      ⟨ticket, drains, forced, -, htake, rfl⟩
    · exact .refl
    · exact .refl
    · exact .single (.beginClosing now) (by simp [DrainTracker.perform?, hbegin])
    · exact .single (.takeClosed ticket) (by simp [DrainTracker.perform?, htake])

end Observatory

/-- The tracker of an observatory is one that trackers can come to. -/
theorem Reachable.drains {o : Observatory} (ho : Reachable o) :
    (DrainTracker.create o.config.drain.grace).Reaches o.routing.drains := by
  refine ho.invariant (P := fun o => (DrainTracker.create o.config.drain.grace).Reaches o.routing.drains)
    (fun _ _ => .refl) fun o event p records hsingle h happens => ?_
  rw [(Observatory.evolves_of_perform? hsingle happens).config]
  exact h.trans (Observatory.drains_perform? hsingle happens)

end OutboundWatch
