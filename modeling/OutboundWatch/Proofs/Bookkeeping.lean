import OutboundWatch.Proofs.Copying
import OutboundWatch.Proofs.Endings

/-!
# The books of connections

The events that happen to a tracker tell what its consumers have done: what they have acknowledged, which drains
they have begun, which connections they have dropped. The state of every connection agrees with them, and every
connection that was opened is in one place only: it is open, or its drain has ended with a report, or it was
dropped.
-/

namespace OutboundWatch

namespace DrainEvent

/-- The bytes that an event acknowledges on a connection. -/
def acknowledges (id : Nat) : DrainEvent → UInt64
  | .move (.acknowledge other size) => if other = id then size else 0
  | _ => 0

/-- The drains of a connection that begin in an event: the source and the sink of each. -/
def begins (id : Nat) : DrainEvent → List (List SourcePart × Sink)
  | .move (.beginDrain other source sink) => if other = id then [(source, sink)] else []
  | _ => []

/-- The connections that are dropped in an event. -/
def drops : DrainEvent → List Nat
  | .move (.drop id) => [id]
  | _ => []

/-- How many connections are opened in an event. -/
def opens : DrainEvent → Nat
  | .openConnection _ => 1
  | _ => 0

/-- The consumer of a connection does nothing with it in an event but, perhaps, drop it. -/
def Spares (event : DrainEvent) (id : Nat) : Prop := event.acknowledges id = 0 ∧ event.begins id = []

/-- An event opens, drops and uses no connection. -/
structure Neutral (event : DrainEvent) : Prop where
  opens : event.opens = 0
  drops : event.drops = []
  spares : ∀ id, event.Spares id

lemma spares_acknowledge {id other : Nat} (hother : other ≠ id) (size : UInt64) :
    (move (.acknowledge other size)).Spares id := ⟨if_neg hother, rfl⟩

lemma spares_beginDrain {id other : Nat} (hother : other ≠ id) (source : List SourcePart) (sink : Sink) :
    (move (.beginDrain other source sink)).Spares id := ⟨rfl, if_neg hother⟩

end DrainEvent

/-- The sum, modulo `2 ^ 64`, of the acknowledged bytes of a connection. -/
def acknowledgedIn (id : Nat) (events : List DrainEvent) : UInt64 := (events.map (DrainEvent.acknowledges id)).sum

def drainsIn (id : Nat) (events : List DrainEvent) : List (List SourcePart × Sink) :=
  events.flatMap (DrainEvent.begins id)

def droppedIn (events : List DrainEvent) : List Nat := events.flatMap DrainEvent.drops

def openingsIn (events : List DrainEvent) : Nat := (events.map DrainEvent.opens).sum

section History

variable (id : Nat) (events : List DrainEvent) (event : DrainEvent)

lemma acknowledgedIn_append_singleton :
    acknowledgedIn id (events ++ [event]) = acknowledgedIn id events + event.acknowledges id := by
  simp [acknowledgedIn, List.sum_append]

lemma drainsIn_append_singleton : drainsIn id (events ++ [event]) = drainsIn id events ++ event.begins id := by
  simp [drainsIn]

lemma droppedIn_append_singleton : droppedIn (events ++ [event]) = droppedIn events ++ event.drops := by
  simp [droppedIn]

lemma openingsIn_append_singleton : openingsIn (events ++ [event]) = openingsIn events + event.opens := by
  simp [openingsIn]

end History

/-- A report of a drain from `source` to `sink` is right. A drain that the force-close signal has interrupted has
forwarded what its source yielded first. -/
def DrainReport.Tells (report : DrainReport) (acknowledged : UInt64) (source : List SourcePart) (sink : Sink) :
    Prop :=
  match report.result with
  | .ok summary => summary.acknowledged = acknowledged ∧ CopyEnds source sink (.ok summary.drained) report.sink
  | .error (.io error) => CopyEnds source sink (.error error) report.sink ∧ report.phase = .forceClosed
  | .error .forceClosed =>
    (∃ past, past <+: source ∧ sink.Takes (bytesIn past) report.sink) ∧ report.phase = .forceClosed

/-- The books of a connection: what was acknowledged on it and the drains that have begun. A drain under way has
forwarded everything so far. -/
def Connection.Booked (c : Connection) (acknowledged : UInt64) (drains : List (List SourcePart × Sink)) : Prop :=
  c.acknowledged = acknowledged ∧
    match c.transfer with
    | none => drains = []
    | some transfer => ∃ source sink, drains = [(source, sink)] ∧ transfer.Forwarded source sink

lemma Connection.Booked.spared {c : Connection} {acknowledged : UInt64} {drains : List (List SourcePart × Sink)}
    (h : c.Booked acknowledged drains) {event : DrainEvent} {id : Nat} (hspares : event.Spares id) :
    c.Booked (acknowledged + event.acknowledges id) (drains ++ event.begins id) := by
  rw [hspares.1, hspares.2, UInt64.add_zero, List.append_nil]
  exact h

lemma Connection.Booked.advance {c : Connection} {acknowledged : UInt64} {drains : List (List SourcePart × Sink)}
    (h : c.Booked acknowledged drains) (phase : DrainPhase) : (c.advance phase).Booked acknowledged drains := by
  unfold Connection.advance
  split
  · exact h
  · exact h

/-- What the books say of a drain under way. -/
lemma Connection.Booked.drain {c : Connection} {acknowledged : UInt64} {drains : List (List SourcePart × Sink)}
    (h : c.Booked acknowledged drains) {transfer : Transfer} (htransfer : c.transfer = some transfer) :
    c.acknowledged = acknowledged ∧
      ∃ source sink, drains = [(source, sink)] ∧ transfer.Forwarded source sink := by
  unfold Connection.Booked at h
  rwa [htransfer] at h

/-- A turn of a drain under way goes on from what the books say. -/
lemma Connection.Booked.goes {c : Connection} {acknowledged : UInt64} {drains : List (List SourcePart × Sink)}
    (h : c.Booked acknowledged drains) {transfer : Transfer} (htransfer : c.transfer = some transfer)
    (now : Moment) :
    c.acknowledged = acknowledged ∧
      ∃ source sink, drains = [(source, sink)] ∧ Transfer.Goes source sink (transfer.turn now) := by
  obtain ⟨hacknowledged, source, sink, hdrains, hforwarded⟩ := h.drain htransfer
  exact ⟨hacknowledged, source, sink, hdrains, Transfer.goes_turn hforwarded now⟩

namespace DrainTracker

/-- What an event does to the connections, their books and the counters. -/
structure Books (s : DrainTracker) (event : DrainEvent) (t : DrainTracker) (records : List Record) : Prop where
  nextId : t.nextId = s.nextId + event.opens
  /-- Connections leave with a report or are dropped. -/
  places : (t.opened.map Connection.id ++ (t.reports.map DrainReport.id ++ event.drops)).Perm
    (s.opened.map Connection.id ++ (s.reports.map DrainReport.id ++ List.range' s.nextId event.opens))
  booked : ∀ d ∈ t.opened, (d.id = s.nextId ∧ d.Booked 0 []) ∨
    ∃ c ∈ s.opened, c.id = d.id ∧ ∀ acknowledged drains, c.Booked acknowledged drains →
      d.Booked (acknowledged + event.acknowledges c.id) (drains ++ event.begins c.id)
  /-- Only open connections are used. -/
  used : ∀ id, id ∉ s.opened.map Connection.id → event.Spares id
  reported : ∀ report ∈ t.reports, report ∈ s.reports ∨ ∃ c ∈ s.opened, c.id = report.id ∧
    event.Spares c.id ∧ ∀ acknowledged drains, c.Booked acknowledged drains →
      ∃ source sink, drains = [(source, sink)] ∧ report.Tells acknowledged source sink
  counted : s.EndsOrSilent t records

variable {s t : DrainTracker} {records : List Record}

/-- All connections stay where they are. -/
lemma Books.of_map {event : DrainEvent} {f : Connection → Connection} (hopened : t.opened = s.opened.map f)
    (hid : ∀ c, (f c).id = c.id) (hreports : t.reports = s.reports) (hnext : t.nextId = s.nextId)
    (hopens : event.opens = 0) (hdrops : event.drops = [])
    (hbooked : ∀ c ∈ s.opened, ∀ acknowledged drains, c.Booked acknowledged drains →
      (f c).Booked (acknowledged + event.acknowledges c.id) (drains ++ event.begins c.id))
    (hused : ∀ id, id ∉ s.opened.map Connection.id → event.Spares id)
    (hsilent : records.filterMap Record.measurement? = []) : s.Books event t records where
  nextId := by rw [hnext, hopens, Nat.add_zero]
  places := by
    have hids : t.opened.map Connection.id = s.opened.map Connection.id := by
      rw [hopened, List.map_map]
      exact List.map_congr_left fun c _ => hid c
    rw [hids, hreports, hopens, hdrops, List.range'_zero]
  booked d hd := by
    rw [hopened] at hd
    obtain ⟨c, hc, rfl⟩ := List.mem_map.mp hd
    exact .inr ⟨c, hc, (hid c).symm, hbooked c hc⟩
  used := hused
  reported report hreport := .inl (hreports ▸ hreport)
  counted := .inr ⟨hreports, raise_nothing hsilent⟩

/-- All connections stay where they are, and nobody uses one. -/
lemma Books.of_neutral {event : DrainEvent} (hneutral : event.Neutral) {f : Connection → Connection}
    (hopened : t.opened = s.opened.map f) (hid : ∀ c, (f c).id = c.id) (hreports : t.reports = s.reports)
    (hnext : t.nextId = s.nextId)
    (hbooked : ∀ c ∈ s.opened, ∀ acknowledged drains, c.Booked acknowledged drains →
      (f c).Booked acknowledged drains)
    (hsilent : records.filterMap Record.measurement? = []) : s.Books event t records :=
  .of_map hopened hid hreports hnext hneutral.opens hneutral.drops
    (fun c hc acknowledged drains h => (hbooked c hc acknowledged drains h).spared (hneutral.spares c.id))
    (fun id _ => hneutral.spares id) hsilent

/-- The connections are not touched. -/
lemma Books.of_same {event : DrainEvent} (hneutral : event.Neutral) (hopened : t.opened = s.opened)
    (hreports : t.reports = s.reports) (hnext : t.nextId = s.nextId) : s.Books event t [] :=
  .of_neutral hneutral (hopened.trans (List.map_id _).symm) (fun _ => rfl) hreports hnext (fun _ _ _ _ h => h) rfl

/-- A connection changes its place. -/
lemma places_of_leave (hids : (s.opened.map Connection.id).Nodup) {c : Connection} (hc : c ∈ s.opened)
    (ended : List Nat) :
    ((s.opened.filter fun d => d.id != c.id).map Connection.id ++ (ended ++ [c.id])).Perm
      (s.opened.map Connection.id ++ ended) := by
  have hothers : (s.opened.filter fun d => d.id != c.id).map Connection.id =
      (s.opened.map Connection.id).erase c.id := by
    rw [hids.erase_eq_filter, List.filter_map]
    rfl
  rw [hothers, ← List.append_assoc]
  refine (List.perm_append_singleton _ _).trans ?_
  rw [← List.cons_append]
  exact (List.perm_cons_erase (List.mem_map_of_mem hc)).symm.append_right ended

/-- A connection leaves with a report. -/
lemma Books.of_conclude (hids : (s.opened.map Connection.id).Nodup) {event : DrainEvent} (hneutral : event.Neutral)
    {c : Connection} (hc : c ∈ s.opened) {transfer : Transfer} (htransfer : c.transfer = some transfer)
    {result : Except DrainError DrainSummary} {last : Sink}
    (htells : ∀ acknowledged drains, c.Booked acknowledged drains →
      ∃ source sink, drains = [(source, sink)] ∧ DrainReport.Tells
        ⟨c.id, result, last, if result.isOk then c.phase else .forceClosed⟩ acknowledged source sink) :
    s.Books event (s.conclude c result last).1 (s.conclude c result last).2 := by
  have hends := s.endsDrain_conclude c result last
  rw [fst_conclude] at hends ⊢
  refine ⟨?_, ?_, fun d hd => ?_, fun id _ => hneutral.spares id, fun report hreport => ?_,
    .inl ⟨c, hc, transfer, result, last, htransfer, hends⟩⟩
  · rw [hneutral.opens, Nat.add_zero]
  · rw [hneutral.opens, hneutral.drops, List.map_append, List.range'_zero, List.append_nil, List.append_nil]
    exact places_of_leave hids hc _
  · exact .inr ⟨d, (List.mem_filter.mp hd).1, rfl, fun acknowledged drains h => h.spared (hneutral.spares d.id)⟩
  · rcases List.mem_append.mp hreport with hold | hnew
    · exact .inl hold
    · obtain rfl := List.mem_singleton.mp hnew
      exact .inr ⟨c, hc, rfl, hneutral.spares c.id, htells⟩

/-- A connection is dropped. -/
lemma Books.of_drop (hids : (s.opened.map Connection.id).Nodup) {c : Connection} (hc : c ∈ s.opened) :
    s.Books (.move (.drop c.id)) (s.release c.id).1 (s.release c.id).2 := by
  rw [fst_release]
  refine ⟨rfl, ?_, fun d hd => ?_, fun id _ => ⟨rfl, rfl⟩, fun report hreport => .inl hreport,
    .inr ⟨rfl, raise_nothing (s.measurements_release c.id)⟩⟩
  · simp only [DrainEvent.drops, DrainEvent.opens, List.range'_zero, List.append_nil]
    exact places_of_leave hids hc _
  · exact .inr ⟨d, (List.mem_filter.mp hd).1, rfl, fun acknowledged drains h => h.spared ⟨rfl, rfl⟩⟩

lemma books_advanceAll (s : DrainTracker) (tag : String) (phase : DrainPhase) {event : DrainEvent}
    (hneutral : event.Neutral) (hsilent : records.filterMap Record.measurement? = []) :
    s.Books event (s.advanceAll tag phase).1 records := by
  refine .of_neutral hneutral rfl (fun c => ?_) rfl rfl (fun c _ acknowledged drains h => ?_) hsilent
  · split
    · exact c.id_advance phase
    · rfl
  · split
    · exact h.advance phase
    · exact h

lemma books_look (s : DrainTracker) (now : Moment) (closing : Closing) {event : DrainEvent}
    (hneutral : event.Neutral) : s.Books event (s.look now closing).1 (s.look now closing).2 := by
  unfold look
  dsimp only
  split
  · refine .of_neutral hneutral rfl (fun c => c.id_advance _) rfl rfl (fun _ _ _ _ h => h.advance _) ?_
    dsimp only
    split <;> rfl
  · exact .of_same hneutral rfl rfl rfl

lemma books_openConnection (s : DrainTracker) (tag : String) :
    s.Books (.openConnection tag) (s.openConnection tag).1 (s.openConnection tag).2.2 := by
  refine ⟨rfl, ?_, fun d hd => ?_, fun id _ => ⟨rfl, rfl⟩, fun report hreport => .inl hreport,
    .inr ⟨rfl, raise_nothing rfl⟩⟩
  · simp only [openConnection, DrainEvent.drops, DrainEvent.opens, List.map_append, List.map_singleton,
      List.range'_one, List.append_nil, List.append_assoc]
    exact List.perm_append_comm.append_left _
  · rcases List.mem_append.mp hd with hold | hnew
    · exact .inr ⟨d, hold, rfl, fun acknowledged drains h => h.spared ⟨rfl, rfl⟩⟩
    · obtain rfl := List.mem_singleton.mp hnew
      exact .inl ⟨rfl, rfl, rfl⟩

/-- The consumer of `c` acknowledges bytes. -/
lemma books_acknowledge (s : DrainTracker) {c : Connection} (hc : c ∈ s.opened) (size : UInt64) :
    s.Books (.move (.acknowledge c.id size)) (s.acknowledge c.id size) [] := by
  refine .of_map rfl (fun d => ?_) rfl rfl rfl rfl (fun d _ acknowledged drains h => ?_) (fun id hid => ?_) rfl
  · split <;> rfl
  · by_cases hsame : d.id = c.id
    · simp only [DrainEvent.acknowledges, DrainEvent.begins, hsame, if_true, List.append_nil]
      exact ⟨congrArg (· + size) h.1, h.2⟩
    · rw [if_neg hsame]
      exact h.spared (DrainEvent.spares_acknowledge (Ne.symm hsame) size)
  · exact DrainEvent.spares_acknowledge (fun heq => hid (List.mem_map.mpr ⟨c, hc, heq⟩)) size

/-- The consumer of `c` gives it to a drain. -/
lemma books_beginDrain (hids : (s.opened.map Connection.id).Nodup) {c : Connection} (hc : c ∈ s.opened)
    (hheld : c.transfer = none) (source : List SourcePart) (sink : Sink) :
    s.Books (.move (.beginDrain c.id source sink)) (s.beginDrain c.id source sink) [] := by
  refine .of_map rfl (fun d => ?_) rfl rfl rfl rfl (fun d hd acknowledged drains h => ?_) (fun id hid => ?_) rfl
  · split <;> rfl
  · by_cases hsame : d.id = c.id
    -- A held connection has no drain yet, so that this is its only one.
    · obtain rfl := List.inj_on_of_nodup_map hids hd hc hsame
      obtain ⟨hacknowledged, hnone⟩ := h
      rw [hheld] at hnone
      obtain rfl : drains = [] := hnone
      simp only [DrainEvent.acknowledges, DrainEvent.begins, if_true, List.nil_append, UInt64.add_zero]
      exact ⟨hacknowledged, source, sink, rfl, Transfer.forwarded_start source sink⟩
    · rw [if_neg hsame]
      exact h.spared (DrainEvent.spares_beginDrain (Ne.symm hsame) source sink)
  · exact DrainEvent.spares_beginDrain (fun heq => hid (List.mem_map.mpr ⟨c, hc, heq⟩)) source sink

/-- The drain of `c` goes on and waits, or it ends. -/
lemma books_turn (hids : (s.opened.map Connection.id).Nodup) {c : Connection} (hc : c ∈ s.opened) (now : Moment) :
    s.Books (.move (.turn now c.id)) (s.turnDrain now c.id).1 (s.turnDrain now c.id).2 := by
  cases htransfer : c.transfer with
  | none =>
    rw [turnDrain_of_held hids hc htransfer]
    exact .of_same ⟨rfl, rfl, fun _ => ⟨rfl, rfl⟩⟩ rfl rfl rfl
  | some transfer =>
    rw [turnDrain_eq (get?_eq hids hc) htransfer]
    cases hturn : transfer.turn now with
    | waits waiting =>
      refine .of_neutral ⟨rfl, rfl, fun _ => ⟨rfl, rfl⟩⟩ rfl (fun d => ?_) rfl rfl
        (fun d hd acknowledged drains h => ?_) rfl
      · split <;> rfl
      · split
        · rename_i hsame
          obtain rfl := List.inj_on_of_nodup_map hids hd hc hsame
          obtain ⟨hacknowledged, source, sink, hdrains, hgoes⟩ := h.goes htransfer now
          rw [hturn] at hgoes
          exact ⟨hacknowledged, source, sink, hdrains, hgoes⟩
        · exact h
    | ends last copied =>
      refine .of_conclude hids ⟨rfl, rfl, fun _ => ⟨rfl, rfl⟩⟩ hc htransfer fun acknowledged drains h => ?_
      obtain ⟨hacknowledged, source, sink, hdrains, hgoes⟩ := h.goes htransfer now
      rw [hturn] at hgoes
      exact ⟨source, sink, hdrains, hacknowledged, hgoes⟩
    | fails last error =>
      refine .of_conclude hids ⟨rfl, rfl, fun _ => ⟨rfl, rfl⟩⟩ hc htransfer fun acknowledged drains h => ?_
      obtain ⟨-, source, sink, hdrains, hgoes⟩ := h.goes htransfer now
      rw [hturn] at hgoes
      exact ⟨source, sink, hdrains, hgoes, rfl⟩

/-- The force-close signal ends the drain of `c`, or there is none. -/
lemma books_interrupt (hids : (s.opened.map Connection.id).Nodup) {c : Connection} (hc : c ∈ s.opened) :
    s.Books (.move (.interrupt c.id)) (s.interruptDrain c.id).1 (s.interruptDrain c.id).2 := by
  cases htransfer : c.transfer with
  | none =>
    rw [interruptDrain_of_held hids hc htransfer]
    exact .of_same ⟨rfl, rfl, fun _ => ⟨rfl, rfl⟩⟩ rfl rfl rfl
  | some transfer =>
    by_cases hforce : s.forceClosing = true
    · rw [interruptDrain_eq hforce (get?_eq hids hc) htransfer]
      refine .of_conclude hids ⟨rfl, rfl, fun _ => ⟨rfl, rfl⟩⟩ hc htransfer fun acknowledged drains h => ?_
      obtain ⟨-, source, sink, hdrains, past, hsource, -, htaken, -⟩ := h.drain htransfer
      exact ⟨source, sink, hdrains, ⟨past, ⟨_, hsource.symm⟩, htaken⟩, rfl⟩
    · rw [interruptDrain_of_unforced hforce]
      exact .of_same ⟨rfl, rfl, fun _ => ⟨rfl, rfl⟩⟩ rfl rfl rfl

/-- The books are kept in every event. -/
theorem books_act? (hids : (s.opened.map Connection.id).Nodup) {event : DrainEvent}
    (happens : s.act? event = some (t, records)) : s.Books event t records := by
  cases event with
  | openConnection tag =>
    cases happens
    exact s.books_openConnection tag
  | markDraining tag =>
    cases happens
    exact s.books_advanceAll tag .draining ⟨rfl, rfl, fun _ => ⟨rfl, rfl⟩⟩ (s.measurements_markDraining tag)
  | retire tag =>
    cases happens
    exact s.books_advanceAll tag .retired ⟨rfl, rfl, fun _ => ⟨rfl, rfl⟩⟩ (s.measurements_retire tag)
  | beginClosing now =>
    obtain ⟨begun, hbegin, heq⟩ := Option.map_eq_some_iff.mp happens
    obtain ⟨deadline, -, rfl⟩ := Option.map_eq_some_iff.mp hbegin
    cases heq
    exact .of_same ⟨rfl, rfl, fun _ => ⟨rfl, rfl⟩⟩ rfl rfl rfl
  | takeClosed ticket =>
    cases happens
    unfold takeClosed
    split <;> exact .of_same ⟨rfl, rfl, fun _ => ⟨rfl, rfl⟩⟩ rfl rfl rfl
  | move move =>
    cases move with
    | acknowledge id size =>
      obtain ⟨c, hc, heq⟩ := Option.map_eq_some_iff.mp happens
      cases heq
      obtain ⟨hget, -⟩ := Option.filter_eq_some_iff.mp hc
      obtain ⟨hopen, rfl⟩ := id_of_get? hget
      exact s.books_acknowledge hopen size
    | beginDrain id source sink =>
      obtain ⟨c, hc, heq⟩ := Option.map_eq_some_iff.mp happens
      cases heq
      obtain ⟨hget, hheld⟩ := Option.filter_eq_some_iff.mp hc
      obtain ⟨hopen, rfl⟩ := id_of_get? hget
      exact books_beginDrain hids hopen (Option.isNone_iff_eq_none.mp hheld) source sink
    | drop id =>
      obtain ⟨c, hc, heq⟩ := Option.map_eq_some_iff.mp happens
      obtain ⟨hopen, rfl⟩ := id_of_get? hc
      have hbooks := Books.of_drop hids hopen
      rwa [heq] at hbooks
    | turn now id =>
      obtain ⟨c, hc, heq⟩ := Option.map_eq_some_iff.mp happens
      obtain ⟨hopen, rfl⟩ := id_of_get? hc
      have hbooks := books_turn hids hopen now
      rwa [heq] at hbooks
    | interrupt id =>
      obtain ⟨c, hc, heq⟩ := Option.map_eq_some_iff.mp happens
      obtain ⟨hopen, rfl⟩ := id_of_get? hc
      have hbooks := books_interrupt hids hopen
      rwa [heq] at hbooks
    | look now ticket =>
      obtain ⟨closing, -, heq⟩ := Option.map_eq_some_iff.mp happens
      have hbooks : s.Books (.move (.look now ticket)) (s.look now closing).1 (s.look now closing).2 :=
        s.books_look now closing ⟨rfl, rfl, fun _ => ⟨rfl, rfl⟩⟩
      rwa [heq] at hbooks

/-- The books of a tracker after some events. -/
structure Accounted (events : List DrainEvent) (t : DrainTracker) : Prop where
  nextId : t.nextId = 1 + openingsIn events
  places : (t.opened.map Connection.id ++ (t.reports.map DrainReport.id ++ droppedIn events)).Perm
    (List.range' 1 (openingsIn events))
  booked : ∀ c ∈ t.opened, c.Booked (acknowledgedIn c.id events) (drainsIn c.id events)
  /-- Ids to come are not used. -/
  unused : ∀ id, t.nextId ≤ id → acknowledgedIn id events = 0 ∧ drainsIn id events = []
  reported : ∀ report ∈ t.reports, ∃ source sink, drainsIn report.id events = [(source, sink)] ∧
    report.Tells (acknowledgedIn report.id events) source sink

namespace Accounted

variable {events : List DrainEvent}

/-- No connection is in two places. -/
lemma nodup (h : t.Accounted events) :
    (t.opened.map Connection.id ++ (t.reports.map DrainReport.id ++ droppedIn events)).Nodup :=
  h.places.nodup_iff.mpr (List.nodup_range' 1)

lemma ids (h : t.Accounted events) : (t.opened.map Connection.id).Nodup := (List.nodup_append.mp h.nodup).1

lemma lt_nextId (h : t.Accounted events) {id : Nat}
    (hid : id ∈ t.opened.map Connection.id ++ (t.reports.map DrainReport.id ++ droppedIn events)) :
    id < t.nextId := by
  rw [h.nextId]
  have hrange := h.places.mem_iff.mp hid
  rw [List.mem_range'_1] at hrange
  exact hrange.2

lemma unused_of_le (h : s.Accounted events) {event : DrainEvent} (hbooks : s.Books event t records) {id : Nat}
    (hid : s.nextId ≤ id) :
    acknowledgedIn id (events ++ [event]) = 0 ∧ drainsIn id (events ++ [event]) = [] := by
  have hnot : id ∉ s.opened.map Connection.id := fun hmem =>
    Nat.not_lt_of_le hid (h.lt_nextId (List.mem_append_left _ hmem))
  obtain ⟨hacknowledged, hdrains⟩ := h.unused id hid
  obtain ⟨hnothing, hnone⟩ := hbooks.used id hnot
  rw [acknowledgedIn_append_singleton, drainsIn_append_singleton, hacknowledged, hdrains, hnothing, hnone]
  exact ⟨rfl, rfl⟩

lemma places_append (h : s.Accounted events) {event : DrainEvent} (hbooks : s.Books event t records) :
    (t.opened.map Connection.id ++ (t.reports.map DrainReport.id ++ droppedIn (events ++ [event]))).Perm
      (List.range' 1 (openingsIn (events ++ [event]))) := by
  rw [openingsIn_append_singleton, ← List.range'_append_1, ← h.nextId, droppedIn_append_singleton]
  -- Both sides have each id as often: the event moves ids from one place to another and adds the new one.
  refine List.perm_iff_count.mpr fun id => ?_
  have hbefore := h.places.count_eq id
  have hstep := hbooks.places.count_eq id
  simp only [List.count_append] at hbefore hstep ⊢
  omega

/-- The books go on with every event. -/
theorem perform? (h : s.Accounted events) {event : DrainEvent} (happens : s.perform? event = some t) :
    t.Accounted (events ++ [event]) := by
  obtain ⟨⟨after, records⟩, hact, rfl⟩ := Option.map_eq_some_iff.mp ((s.map_fst_act? event).trans happens)
  have hbooks := books_act? h.ids hact
  refine ⟨?_, h.places_append hbooks, fun d hd => ?_, fun id hid => ?_, fun report hreport => ?_⟩
  · rw [hbooks.nextId, h.nextId, openingsIn_append_singleton, Nat.add_assoc]
  · rcases hbooks.booked d hd with ⟨hid, hnew⟩ | ⟨c, hc, hid, hcarry⟩
    · obtain ⟨hacknowledged, hdrains⟩ := h.unused_of_le hbooks (Nat.le_of_eq hid.symm)
      rwa [hacknowledged, hdrains]
    · rw [acknowledgedIn_append_singleton, drainsIn_append_singleton, ← hid]
      exact hcarry _ _ (h.booked c hc)
  · refine h.unused_of_le hbooks (Nat.le_trans ?_ hid)
    rw [hbooks.nextId]
    exact Nat.le_add_right _ _
  · rw [acknowledgedIn_append_singleton, drainsIn_append_singleton]
    -- A connection that has its report is not open any more, so that nobody uses it.
    rcases hbooks.reported report hreport with hold | ⟨c, hc, hid, ⟨hnothing, hnone⟩, htells⟩
    · have hnot : report.id ∉ s.opened.map Connection.id := fun hmem =>
        (List.nodup_append.mp h.nodup).2.2 _ hmem _ (List.mem_append_left _ (List.mem_map_of_mem hold)) rfl
      obtain ⟨hnothing, hnone⟩ := hbooks.used _ hnot
      rw [hnothing, hnone, UInt64.add_zero, List.append_nil]
      exact h.reported report hold
    · rw [← hid, hnothing, hnone, UInt64.add_zero, List.append_nil]
      exact htells _ _ (h.booked c hc)

end Accounted

lemma accounted_create (grace : Span) : (create grace).Accounted [] where
  nextId := rfl
  places := .nil
  booked c hc := by cases hc
  unused id _ := ⟨rfl, rfl⟩
  reported report hreport := by cases hreport

/-- The books are right after any events. -/
theorem accounted_of_events {grace : Span} {events : List DrainEvent}
    (h : events.foldlM perform? (create grace) = some t) : t.Accounted events := by
  induction events using List.reverseRecOn generalizing t with
  | nil =>
    cases h
    exact accounted_create grace
  | append_singleton events last ih =>
    rw [List.foldlM_append] at h
    obtain ⟨s, hbefore, hlast⟩ := Option.bind_eq_some_iff.mp h
    rw [List.foldlM_cons] at hlast
    obtain ⟨u, happens, hend⟩ := Option.bind_eq_some_iff.mp hlast
    cases hend
    exact (ih hbefore).perform? happens

end DrainTracker

end OutboundWatch
