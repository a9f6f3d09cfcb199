import OutboundWatch.Drain.Connection
import OutboundWatch.Time.Clockwork

/-!
# The drain tracker

The tracker knows every connection that has not been released. Demoting or removing a candidate moves
the phases of its connections. A closing waits until nothing is open or its grace is over, looking
every 50 milliseconds, and then force-closes what is left.
-/

namespace OutboundWatch

/-- A closing that is still waiting. -/
structure Closing where
  ticket : Nat
  deadline : Moment
  nextLook : Moment

structure DrainTracker where
  grace : Span
  /-- Connections that were opened and not yet released, in order of opening. -/
  opened : List Connection
  nextId : Nat
  /-- Whether the force-close signal was given. It is never taken back. -/
  forceClosing : Bool
  closings : List Closing
  nextTicket : Nat
  /-- Ended closings that nobody has asked about: ticket and number of forced connections. -/
  closed : List (Nat × Nat)
  reports : List DrainReport

namespace DrainTracker

def lookEvery : Nat := 50 * nanosPerMilli

def create (grace : Span) : DrainTracker := ⟨grace, [], 1, false, [], 0, [], []⟩

def openCount (t : DrainTracker) : Nat := t.opened.length

/-- The number of open connections routed to `tag`. -/
def openFor (t : DrainTracker) (tag : String) : Nat := t.opened.countP fun c => c.tag == tag

def get? (t : DrainTracker) (id : Nat) : Option Connection := t.opened.find? fun c => c.id == id

/-- The connection, if its consumer still holds it. -/
def held? (t : DrainTracker) (id : Nat) : Option Connection := (t.get? id).filter Connection.isHeld

def modify (t : DrainTracker) (id : Nat) (f : Connection → Connection) : DrainTracker :=
  { t with opened := t.opened.map fun c => if c.id = id then f c else c }

/-- Open a connection routed to `tag`. -/
def openConnection (t : DrainTracker) (tag : String) : DrainTracker × Nat × List Record :=
  ({ t with
      opened := t.opened ++ [⟨t.nextId, tag, .active, 0, none⟩]
      nextId := t.nextId + 1 },
    t.nextId, [.notice (.connectionOpened t.nextId tag)])

/-- Release a connection: its consumer has dropped it or its drain has ended. -/
def release (t : DrainTracker) (id : Nat) : DrainTracker × List Record :=
  if t.opened.any fun c => c.id == id then
    ({ t with opened := t.opened.filter fun c => c.id != id }, [.notice (.connectionReleased id)])
  else (t, [])

/-- Move the connections of `tag` to `phase` and count those that moved. -/
def advanceAll (t : DrainTracker) (tag : String) (phase : DrainPhase) : DrainTracker × Nat :=
  ({ t with opened := t.opened.map fun c => if c.tag = tag then c.advance phase else c },
    t.opened.countP fun c => c.tag == tag && c.isBefore phase)

def markDraining (t : DrainTracker) (tag : String) : DrainTracker × Nat × List Record :=
  let (after, moved) := t.advanceAll tag .draining
  (after, moved, if moved = 0 then [] else [.notice (.connectionsDraining tag moved)])

def retire (t : DrainTracker) (tag : String) : DrainTracker × Nat × List Record :=
  let (after, moved) := t.advanceAll tag .retired
  (after, moved, if moved = 0 then [] else [.notice (.connectionsRetiring tag moved)])

def acknowledge (t : DrainTracker) (id : Nat) (size : UInt64) : DrainTracker :=
  t.modify id (·.acknowledge size)

def beginDrain (t : DrainTracker) (id : Nat) (source : List SourcePart) (sink : Sink) :
    DrainTracker :=
  t.modify id fun c => { c with transfer := some (Transfer.start source sink) }

/-- End the drain of a connection with a report and release the connection. A drain that did not complete
leaves the connection force-closed. -/
def conclude (t : DrainTracker) (c : Connection) (result : Except DrainError DrainSummary)
    (sink : Sink) : DrainTracker × List Record :=
  let records :=
    match result with
    | .ok summary =>
      [Record.measure (.drained c.tag summary.drained),
        .notice (.connectionDrained c.id c.tag summary.acknowledged summary.drained)]
    | .error (.io error) =>
      [.measure (.drainError c.tag), .notice (.drainFailed c.id c.tag error.text)]
    | .error .forceClosed =>
      [.measure (.drainError c.tag), .notice (.drainInterrupted c.id c.tag)]
  let last := if result.isOk then c else c.advance .forceClosed
  let (after, released) := t.release c.id
  ({ after with reports := after.reports ++ [⟨c.id, result, sink, last.phase⟩] },
    records ++ released)

def turnDrain (t : DrainTracker) (now : Moment) (id : Nat) : DrainTracker × List Record :=
  match t.get? id with
  | none => (t, [])
  | some c =>
    match c.transfer with
    | none => (t, [])
    | some transfer =>
      match transfer.turn now with
      | .waits waiting => (t.modify id fun c => { c with transfer := some waiting }, [])
      | .ends sink copied => t.conclude c (.ok ⟨c.acknowledged, copied⟩) sink
      | .fails sink error => t.conclude c (.error (.io error)) sink

/-- The drain of a connection notices the force-close signal. -/
def interruptDrain (t : DrainTracker) (id : Nat) : DrainTracker × List Record :=
  if t.forceClosing then
    match t.get? id with
    | none => (t, [])
    | some c =>
      match c.transfer with
      | none => (t, [])
      | some transfer => t.conclude c (.error .forceClosed) transfer.sink
  else (t, [])

def collect (t : DrainTracker) (id : Nat) : DrainTracker × Option DrainReport :=
  match t.reports.find? fun r => r.id == id with
  | none => (t, none)
  | some report => ({ t with reports := t.reports.filter fun r => r.id != id }, some report)

/-- Start a closing. There is none if the end of its grace cannot be represented. -/
def beginClosing? (t : DrainTracker) (now : Moment) : Option (DrainTracker × Nat) :=
  (now.after? t.grace).map fun deadline =>
    ({ t with
        closings := t.closings ++ [⟨t.nextTicket, deadline, now⟩]
        nextTicket := t.nextTicket + 1 },
      t.nextTicket)

/-- Force-close everything that is open, and count what was not force-closed before. -/
def forceClose (t : DrainTracker) : DrainTracker × Nat :=
  ({ t with
      opened := t.opened.map (·.advance .forceClosed)
      forceClosing := true },
    t.opened.countP (·.isBefore .forceClosed))

def look (t : DrainTracker) (now : Moment) (closing : Closing) : DrainTracker × List Record :=
  let others := t.closings.filter fun c => c.ticket != closing.ticket
  if t.opened.isEmpty || decide (closing.deadline ≤ now) then
    let (forcedTracker, forced) := t.forceClose
    ({ forcedTracker with
        closings := others
        closed := forcedTracker.closed ++ [(closing.ticket, forced)] },
      if forced = 0 then [] else [.notice (.connectionsForced forced t.grace)])
  else
    ({ t with closings := others ++ [{ closing with nextLook := now + lookEvery }] }, [])

/-- The number of forced connections of an ended closing, which is then forgotten. -/
def takeClosed (t : DrainTracker) (ticket : Nat) : DrainTracker × Option Nat :=
  match t.closed.lookup ticket with
  | none => (t, none)
  | some forced => ({ t with closed := t.closed.filter fun c => c.1 != ticket }, some forced)

/-- The first thing that the tracker has to do at `now`, done. A drain that can go on does so before it notices
the force-close signal. -/
def work? (t : DrainTracker) (now : Moment) : Option (DrainTracker × List Record) :=
  match t.closings.find? fun c => decide (c.nextLook ≤ now) with
  | some closing => some (t.look now closing)
  | none =>
    match t.opened.find? fun c => c.transfer.any (·.isDue now) with
    | some c => some (t.turnDrain now c.id)
    | none =>
      match t.opened.find? fun c => t.forceClosing && !c.isHeld with
      | some c => some (t.interruptDrain c.id)
      | none => none

/-- The moments at which the tracker has something to do. -/
def dueTimes (t : DrainTracker) : List Moment :=
  t.closings.map (·.nextLook) ++
    t.opened.filterMap fun c => c.transfer.bind (·.resumeAt)

instance : Clockwork DrainTracker := ⟨fun now t => t.work? now, dueTimes⟩

end DrainTracker

end OutboundWatch
