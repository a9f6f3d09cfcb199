import OutboundWatch.Schedule.Cycle
import OutboundWatch.TagMap

/-!
# The scheduler

All probe cycles share a fixed number of permits. A permit that becomes free goes straight to the cycle
that has waited longest; a cycle that has waited for a whole interval skips its probe. A cycle that is
told to stop gives its permit back and ends, wherever it is.
-/

namespace OutboundWatch

/-- The cycle that runs for a tag. -/
structure RunningCycle where
  id : Nat
  generation : Nat
  deriving DecidableEq

structure Scheduler where
  settings : CycleSettings
  concurrency : Nat
  available : Nat
  /-- The cycles that wait for a permit, the longest waiting first. -/
  waiting : List Nat
  running : TagMap RunningCycle
  /-- The cycles that have not ended, also those that no longer run for a tag. -/
  live : List Cycle
  nextId : Nat
  /-- Random numbers of `[0, 1)`, and how many of them were used. -/
  chance : Nat → Binary64
  drawn : Nat

namespace Scheduler

def create (settings : CycleSettings) (concurrency : Nat) (chance : Nat → Binary64) : Scheduler where
  settings := settings
  concurrency := max concurrency 1
  available := max concurrency 1
  waiting := []
  running := TagMap.empty
  live := []
  nextId := 0
  chance := chance
  drawn := 0

def active (s : Scheduler) : Nat := s.running.size

def inFlight (s : Scheduler) : Nat := s.concurrency - s.available

def get? (s : Scheduler) (id : Nat) : Option Cycle := s.live.find? fun c => c.id == id

def modify (s : Scheduler) (id : Nat) (f : Cycle → Cycle) : Scheduler :=
  { s with live := s.live.map fun c => if c.id = id then f c else c }

def requestStop (s : Scheduler) (id : Nat) : Scheduler := s.modify id ({ · with stopping := true })

def requestStopAll (s : Scheduler) : Scheduler :=
  { s with live := s.live.map ({ · with stopping := true }) }

/-- Start probing a candidate. A cycle that runs for the same tag is told to stop. -/
def spawn (s : Scheduler) (tag : String) (generation : Nat) (target : ProbeTarget) : Scheduler :=
  let replaced := match s.running.get? tag with
    | some previous => s.requestStop previous.id
    | none => s
  { replaced with
    live := replaced.live ++ [Cycle.create s.nextId tag generation target]
    running := s.running.insert tag ⟨s.nextId, generation⟩
    nextId := s.nextId + 1 }

/-- Stop probing a tag, and tell whether it was probed. -/
def cancel (s : Scheduler) (tag : String) : Scheduler × Bool × List Record :=
  match s.running.get? tag with
  | some current =>
    ({ s.requestStop current.id with running := s.running.erase tag }, true,
      [.notice (.cycleCancelled tag current.generation)])
  | none => (s, false, [])

def dismissAll (s : Scheduler) : Scheduler :=
  let told := s.running.values.foldl (fun acc current => acc.requestStop current.id) s
  { told with running := TagMap.empty }

def draw (s : Scheduler) : Scheduler × Binary64 :=
  ({ s with drawn := s.drawn + 1 }, s.chance s.drawn)

/-- Give a permit back: the cycle that has waited longest begins its round trip at once. -/
def returnPermit (s : Scheduler) (now : Moment) : Scheduler :=
  match s.waiting with
  | [] => { s with available := s.available + 1 }
  | next :: others => { s.modify next (·.probeFrom now) with waiting := others }

/-- Take a cycle out, with its permit or its place in the queue. -/
def remove (s : Scheduler) (now : Moment) (c : Cycle) : Scheduler :=
  let rest := { s with
    live := s.live.filter fun other => other.id != c.id
    waiting := s.waiting.filter (· != c.id) }
  if c.holdsPermit then rest.returnPermit now else rest

def exit (s : Scheduler) (now : Moment) (c : Cycle) : Scheduler × List Record :=
  (s.remove now c, [.notice (.cycleStopped c.tag)])

/-- A cycle begins: it sleeps for a part of the jitter window. A cycle whose pauses cannot be computed
comes to nothing. -/
def begin (s : Scheduler) (now : Moment) (c : Cycle) : Scheduler × List Record :=
  let (drawn, chance) := s.draw
  match initialDelay? s.settings.interval s.settings.jitterRatio chance with
  | none => (s.remove now c, [])
  | some pause =>
    (drawn.modify c.id fun c => { c with pause := pause }.sleepFrom now,
      [.notice (.cycleStarting c.tag c.target.description)])

/-- A sleep is over: the pause after the coming probe is drawn, and the cycle takes a permit or waits for
one, for one interval at most. -/
def wake (s : Scheduler) (now : Moment) (c : Cycle) : Scheduler × List Record :=
  let (drawn, chance) := s.draw
  match jitteredInterval? s.settings.interval s.settings.jitterRatio chance with
  | none => (s.remove now c, [])
  | some pause =>
    if s.available = 0 then
      ({ drawn.modify c.id fun c =>
          { c with pause := pause, stage := .queued (now + s.settings.interval.nanos) } with
        waiting := s.waiting ++ [c.id] }, [])
    else
      ({ drawn.modify c.id fun c => { c with pause := pause }.probeFrom now with
        available := s.available - 1 }, [])

def skip (s : Scheduler) (now : Moment) (c : Cycle) : Scheduler × List Record :=
  ({ s.modify c.id (·.sleepFrom now) with waiting := s.waiting.filter (· != c.id) },
    [.notice (.probeSkipped c.tag), .measure (.skipped c.tag)])

/-- A round trip is over: the permit goes back and the result is classified. -/
def complete (s : Scheduler) (now : Moment) (trip : RoundTrip) (c : Cycle) :
    Scheduler × List Record :=
  let (after, records) := c.finishTrip s.settings now trip
  ((s.modify c.id fun _ => after).returnPermit now, records)

/-- A status was accepted; the cycle sleeps. -/
def reported (s : Scheduler) (now : Moment) (c : Cycle) : Scheduler := s.modify c.id (·.sleepFrom now)

/-- The first cycle that has a status to report, and the status. -/
def report? (s : Scheduler) : Option (Cycle × Status) :=
  s.live.findSome? fun c =>
    match c.stage with
    | .reporting status => if c.stopping then none else some (c, status)
    | _ => none

def goOn (s : Scheduler) (now : Moment) (c : Cycle) : Scheduler × List Record :=
  match c.stage with
  | .starting => s.begin now c
  | .sleeping _ => s.wake now c
  | .queued _ => s.skip now c
  | .probing trip _ => s.complete now trip c
  | .reporting _ => (s, [])

/-- What a cycle does when the end of its stage has come: one that was told to stop ends, another one goes
on. -/
def act (s : Scheduler) (now : Moment) (c : Cycle) : Scheduler × List Record :=
  if c.stopping then s.exit now c else s.goOn now c

/-- Whether a cycle has something to do that needs nobody else. -/
def isDue (s : Scheduler) (now : Moment) (c : Cycle) : Bool :=
  c.stopping ||
    match c.stage with
    | .starting => true
    | _ => (c.dueAt s.settings).any (· ≤ now)

/-- The first thing that a cycle has to do, done. Cycles that stop come first, then ended round trips,
so that their permits are there for the others. -/
def work? (s : Scheduler) (now : Moment) : Option (Scheduler × List Record) :=
  let due := s.live.filter (s.isDue now)
  let first := ((due.find? Cycle.stopping).or (due.find? Cycle.holdsPermit)).or due.head?
  first.map fun c => s.act now c

def dueTimes (s : Scheduler) : List Moment := s.live.filterMap (Cycle.dueAt s.settings)

end Scheduler

end OutboundWatch
