import OutboundWatch.Ranking.Table
import OutboundWatch.Time.Clockwork

/-!
# The feed of the ranking

Updates of the ranking pass through a queue of bounded size. The publisher takes them out in batches and
publishes one snapshot per batch. It ends when the queue is closed and empty, or at the shutdown
signal, and then applies what is still queued.
-/

namespace OutboundWatch

/-- The queue between those who send updates and the one who receives them. -/
structure Feed where
  capacity : Nat
  /-- Accepted updates, the oldest first. -/
  queued : List TableUpdate
  sending : Bool
  receiving : Bool

namespace Feed

def create (capacity : Nat) : Feed := ⟨capacity, [], true, true⟩

def hasRoom (f : Feed) : Bool := decide (f.queued.length < f.capacity)

/-- Accept an update, unless nobody receives it or there is no room for it. -/
def send? (f : Feed) (update : TableUpdate) : Option Feed :=
  if f.receiving && f.sending && f.hasRoom then some { f with queued := f.queued ++ [update] }
  else none

def close (f : Feed) : Feed := { f with sending := false }

/-- Nobody receives any more; what is queued is lost. -/
def abandon (f : Feed) : Feed := { f with receiving := false, queued := [] }

def maxBatch : Nat := 256

/-- Take the oldest updates, up to one batch. -/
def takeBatch (f : Feed) : Feed × List TableUpdate :=
  ({ f with queued := f.queued.drop maxBatch }, f.queued.take maxBatch)

end Feed

/-- Whether the publisher runs. -/
inductive PublisherPhase where
  | starting
  | running
  | ended
  deriving DecidableEq

/-- The publisher, its queue, and whether the shutdown signal has reached it. -/
structure Publisher where
  feed : Feed
  phase : PublisherPhase
  signalled : Bool

namespace Publisher

def create (capacity : Nat) : Publisher := ⟨Feed.create capacity, .starting, false⟩

def isRunning (p : Publisher) : Bool := decide (p.phase ≠ .ended)

def signal (p : Publisher) : Publisher := { p with signalled := true }

/-- End, after which nothing is received. -/
def finish (p : Publisher) : Publisher :=
  { p with feed := p.feed.abandon, phase := .ended }

/-- Send updates in order, and count those that were accepted. -/
def sendAll (p : Publisher) : List TableUpdate → Publisher × Nat
  | [] => (p, 0)
  | update :: rest =>
    match p.feed.send? update with
    | none => sendAll p rest
    | some feed =>
      let (after, sent) := sendAll { p with feed := feed } rest
      (after, sent + 1)

def close (p : Publisher) : Publisher := { p with feed := p.feed.close }

def begin (p : Publisher) : Publisher × List Record :=
  ({ p with phase := .running }, [.notice .publisherStarting])

def publish (p : Publisher) (table : RankingTable) : Publisher × RankingTable × List Record :=
  let (feed, batch) := p.feed.takeBatch
  let (after, changed) := table.apply batch
  ({ p with feed := feed }, after,
    if changed then [.notice (.rankingPublished batch.length after.snapshot.version)] else [])

/-- Follow the shutdown signal: all that is queued is applied at once. -/
def flush (p : Publisher) (table : RankingTable) : Publisher × RankingTable × List Record :=
  (p.finish, (table.apply p.feed.queued).1, [.notice .publisherStopped])

/-- The next thing the publisher has to do, done. -/
def work? (p : Publisher) (table : RankingTable) :
    Option (Publisher × RankingTable × List Record) :=
  match p.phase with
  | .ended => none
  | .starting =>
    let (after, records) := p.begin
    some (after, table, records)
  | .running =>
    if p.signalled then some (p.flush table)
    else if p.feed.queued ≠ [] then some (p.publish table)
    else if p.feed.sending then none
    else some (p.finish, table, [.notice .publisherStopped])

end Publisher

/-- A ranking and the publisher that feeds it. -/
structure PublishedRanking where
  publisher : Publisher
  table : RankingTable

instance : Clockwork PublishedRanking where
  work? _ r := (r.publisher.work? r.table).map fun (publisher, table, records) =>
    (⟨publisher, table⟩, records)
  dueTimes _ := []

end OutboundWatch
