import OutboundWatch.Drain.Tracker
import OutboundWatch.Ranking.Table
import OutboundWatch.Selection.Selector

/-!
# Routing

The part of an observatory that new connections see: the ranking, the selector over it, and the tracker
of open connections, which learns when a candidate stops being the held best.
-/

namespace OutboundWatch

structure Routing where
  table : RankingTable
  selector : Selector
  drains : DrainTracker

namespace Routing

def create (margin : SwitchMargin) (grace : Span) : Routing :=
  ⟨RankingTable.empty, Selector.create margin, DrainTracker.create grace⟩

def ranking (r : Routing) : Snapshot := r.table.snapshot

def held (r : Routing) : Option String := r.selector.held

/-- Apply updates to the ranking, and tell whether anything changed. -/
def apply (r : Routing) (batch : List TableUpdate) : Routing × Bool :=
  let (table, changed) := r.table.apply batch
  ({ r with table := table }, changed)

/-- Choose the candidate for new connections and hold it. The connections of a candidate that was held
before and is replaced start draining. -/
def selectBest (r : Routing) : Routing × Option Status × List Record :=
  match r.selector.choose r.ranking with
  | none => (r, none, [])
  | some chosen =>
    let holding := { r with selector := { r.selector with held := some chosen.tag } }
    let rtt := chosen.health.state.measured
    match r.selector.hold chosen.tag with
    | .kept => (r, some chosen, [])
    | .taken => (holding, some chosen, [.notice (.outboundSelected chosen.tag rtt)])
    | .switched previous =>
      let (drains, _, records) := r.drains.markDraining previous
      ({ holding with drains := drains }, some chosen,
        [Record.notice (.outboundChanged previous chosen.tag rtt), .measure .selectionSwitch] ++
          records)

/-- Forget the held best if it is `tag`. -/
def release (r : Routing) (tag : String) : Routing :=
  { r with selector := r.selector.release tag }

end Routing

end OutboundWatch
