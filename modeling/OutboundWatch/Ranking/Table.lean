import OutboundWatch.Ranking.Snapshot
import OutboundWatch.TagMap

/-!
# The ranking table

The table holds one status per tag and the snapshot built from them. Observations and removals name
the generation they belong to and have no effect on any other one, so a late result of an earlier
registration cannot change or resurrect a candidate.
-/

namespace OutboundWatch

/-- A change to the table. -/
inductive TableUpdate where
  | register (tag : String) (generation : Nat)
  | observe (status : Status)
  | remove (tag : String) (generation : Nat)
  deriving DecidableEq

/-- The statuses by tag, and the published ranking of them. -/
structure RankingTable where
  members : TagMap Status
  snapshot : Snapshot

namespace RankingTable

def empty : RankingTable := ⟨TagMap.empty, Snapshot.empty⟩

/-- Whether an update takes effect on the given members. A registration always does. -/
def takesEffect (members : TagMap Status) : TableUpdate → Bool
  | .register _ _ => true
  | .observe status =>
    match members.get? status.tag with
    | some existing => decide (existing.generation = status.generation) && decide (existing ≠ status)
    | none => false
  | .remove tag generation =>
    match members.get? tag with
    | some existing => decide (existing.generation = generation)
    | none => false

/-- The members after an update, which is dropped when it takes no effect. -/
def step (members : TagMap Status) (update : TableUpdate) : TagMap Status :=
  if takesEffect members update then
    match update with
    | .register tag generation => members.insert tag (Status.untested tag generation)
    | .observe status => members.insert status.tag status
    | .remove tag _ => members.erase tag
  else members

/-- The members after a batch, and whether any update of it took effect in its place. -/
def applyAll (members : TagMap Status) : List TableUpdate → TagMap Status × Bool
  | [] => (members, false)
  | update :: rest =>
    let (after, changed) := applyAll (step members update) rest
    (after, takesEffect members update || changed)

/-- Apply a batch and publish one new snapshot if anything changed. -/
def apply (table : RankingTable) (batch : List TableUpdate) : RankingTable × Bool :=
  let (members, changed) := applyAll table.members batch
  if changed then
    (⟨members, Snapshot.build (table.snapshot.version + 1) members.values⟩, true)
  else (table, false)

end RankingTable

end OutboundWatch
