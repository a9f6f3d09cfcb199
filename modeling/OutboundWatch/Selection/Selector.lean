import OutboundWatch.Ranking.Snapshot
import OutboundWatch.Selection.Margin

/-!
# Selection with hysteresis

The selector holds the tag it chose last. A challenger at the head of the ranking replaces it only
if it is in a better class or beats it by more than the margin.
-/

namespace OutboundWatch

/-- The policy and the tag it holds as best. -/
structure Selector where
  margin : SwitchMargin
  held : Option String

/-- What a selection did to the held tag. -/
inductive Hold where
  | kept
  | taken
  | switched (previous : String)
  deriving DecidableEq

namespace Selector

def create (margin : SwitchMargin) : Selector := ⟨margin, none⟩

/-- Whether the incumbent stays although `challenger` heads the ranking. -/
def keeps (s : Selector) (incumbent challenger : Status) : Bool :=
  if incumbent.tag = challenger.tag then true
  else
    match incumbent.health.state, challenger.health.state with
    | .qualified mine, .qualified theirs => !s.margin.exceededBy mine theirs
    | .unqualified _, .unqualified _ => true
    | _, _ => false

/-- The candidate to use now, or none when nothing is usable. -/
def choose (s : Selector) (ranking : Snapshot) : Option Status :=
  match ranking.first? with
  | none => none
  | some challenger =>
    if challenger.isUsable then
      match s.held.bind ranking.get? with
      | some incumbent => some (if s.keeps incumbent challenger then incumbent else challenger)
      | none => some challenger
    else none

/-- What choosing `tag` does to the held one. -/
def hold (s : Selector) (tag : String) : Hold :=
  match s.held with
  | none => .taken
  | some previous => if previous = tag then .kept else .switched previous

/-- Forget the held tag if it is `tag`. -/
def release (s : Selector) (tag : String) : Selector :=
  if s.held = some tag then { s with held := none } else s

end Selector

end OutboundWatch
