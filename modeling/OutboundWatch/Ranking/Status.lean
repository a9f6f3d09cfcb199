import OutboundWatch.Health.State

/-!
# Status of a candidate

What the ranking publishes about one registration of a candidate.
-/

namespace OutboundWatch

/-- The published record of one candidate. A later registration of the same tag has a larger
generation. -/
structure Status where
  tag : String
  generation : Nat
  health : Health
  deriving DecidableEq

namespace Status

/-- The status of a candidate that has just been registered. -/
def untested (tag : String) (generation : Nat) : Status := ⟨tag, generation, Health.fresh⟩

def lastDuration (s : Status) : Span := s.health.state.lastDuration

def label (s : Status) : StateLabel := s.health.state.label

def isUsable (s : Status) : Bool := s.health.state.isUsable

/-- Ranking order: by key, then by tag. -/
def rankLe (a b : Status) : Bool :=
  decide (a.lastDuration.nanos < b.lastDuration.nanos) ||
    (decide (a.lastDuration.nanos = b.lastDuration.nanos) && decide (a.tag ≤ b.tag))

end Status

end OutboundWatch
