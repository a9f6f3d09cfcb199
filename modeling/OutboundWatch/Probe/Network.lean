import OutboundWatch.Probe.Target

/-!
# Networks

What a built target meets when it is probed. A network decides each round trip of each registration of a
target by itself, so nothing is assumed about far ends unless a statement says so.
-/

namespace OutboundWatch

/-- How far ends answer. -/
structure Network where
  /-- The course of one round trip of a target that was registered under a generation. -/
  answer : BuiltTarget → (generation trip : Nat) → RoundTrip

namespace Network

/-- The failure of a round trip on a machine that reaches nothing. -/
def noRoute : BuiltTarget → ProbeFailure
  | .tcp _ => .connect "Network is unreachable (os error 101)"
  | .http url _ => .connect ("error sending request for url (" ++ url.text ++ ")")

/-- The network of a machine that reaches nothing: every round trip fails at once. -/
def unreachable : Network := ⟨fun target _ _ => .finishes Span.zero (some (noRoute target))⟩

/-- A built target as the cycle of one registration probes it. -/
def probeTarget (network : Network) (target : BuiltTarget) (generation : Nat) : ProbeTarget :=
  ⟨target.description, network.answer target generation⟩

end Network

end OutboundWatch
