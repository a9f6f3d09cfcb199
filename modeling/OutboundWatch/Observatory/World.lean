import OutboundWatch.Probe.Network

/-!
# The world of an observatory

What an observatory depends on and does not decide: the calendar, chance, and the answers of far ends.
-/

namespace OutboundWatch

structure World where
  epoch : WallTime
  /-- Random numbers of `[0, 1)`, in the order in which they are drawn. -/
  chance : Nat → Binary64
  network : Network

end OutboundWatch
