import OutboundWatch.Time.Span

/-!
# Switch margins

How much faster a challenger has to be before it replaces the candidate that is held as best.
-/

namespace OutboundWatch

inductive SwitchMargin where
  | relative (ratio : Binary64)
  | absoluteMs (ms : UInt64)
  deriving DecidableEq

/-- Whether `challenger` beats `incumbent` by strictly more than the margin. A fraction is compared in
seconds as doubles, a fixed margin exactly. -/
def SwitchMargin.exceededBy (margin : SwitchMargin) (incumbent challenger : Span) : Bool :=
  if incumbent ≤ challenger then false
  else
    let gain := incumbent.minus challenger
    match margin with
    | .relative ratio => (incumbent.inSeconds.mul ratio).lt gain.inSeconds
    | .absoluteMs ms => decide (Span.ofMillis ms < gain)

end OutboundWatch
