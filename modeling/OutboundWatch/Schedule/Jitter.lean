import OutboundWatch.Time.Span

/-!
# Jitter

Probe intervals are spread over a window, a fraction of the interval, centred on the interval. A draw
is a number of `[0, 1)`, supplied from outside.
-/

namespace OutboundWatch

/-- The window over which an interval is spread. A ratio that is not a number has none, and neither
has a window that is too long for a span. -/
def jitterWindow? (interval : Span) (ratio : Binary64) : Option Span :=
  interval.scale? ratio.clampUnit

def jitteredInterval? (interval : Span) (ratio draw : Binary64) : Option Span :=
  match jitterWindow? interval ratio with
  | none => none
  | some window =>
    if window.isZero then some interval
    else (window.scale? draw).bind fun offset => (interval.minus window.half).add? offset

def initialDelay? (interval : Span) (ratio draw : Binary64) : Option Span :=
  match jitterWindow? interval ratio with
  | none => none
  | some window => if window.isZero then some Span.zero else window.scale? draw

end OutboundWatch
