import OutboundWatch.Numeric.Binary64

/-!
# Lengths of time

A `Span` is a whole number of nanoseconds whose seconds fit in 64 bits. Every operation that could
leave that range says so in its type.
-/

namespace OutboundWatch

def nanosPerMilli : Nat := 1000000

def nanosPerSecond : Nat := 1000000000

/-- A length of time in nanoseconds, less than `2 ^ 64` seconds. -/
structure Span where
  nanos : Nat
  nanos_lt : nanos < 18446744073709551616000000000
  deriving DecidableEq

namespace Span

/-- The first count of nanoseconds that is too long to be a span. -/
def limit : Nat := 18446744073709551616000000000

def zero : Span := ⟨0, by decide⟩

instance : Inhabited Span := ⟨zero⟩

def longest : Span := ⟨limit - 1, by decide⟩

/-- The longest span less `n` nanoseconds. -/
def belowLongest (n : Nat) : Span := ⟨limit - 1 - n, by
  have : limit = 18446744073709551616000000000 := rfl
  omega⟩

def ofNanos? (n : Nat) : Option Span :=
  if h : n < limit then some ⟨n, h⟩ else none

def ofMillis (ms : UInt64) : Span := ⟨ms.toNat * nanosPerMilli, by
  have := ms.toNat_lt
  simp only [nanosPerMilli]
  omega⟩

def ofSeconds (s : UInt64) : Span := ⟨s.toNat * nanosPerSecond, by
  have := s.toNat_lt
  simp only [nanosPerSecond]
  omega⟩

instance : LE Span := ⟨fun a b => a.nanos ≤ b.nanos⟩

instance : LT Span := ⟨fun a b => a.nanos < b.nanos⟩

instance (a b : Span) : Decidable (a ≤ b) := inferInstanceAs (Decidable (a.nanos ≤ b.nanos))

instance (a b : Span) : Decidable (a < b) := inferInstanceAs (Decidable (a.nanos < b.nanos))

theorem ext_nanos {a b : Span} (h : a.nanos = b.nanos) : a = b := by
  cases a; cases b; cases h; rfl

theorem le_def {a b : Span} : a ≤ b ↔ a.nanos ≤ b.nanos := Iff.rfl

theorem lt_def {a b : Span} : a < b ↔ a.nanos < b.nanos := Iff.rfl

def isZero (s : Span) : Bool := s.nanos == 0

def seconds (s : Span) : Nat := s.nanos / nanosPerSecond

def subsecond (s : Span) : Nat := s.nanos % nanosPerSecond

/-- The sum, if it is still a span. -/
def add? (a b : Span) : Option Span := ofNanos? (a.nanos + b.nanos)

/-- The difference, zero when `b` is the longer one. -/
def minus (a b : Span) : Span := ⟨a.nanos - b.nanos, by
  have := a.nanos_lt
  omega⟩

/-- Half the span, rounded down to a nanosecond. -/
def half (s : Span) : Span := ⟨s.nanos / 2, by
  have := s.nanos_lt
  omega⟩

/-- Seconds as a double: the whole seconds and the fraction are rounded first, then their sum. -/
def inSeconds (s : Span) : Binary64 :=
  (Binary64.ofNat s.seconds).addMagnitudes ((Binary64.ofNat s.subsecond).divNat nanosPerSecond)

def inMillis (s : Span) : Binary64 := s.inSeconds.mul (Binary64.ofNat 1000)

/-- The span nearest to a number of seconds, the even nanosecond on a tie. Negative numbers, NaNs and
numbers from `2 ^ 64` on have none. -/
def ofSecondsNearest? (x : Binary64) : Option Span :=
  if x.lt Binary64.zero || !x.isFinite then none
  else ofNanos? (Binary64.roundDiv (x.units * nanosPerSecond) Binary64.unitsPerOne)

/-- The span times a factor, if the product is a span. -/
def scale? (s : Span) (factor : Binary64) : Option Span :=
  ofSecondsNearest? (factor.mul s.inSeconds)

end Span

/-- A point on the monotonic clock: nanoseconds since the clock stood at zero. -/
abbrev Moment := Nat

/-- A calendar time: nanoseconds since the epoch, negative before it. -/
abbrev WallTime := Int

/-- Moments are kept with seconds of 63 bits; later ones cannot be represented. -/
def Moment.limit : Nat := UInt64.size / 2 * nanosPerSecond

/-- The moment a span after `now`, if it can be represented. -/
def Moment.after? (now : Moment) (s : Span) : Option Moment :=
  if now + s.nanos < Moment.limit then some (now + s.nanos) else none

end OutboundWatch
