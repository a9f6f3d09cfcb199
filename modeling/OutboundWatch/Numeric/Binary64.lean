/-!
# Double-precision numbers

The 64-bit binary interchange format, kept as a bit pattern and computed with in exact integer
arithmetic, so that nothing about it is hidden from a proof. A finite number is a whole count of
`units`, the unit being `2 ^ (-1074)`, and every operation rounds its exact result once, to the
nearest number and to the even pattern on a tie.
-/

namespace OutboundWatch

/-- A double-precision number, as its bit pattern. -/
structure Binary64 where
  bits : UInt64
  deriving DecidableEq, Inhabited, Repr

namespace Binary64

def nan : Binary64 := ⟨0x7ff8000000000000⟩

def signMask : Nat := 0x8000000000000000

/-- The magnitude pattern of infinity; larger magnitudes are NaNs. -/
def infinityMagnitude : Nat := 0x7ff0000000000000

def patternsPerExponent : Nat := 0x10000000000000

/-- The number with the given sign and magnitude pattern. -/
def ofMagnitude (negative : Bool) (magnitude : Nat) : Binary64 :=
  ⟨UInt64.ofNat (if negative then signMask + magnitude else magnitude)⟩

def infinity (negative : Bool) : Binary64 := ofMagnitude negative infinityMagnitude

def zero : Binary64 := ⟨0⟩

def negative (x : Binary64) : Bool := decide (signMask ≤ x.bits.toNat)

/-- The bit pattern without its sign. Magnitudes are ordered as the numbers they stand for. -/
def magnitude (x : Binary64) : Nat := x.bits.toNat % signMask

def isNaN (x : Binary64) : Bool := decide (infinityMagnitude < x.magnitude)

def isInfinite (x : Binary64) : Bool := decide (x.magnitude = infinityMagnitude)

def isFinite (x : Binary64) : Bool := decide (x.magnitude < infinityMagnitude)

/-- The absolute value of a finite number, counted in units of `2 ^ (-1074)`. -/
def units (x : Binary64) : Nat :=
  let exponent := x.magnitude / patternsPerExponent
  let fraction := x.magnitude % patternsPerExponent
  if exponent = 0 then fraction else (patternsPerExponent + fraction) <<< (exponent - 1)

def unitsPerOne : Nat := 1 <<< 1074

/-- The whole number nearest to `num / den`, the even one on a tie. -/
def roundDiv (num den : Nat) : Nat :=
  let q := num / den
  let r := num % den
  if den < 2 * r ∨ (2 * r = den ∧ q % 2 = 1) then q + 1 else q

/-- The magnitude pattern nearest to `num / den` units; infinity beyond the largest number.

The pattern of `q * 2 ^ k` units with `2 ^ 52 ≤ q` is `k * 2 ^ 52 + q`, and a carry of the rounding
into `q = 2 ^ 53` lands on the pattern of the next power of two. -/
def nearestMagnitude (num den : Nat) : Nat :=
  let k := Nat.log2 (num / den) - 52
  min (k * patternsPerExponent + roundDiv num (den <<< k)) infinityMagnitude

/-- The number nearest to `num / den`, for a positive `den`. -/
def ofRatio (negative : Bool) (num den : Nat) : Binary64 :=
  ofMagnitude negative (nearestMagnitude (num * unitsPerOne) den)

def ofNat (n : Nat) : Binary64 := ofRatio false n 1

def ofInt (n : Int) : Binary64 := ofRatio (decide (n < 0)) n.natAbs 1

/-- The nearest number to `digits * 10 ^ exponent`. Exponents that decide the result by themselves
are cut off before any power is computed. -/
def ofDecimal (negative : Bool) (digits : Nat) (exponent : Int) : Binary64 :=
  if digits = 0 then ofMagnitude negative 0
  else
    let places : Int := exponent + (Nat.log2 digits * 30103 / 100000 : Nat)
    if 400 < places then infinity negative
    else if places < -400 then ofMagnitude negative 0
    else if 0 ≤ exponent then ofRatio negative (digits * Nat.pow 10 exponent.toNat) 1
    else ofRatio negative digits (Nat.pow 10 (-exponent).toNat)

/-- Position in the order of the numbers: both zeros stand at the same place. -/
def orderKey (x : Binary64) : Int :=
  if x.negative then -(x.magnitude : Int) else x.magnitude

/-- Strict comparison; false as soon as one side is a NaN. -/
def lt (x y : Binary64) : Bool :=
  !x.isNaN && !y.isNaN && decide (x.orderKey < y.orderKey)

/-- Comparison; false as soon as one side is a NaN. -/
def le (x y : Binary64) : Bool :=
  !x.isNaN && !y.isNaN && decide (x.orderKey ≤ y.orderKey)

/-- Numeric equality: the zeros are equal, a NaN equals nothing. -/
def same (x y : Binary64) : Bool :=
  !x.isNaN && !y.isNaN && decide (x.orderKey = y.orderKey)

def mul (x y : Binary64) : Binary64 :=
  let sign := x.negative != y.negative
  if x.isNaN || y.isNaN then nan
  else if x.isInfinite || y.isInfinite then
    if x.magnitude = 0 ∨ y.magnitude = 0 then nan else infinity sign
  else ofRatio sign (x.units * y.units) (unitsPerOne * unitsPerOne)

def addMagnitudes (x y : Binary64) : Binary64 :=
  ofRatio false (x.units + y.units) unitsPerOne

def divNat (x : Binary64) (n : Nat) : Binary64 :=
  ofRatio x.negative x.units (unitsPerOne * n)

def one : Binary64 := ofNat 1

/-- The nearest number of the closed unit interval; a NaN stays one. -/
def clampUnit (x : Binary64) : Binary64 :=
  if x.lt zero then zero else if one.lt x then one else x

/-- Membership in `[0, 1)`; no NaN is a member. -/
def inUnitInterval (x : Binary64) : Bool := zero.le x && x.lt one

end Binary64

end OutboundWatch
