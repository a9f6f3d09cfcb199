import OutboundWatch.Numeric.Binary64

/-!
# Shortest decimals

The shortest decimal of a double is a point of the coarsest decimal grid that has a point among the
real numbers that round to the double. Of two such points the nearer one is taken, and of two equally
near ones the larger.
-/

namespace OutboundWatch

/-- The number `digits * 10 ^ exponent`. -/
structure Decimal where
  digits : Nat
  exponent : Int

namespace Decimal

/-- Plain notation with at least one digit on each side of the point. -/
def plain (d : Decimal) : List Char :=
  let digits := Nat.toDigits 10 d.digits
  let places := (-d.exponent).toNat
  if places = 0 then digits ++ List.replicate d.exponent.toNat '0' ++ ['.', '0']
  else
    let padded := List.replicate (places + 1 - digits.length) '0' ++ digits
    padded.take (padded.length - places) ++ '.' :: padded.drop (padded.length - places)

end Decimal

/-- The points `p * 10 ^ exponent`; such a point is `p * den / scale` units of a double. -/
structure DecimalGrid where
  exponent : Int

namespace DecimalGrid

def scale (g : DecimalGrid) : Nat := Nat.pow 10 (-g.exponent).toNat

def den (g : DecimalGrid) : Nat := Binary64.unitsPerOne * Nat.pow 10 g.exponent.toNat

end DecimalGrid

namespace Binary64

/-- Whether the point `p` of a grid rounds to the positive finite number `x`. The numbers that do lie
between the midpoints to the neighbours of `x`, which belong to `x` if its pattern is even. -/
def absorbs (x : Binary64) (g : DecimalGrid) (p : Nat) : Bool :=
  let neighbour (magnitude : Nat) : Nat := (ofMagnitude false magnitude).units
  let low := (neighbour (x.magnitude - 1) + x.units) * g.scale
  let high := (x.units + neighbour (x.magnitude + 1)) * g.scale
  let point := 2 * p * g.den
  if x.magnitude % 2 = 0 then decide (low ≤ point) && decide (point ≤ high)
  else decide (low < point) && decide (point < high)

/-- The point of a grid that stands for the positive finite number `x`, if there is one. -/
def onGrid? (x : Binary64) (g : DecimalGrid) : Option Decimal :=
  let below := x.units * g.scale / g.den
  let rest := x.units * g.scale % g.den
  match x.absorbs g below, x.absorbs g (below + 1) with
  | false, false => none
  | true, false => some ⟨below, g.exponent⟩
  | false, true => some ⟨below + 1, g.exponent⟩
  | true, true => some ⟨if g.den ≤ 2 * rest then below + 1 else below, g.exponent⟩

/-- The shortest decimal of a positive finite number. The grids go from `10 ^ 309`, which is larger
than every double, to `10 ^ (-325)`, which is finer than the unit. -/
def shortest (x : Binary64) : Decimal :=
  ((List.range 635).findSome? fun n : Nat => x.onGrid? ⟨309 - (n : Int)⟩).getD ⟨0, 0⟩

/-- The text of a number: its shortest decimal in plain notation. -/
def plainText (x : Binary64) : String :=
  if x.isNaN then "NaN"
  else
    let sign := if x.negative then "-" else ""
    if x.isInfinite then sign ++ "inf"
    else if x.magnitude = 0 then sign ++ "0.0"
    else sign ++ String.ofList (ofMagnitude false x.magnitude).shortest.plain

end Binary64

end OutboundWatch
