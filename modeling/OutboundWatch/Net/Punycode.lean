/-!
# Punycode

The bootstring encoding of RFC 3492. The code points beyond ASCII are written in ascending order as
differences; every difference is a number in base 36 whose digits have thresholds that follow a bias.
-/

namespace OutboundWatch.Punycode

def base : Nat := 36

def digitChar (d : Nat) : Char :=
  if d < 26 then Char.ofNat ('a'.toNat + d) else Char.ofNat ('0'.toNat + (d - 26))

/-- The value of a digit, in either case. -/
def digitValue? (c : Char) : Option Nat :=
  if 'a' ≤ c ∧ c ≤ 'z' then some (c.toNat - 'a'.toNat)
  else if 'A' ≤ c ∧ c ≤ 'Z' then some (c.toNat - 'A'.toNat)
  else if '0' ≤ c ∧ c ≤ '9' then some (c.toNat - '0'.toNat + 26)
  else none

/-- The threshold of the digit at weight `k`. -/
def threshold (k bias : Nat) : Nat :=
  if k ≤ bias then 1 else if bias + 26 ≤ k then 26 else k - bias

theorem threshold_pos (k bias : Nat) : 0 < threshold k bias := by
  unfold threshold
  split
  · omega
  · split <;> omega

/-- Divide a difference by 35 until it is at most 455, and count 36 for each division. -/
def shrink (delta k : Nat) : Nat × Nat :=
  if 455 < delta then shrink (delta / 35) (k + base) else (delta, k)
termination_by delta
decreasing_by exact Nat.div_lt_self (by omega) (by omega)

def adapt (delta count : Nat) (isFirst : Bool) : Nat :=
  let scaled := if isFirst then delta / 700 else delta / 2
  let (rest, k) := shrink (scaled + scaled / count) 0
  k + base * rest / (rest + 38)

def differenceDigits (bias k q : Nat) : List Char :=
  let t := threshold k bias
  if q < t then [digitChar q]
  else digitChar (t + (q - t) % (base - t)) ::
    differenceDigits bias (k + base) ((q - t) / (base - t))
termination_by q
decreasing_by
  have pos := threshold_pos k bias
  calc (q - threshold k bias) / (base - threshold k bias)
      ≤ q - threshold k bias := Nat.div_le_self _ _
    _ < q := by omega

/-- The encoder between two code points. -/
structure Encoder where
  /-- The digits so far, in reverse. -/
  written : List Char
  delta : Nat
  bias : Nat
  handled : Nat

/-- Look at one character of the text while code point `m` is being inserted. -/
def Encoder.visit (basicCount m : Nat) (e : Encoder) (c : Char) : Encoder :=
  if c.toNat < m then { e with delta := e.delta + 1 }
  else if c.toNat = m then
    { written := (differenceDigits e.bias base e.delta).reverse ++ e.written
      delta := 0
      bias := adapt e.delta (e.handled + 1) (e.handled == basicCount)
      handled := e.handled + 1 }
  else e

/-- The distinct code points beyond ASCII, in ascending order. -/
def extendedCodes (cs : List Char) : List Nat :=
  (((cs.map Char.toNat).filter (0x80 ≤ ·)).mergeSort (· ≤ ·)).eraseReps

/-- The encoded form of a text, without a sign before it. -/
def encode (cs : List Char) : List Char :=
  let basic := cs.filter (·.toNat < 0x80)
  let start : Encoder := ⟨[], 0, 72, basic.length⟩
  let (final, _) := (extendedCodes cs).foldl
    (fun (e, n) m =>
      let e := { e with delta := e.delta + (m - n) * (e.handled + 1) }
      let e := cs.foldl (Encoder.visit basic.length m) e
      ({ e with delta := e.delta + 1 }, m + 1))
    (start, 0x80)
  basic ++ (if basic = [] then [] else ['-']) ++ final.written.reverse

/-- The basic characters and the digits of an encoded form, which the last hyphen separates. A hyphen
with nothing before it separates nothing. -/
def splitAtLastHyphen (cs : List Char) : List Char × List Char :=
  let digits := (cs.reverse.takeWhile (· ≠ '-')).reverse
  match cs.take (cs.length - digits.length - 1) with
  | [] => ([], cs)
  | basic => (basic, digits)

/-- The decoder between two digits: `place` is where the difference began, `weight` the weight of the
next digit and `k` its position. -/
structure Decoder where
  text : List Char
  code : Nat
  bias : Nat
  place : Nat
  index : Nat
  weight : Nat
  k : Nat

/-- Read one digit. A digit below its threshold ends a difference and inserts a character; numbers
beyond 32 bits and code points that are no characters are refused. -/
def Decoder.read (d : Decoder) (c : Char) : Option Decoder := do
  let digit ← digitValue? c
  let index := d.index + digit * d.weight
  guard (index < UInt32.size)
  let t := threshold d.k d.bias
  if digit < t then
    let count := d.text.length + 1
    let code := d.code + index / count
    let place := index % count
    guard (code.isValidChar)
    return { text := d.text.take place ++ [Char.ofNat code] ++ d.text.drop place
             code := code
             bias := adapt (index - d.place) count (d.place == 0)
             place := place + 1, index := place + 1, weight := 1, k := base }
  else
    let weight := d.weight * (base - t)
    guard (weight < UInt32.size)
    return { d with index := index, weight := weight, k := d.k + base }

def decode? (cs : List Char) : Option (List Char) := do
  let (basic, digits) := splitAtLastHyphen cs
  guard (basic.all (·.toNat < 0x80))
  let start : Decoder := ⟨basic, 0x80, 72, 0, 0, 1, base⟩
  let final ← digits.foldlM Decoder.read start
  guard (final.k = base)
  return final.text

end OutboundWatch.Punycode
