import OutboundWatch.Time.Span

/-!
# The text of a span

The largest unit of which the span holds at least one is used, and the fraction is written with as
few digits as it needs: `1.5s`, `30ms`, `999.999µs`, `0ns`.
-/

namespace OutboundWatch.Span

/-- The last `width` decimal digits of `n`, leading zeros included. -/
def paddedDigits (width n : Nat) : List Char :=
  match width with
  | 0 => []
  | w + 1 => paddedDigits w (n / 10) ++ [Nat.digitChar (n % 10)]

/-- The digits of a fraction of `width` places without its trailing zeros. -/
def fractionDigits (width n : Nat) : List Char :=
  ((paddedDigits width n).reverse.dropWhile (· == '0')).reverse

/-- `whole` and a fraction of `width` places. -/
def decimal (whole width fraction : Nat) : String :=
  let digits := fractionDigits width fraction
  if digits.isEmpty then toString whole else toString whole ++ "." ++ String.ofList digits

def text (s : Span) : String :=
  let n := s.nanos
  if nanosPerSecond ≤ n then decimal (n / nanosPerSecond) 9 (n % nanosPerSecond) ++ "s"
  else if nanosPerMilli ≤ n then decimal (n / nanosPerMilli) 6 (n % nanosPerMilli) ++ "ms"
  else if 1000 ≤ n then decimal (n / 1000) 3 (n % 1000) ++ "µs"
  else toString n ++ "ns"

def optionText : Option Span → String
  | some s => "Some(" ++ s.text ++ ")"
  | none => "None"

end OutboundWatch.Span
