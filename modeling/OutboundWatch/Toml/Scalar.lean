import OutboundWatch.Toml.Text
import OutboundWatch.Toml.Value

/-!
# Scalars

Numbers, truth values, dates and times. Integers have 64 bits and a sign.
-/

namespace OutboundWatch.Toml

open Reader

/-- Digits, between which single underscores may stand. -/
def digitRun (isDigit : Char → Bool) : Reader (List Char) := do
  let first ← oneOf isDigit
  let others ← many (do
    let _ ← optional (exactly '_')
    oneOf isDigit)
  return first :: others

/-- The digits of a whole number, without a zero in front of others. -/
def wholeDigits : Reader (List Char) :=
  (do exactly '0'; return ['0']) <|> digitRun Char.isDigit

/-- Whether a minus sign stands in front; a plus sign may stand there as well. -/
def sign : Reader Bool :=
  (do exactly '-'; return true) <|> (do let _ ← optional (exactly '+'); return false)

/-- An integer, if it has 64 bits. -/
def integer? (negative : Bool) (n : Nat) : Reader Value :=
  if negative then if n ≤ UInt64.size / 2 then return .integer (-(n : Int)) else failure
  else if n < UInt64.size / 2 then return .integer n
  else failure

def basedInteger : Reader Value := do
  exactly '0'
  let base ← match ← oneOf fun _ => true with
    | 'x' => pure 16
    | 'o' => pure 8
    | 'b' => pure 2
    | _ => failure
  let digits ← digitRun fun c => (hexValue? c).any (· < base)
  integer? false (numberOfDigits base digits)

def exponent : Reader Int := do
  let _ ← oneOf fun c => c == 'e' || c == 'E'
  let negative ← sign
  let n := numberOfDigits 10 (← digitRun Char.isDigit)
  return if negative then -(n : Int) else n

/-- A decimal number; a point or an exponent makes it a float. A float may be too large only downwards. -/
def decimal : Reader Value := do
  let negative ← sign
  let whole ← wholeDigits
  let places ← optional (do exactly '.'; digitRun Char.isDigit)
  let power ← optional exponent
  if places.isNone && power.isNone then integer? negative (numberOfDigits 10 whole)
  else
    let places := places.getD []
    let x := Binary64.ofDecimal negative (numberOfDigits 10 (whole ++ places))
      (power.getD 0 - places.length)
    if x.isInfinite && !negative then failure else return .float x

def floatWord : Reader Value := do
  let negative ← sign
  let magnitude ← (do all "inf"; return Binary64.infinityMagnitude) <|>
    (do all "nan"; return Binary64.nan.magnitude)
  return .float (Binary64.ofMagnitude negative magnitude)

def boolean : Reader Value :=
  (do all "true"; return .boolean true) <|> (do all "false"; return .boolean false)

/-! ### Dates and times -/

def bounded (digits low high : Nat) : Reader Nat := do
  let n := numberOfDigits 10 (← times (oneOf Char.isDigit) digits)
  if low ≤ n ∧ n ≤ high then return n else failure

def isLeapYear (year : Nat) : Bool := year % 4 == 0 && (year % 100 != 0 || year % 400 == 0)

def daysOfMonth (year month : Nat) : Nat :=
  if month = 2 then if isLeapYear year then 29 else 28
  else if month = 4 ∨ month = 6 ∨ month = 9 ∨ month = 11 then 30
  else 31

def date : Reader Unit := do
  let year ← bounded 4 0 9999
  exactly '-'
  let month ← bounded 2 1 12
  exactly '-'
  let _ ← bounded 2 1 (daysOfMonth year month)

/-- A time of day. A minute may have a leap second. -/
def timeOfDay : Reader Unit := do
  let _ ← bounded 2 0 23
  exactly ':'
  let _ ← bounded 2 0 59
  exactly ':'
  let _ ← bounded 2 0 60
  let _ ← optional (do exactly '.'; let _ ← oneOf Char.isDigit; runOf Char.isDigit)

def offset : Reader Unit :=
  (do let _ ← oneOf fun c => c == 'Z' || c == 'z') <|> (do
    let _ ← oneOf fun c => c == '+' || c == '-'
    let _ ← bounded 2 0 23
    exactly ':'
    let _ ← bounded 2 0 59)

/-- A date, a time, or a date with a time and possibly an offset. -/
def moment : Reader Value := do
  (do
    date
    let _ ← optional (do
      let _ ← oneOf fun c => c == 'T' || c == 't' || c == ' '
      timeOfDay
      optional offset)) <|> timeOfDay
  return .moment

def scalar : Reader Value :=
  (do return .text (← text)) <|> boolean <|> moment <|> floatWord <|> basedInteger <|> decimal

end OutboundWatch.Toml
