import OutboundWatch.Toml.Reader

/-!
# Quoted texts

Texts between double quotes have escapes, those between single quotes are taken as they stand. Three
quotes enclose a text of several lines, in which every line end is a line feed.
-/

namespace OutboundWatch.Toml

open Reader

def hexValue? (c : Char) : Option Nat :=
  if '0' ≤ c ∧ c ≤ '9' then some (c.toNat - '0'.toNat)
  else if 'a' ≤ c ∧ c ≤ 'f' then some (c.toNat - 'a'.toNat + 10)
  else if 'A' ≤ c ∧ c ≤ 'F' then some (c.toNat - 'A'.toNat + 10)
  else none

def isHexDigit (c : Char) : Bool := (hexValue? c).isSome

def numberOfDigits (base : Nat) (digits : List Char) : Nat :=
  digits.foldl (fun n c => n * base + (hexValue? c).getD 0) 0

def codePoint (digits : Nat) : Reader Char := do
  let n := numberOfDigits 16 (← times (oneOf isHexDigit) digits)
  if n.isValidChar then return Char.ofNat n else failure

def escape : Reader Char := do
  exactly '\\'
  match ← oneOf fun _ => true with
  | 'b' => return '\x08'
  | 't' => return '\t'
  | 'n' => return '\n'
  | 'f' => return '\x0c'
  | 'r' => return '\r'
  | '"' => return '"'
  | '\\' => return '\\'
  | 'u' => codePoint 4
  | 'U' => codePoint 8
  | _ => failure

/-- A character between double quotes that stands for itself. -/
def isPlain (c : Char) : Bool := isCommentChar c && c != '"' && c != '\\'

def isLiteral (c : Char) : Bool := isCommentChar c && c != '\''

def basicText : Reader String := do
  exactly '"'
  let cs ← many (oneOf isPlain <|> escape)
  exactly '"'
  return String.ofList cs

def literalText : Reader String := do
  exactly '\''
  let cs ← runOf isLiteral
  exactly '\''
  return String.ofList cs

/-- A backslash at the end of a line takes away all blank space up to the next other character. -/
def lineContinuation : Reader Unit := do
  exactly '\\'
  spaces
  newline
  let _ ← many ((do let _ ← oneOf isSpace) <|> newline)

/-- Content between three double quotes, without quotes. -/
def basicPiece : Reader (List Char) :=
  (do return [← oneOf isPlain]) <|> (do lineContinuation; return []) <|>
    (do return [← escape]) <|> (do newline; return ['\n'])

/-- Content between three single quotes, without quotes. -/
def literalPiece : Reader (List Char) :=
  (do return [← oneOf isLiteral]) <|> (do newline; return ['\n'])

/-- Content up to three quotes and with them. One or two quotes are content, also right before the
closing ones. -/
def upToQuotes (quote : Char) (piece : Reader (List Char)) : Nat → Reader (List Char)
  | 0 => failure
  | n + 1 => do
    let content := (← many piece).flatten
    let quotes ← runOf (· == quote)
    match quotes with
    | [] => failure
    | [_] | [_, _] => return content ++ quotes ++ (← upToQuotes quote piece n)
    | _ :: _ :: _ :: more => if more.length ≤ 2 then return content ++ more else failure

/-- A text of several lines. A line end right after the opening quotes is not part of it. -/
def multiLineText (quote : Char) (piece : Reader (List Char)) : Reader String := do
  let _ ← times (exactly quote) 3
  let _ ← optional newline
  return String.ofList (← upToQuotes quote piece ((← get).length + 1))

def text : Reader String :=
  multiLineText '"' basicPiece <|> multiLineText '\'' literalPiece <|> basicText <|> literalText

end OutboundWatch.Toml
