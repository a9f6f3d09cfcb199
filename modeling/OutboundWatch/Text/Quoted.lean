import OutboundWatch.Unicode.Printable

/-!
# Quoted text

Text between double quotes in which every character that would not print as itself is escaped. The
form is used where a value is shown for debugging.
-/

namespace OutboundWatch.Quoted

def hex (n : Nat) : List Char := Nat.toDigits 16 n

def escape (c : Char) : List Char :=
  match c with
  | '\x00' => ['\\', '0']
  | '\t' => ['\\', 't']
  | '\n' => ['\\', 'n']
  | '\r' => ['\\', 'r']
  | '"' => ['\\', '"']
  | '\\' => ['\\', '\\']
  | c =>
    if Unicode.isPrintable c then [c]
    else ['\\', 'u', '\x7b'] ++ hex c.toNat ++ ['\x7d']

def text (s : String) : String :=
  "\"" ++ String.ofList (s.toList.flatMap escape) ++ "\""

def optionText : Option String → String
  | some s => "Some(" ++ text s ++ ")"
  | none => "None"

/-- The quoted forms of a list, between brackets. -/
def listText (items : List String) : String :=
  "[" ++ String.intercalate ", " (items.map text) ++ "]"

end OutboundWatch.Quoted
