import OutboundWatch.Numeric.Binary64

/-!
# Documents

Structured values as they are exchanged with other programs, and the compact text of texts and of objects
that hold nothing but texts.
-/

namespace OutboundWatch

/-- A structured value. The members of an object are in the order in which they are written. -/
inductive Document where
  | null
  | bool (value : Bool)
  | number (value : Nat)
  | double (value : Binary64)
  | text (value : String)
  | list (items : List Document)
  | object (members : List (String × Document))

namespace Document

def optionText : Option String → Document
  | some s => text s
  | none => null

def escape (c : Char) : List Char :=
  match c with
  | '"' => ['\\', '"']
  | '\\' => ['\\', '\\']
  | '\n' => ['\\', 'n']
  | '\r' => ['\\', 'r']
  | '\t' => ['\\', 't']
  | '\x08' => ['\\', 'b']
  | '\x0c' => ['\\', 'f']
  | c =>
    if c.toNat < 0x20 then
      ['\\', 'u', '0', '0', Nat.digitChar (c.toNat / 16), Nat.digitChar (c.toNat % 16)]
    else [c]

def quoted (s : String) : String := "\"" ++ String.ofList (s.toList.flatMap escape) ++ "\""

/-- The compact text of an object of texts, its members in ascending order of their names. -/
def textObject (members : List (String × String)) : String :=
  let sorted := members.mergeSort fun a b => decide (a.1 ≤ b.1)
  "\x7b" ++ String.intercalate "," (sorted.map fun m => quoted m.1 ++ ":" ++ quoted m.2) ++ "\x7d"

end Document

end OutboundWatch
