/-!
# Percent encoding

A byte is written as a percent sign and two hexadecimal digits. Which characters are written so
depends on the place in a URL; characters beyond ASCII always are, byte by byte.
-/

namespace OutboundWatch.Percent

def hexValue? (c : Char) : Option Nat :=
  if '0' ≤ c ∧ c ≤ '9' then some (c.toNat - '0'.toNat)
  else if 'a' ≤ c ∧ c ≤ 'f' then some (c.toNat - 'a'.toNat + 10)
  else if 'A' ≤ c ∧ c ≤ 'F' then some (c.toNat - 'A'.toNat + 10)
  else none

def bytesOf (c : Char) : List UInt8 := (String.singleton c).toUTF8.toList

/-- The bytes that a text stands for. A percent sign that two hexadecimal digits do not follow stands
for itself. -/
def decode : List Char → List UInt8
  | '%' :: high :: low :: rest =>
    match hexValue? high, hexValue? low with
    | some h, some l => UInt8.ofNat (h * 16 + l) :: decode rest
    | _, _ => 0x25 :: decode (high :: low :: rest)
  | c :: rest => bytesOf c ++ decode rest
  | [] => []

def textOf? (bytes : List UInt8) : Option String := String.fromUTF8? ⟨bytes.toArray⟩

def upperHexDigit (n : Nat) : Char := (Nat.digitChar n).toUpper

def escapeByte (byte : UInt8) : List Char :=
  ['%', upperHexDigit (byte.toNat / 16), upperHexDigit (byte.toNat % 16)]

/-- Control characters, which are escaped everywhere. -/
def isControl (c : Char) : Bool := c.toNat < 0x20 || c.toNat == 0x7f

/-- Escape the control characters, the characters beyond ASCII and those of a set. -/
def encode (escaped : List Char) (cs : List Char) : List Char :=
  cs.flatMap fun c =>
    if isControl c || 0x7f < c.toNat || escaped.contains c then (bytesOf c).flatMap escapeByte
    else [c]

def fragmentSet : List Char := [' ', '"', '<', '>', '\x60']

def pathSet : List Char := fragmentSet ++ ['#', '?', '\x7b', '\x7d']

/-- Characters escaped in the name and the password of a user. -/
def userinfoSet : List Char := pathSet ++ ['/', ':', ';', '=', '@', '[', '\\', ']', '^', '|']

def querySet : List Char := [' ', '"', '#', '<', '>']

def webQuerySet : List Char := querySet ++ ['\'']

end OutboundWatch.Percent
