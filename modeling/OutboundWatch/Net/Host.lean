import OutboundWatch.Net.Address
import OutboundWatch.Net.DomainName
import OutboundWatch.Net.Percent

/-!
# Hosts of URLs

The host of a web URL is an address or a domain name in its ASCII form; a name whose last label is a
number has to be an address. In other URLs any text without certain characters is a host.
-/

namespace OutboundWatch.Net

/-- Why a text is no URL. -/
inductive UrlError where
  | emptyHost
  | badDomain
  | badPort
  | badVersion4
  | badVersion6
  | badHostCharacter
  | noScheme
  deriving DecidableEq

def UrlError.message : UrlError → String
  | emptyHost => "empty host"
  | badDomain => "invalid international domain name"
  | badPort => "invalid port number"
  | badVersion4 => "invalid IPv4 address"
  | badVersion6 => "invalid IPv6 address"
  | badHostCharacter => "invalid domain character"
  | noScheme => "relative URL without a base"

inductive Host where
  | name (text : List Char)
  | version4 (address : Nat)
  | version6 (groups : List Nat)

namespace Host

def text : Host → List Char
  | name text => text
  | version4 address => version4Text address
  | version6 groups => ['['] ++ version6Text groups ++ [']']

/-- A number in an address of version 4: decimal, octal behind a zero, hexadecimal behind `0x`. -/
def addressNumber? (cs : List Char) : Option Nat :=
  let read (base : Nat) (digits : List Char) : Option Nat :=
    digits.foldlM
      (fun n c => (Percent.hexValue? c).bind fun d =>
        if d < base then some (n * base + d) else none)
      0
  match cs with
  | [] => none
  | '0' :: 'x' :: digits => read 16 digits
  | '0' :: 'X' :: digits => read 16 digits
  | ['0'] => some 0
  | '0' :: digits => read 8 digits
  | digits => read 10 digits

/-- The parts of a name, without an empty one after a last full stop. -/
def parts (name : List Char) : List (List Char) :=
  let all := name.splitOn '.'
  if all.getLast? = some [] then all.dropLast else all

/-- Whether the last part of a name is a number, which makes the name an address. -/
def endsInNumber (name : List Char) : Bool :=
  match (parts name).getLast? with
  | none => false
  | some last => (last ≠ [] && last.all Char.isDigit) || (addressNumber? last).isSome

/-- An address of version 4 of up to four numbers: all but the last are bytes, and the last one fills
the bytes that remain. -/
def version4? (name : List Char) : Option Nat := do
  let pieces := parts name
  guard (pieces.length ≤ 4)
  let numbers ← pieces.mapM addressNumber?
  let last ← numbers.getLast?
  let bytes := numbers.dropLast
  guard (bytes.all (· ≤ 255))
  guard (last < Nat.pow 256 (4 - bytes.length))
  return bytes.zipIdx.foldl (fun total (n, i) => total + n * Nat.pow 256 (3 - i)) last

/-- An address of version 6 between brackets, if the text begins with one. -/
def bracketed? (cs : List Char) : Option (Except UrlError Host) :=
  match cs with
  | '[' :: rest => some <|
    match rest.getLast? with
    | some ']' =>
      match version6? rest.dropLast with
      | some groups => .ok (.version6 groups)
      | none => .error .badVersion6
    | _ => .error .badVersion6
  | _ => none

def ofWeb (cs : List Char) : Except UrlError Host :=
  (bracketed? cs).getD <|
    match (Percent.textOf? (Percent.decode cs)).bind fun s => DomainName.toAscii? s.toList with
    | none => .error .badDomain
    | some [] => .error .emptyHost
    | some domain =>
      if endsInNumber domain then
        match version4? domain with
        | some address => .ok (.version4 address)
        | none => .error .badVersion4
      else .ok (.name domain)

def forbidden : List Char :=
  ['\x00', '\t', '\n', '\r', ' ', '#', '/', ':', '<', '>', '?', '@', '[', '\\', ']', '^', '|']

/-- The host of a URL that is not of the web. It may be empty. -/
def ofOther (cs : List Char) : Except UrlError Host :=
  (bracketed? cs).getD <|
    if cs.any forbidden.contains then .error .badHostCharacter
    else .ok (.name (Percent.encode [] cs))

end Host

end OutboundWatch.Net
