import OutboundWatch.Net.Address

/-!
# Host and port

The text `host:port` by which a plain connection names its far end. The host is not looked into; it
only has to be there.
-/

namespace OutboundWatch.Net

def splitAtLastColon? : List Char → Option (List Char × List Char)
  | [] => none
  | c :: rest =>
    match splitAtLastColon? rest with
    | some (before, after) => some (c :: before, after)
    | none => if c = ':' then some ([], rest) else none

/-- A port number: an optional plus sign and decimal digits, of a value from 1 to 65535. -/
def isPort (cs : List Char) : Bool :=
  let digits := match cs with
    | '+' :: rest => rest
    | _ => cs
  ((decimal? digits).filter fun port => 1 ≤ port ∧ port ≤ 65535).isSome

def isHostPort (text : String) : Bool :=
  match splitAtLastColon? text.toList with
  | none => false
  | some (host, port) => host ≠ [] && host ≠ ['[', ']'] && isPort port

end OutboundWatch.Net
