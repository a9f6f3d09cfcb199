/-!
# Addresses

The written forms of IP addresses and of socket addresses.
-/

namespace OutboundWatch.Net

/-- The number written by decimal digits, if there is at least one digit and nothing else. -/
def decimal? (cs : List Char) : Option Nat :=
  if cs ≠ [] ∧ cs.all Char.isDigit then
    some (cs.foldl (fun n c => n * 10 + (c.toNat - '0'.toNat)) 0)
  else none

/-- One byte of a dotted address: no leading zeros, at most 255. -/
def octet? (cs : List Char) : Option Nat :=
  if 1 < cs.length ∧ cs.head? = some '0' then none
  else if 3 < cs.length then none
  else (decimal? cs).filter (· ≤ 255)

def dotted? (cs : List Char) : Option (List Nat) :=
  match cs.splitOn '.' with
  | [a, b, c, d] => [a, b, c, d].mapM octet?
  | _ => none

def group? (cs : List Char) : Option Nat :=
  if cs ≠ [] ∧ cs.length ≤ 4 then
    cs.foldlM
      (fun n c =>
        if c.isDigit then some (n * 16 + (c.toNat - '0'.toNat))
        else if 'a' ≤ c ∧ c ≤ 'f' then some (n * 16 + (c.toNat - 'a'.toNat + 10))
        else if 'A' ≤ c ∧ c ≤ 'F' then some (n * 16 + (c.toNat - 'A'.toNat + 10))
        else none)
      0
  else none

/-- Groups between colons. A dotted address may stand for the last two. -/
def groups? : List (List Char) → Option (List Nat)
  | [] => some []
  | [last] =>
    match group? last with
    | some n => some [n]
    | none => (dotted? last).map fun bytes =>
        match bytes with
        | [a, b, c, d] => [a * 256 + b, c * 256 + d]
        | _ => []
  | first :: rest => return (← group? first) :: (← groups? rest)

def groupsOrNone? (cs : List Char) : Option (List Nat) :=
  if cs = [] then some [] else groups? (cs.splitOn ':')

def splitAtDoubleColon? : List Char → Option (List Char × List Char)
  | ':' :: ':' :: rest => some ([], rest)
  | c :: rest => (splitAtDoubleColon? rest).map fun (before, after) => (c :: before, after)
  | [] => none

/-- The eight groups of an address of version 6. A double colon stands for one or more groups of zero;
a dotted address cannot come before it. -/
def version6? (cs : List Char) : Option (List Nat) :=
  match splitAtDoubleColon? cs with
  | none => (groupsOrNone? cs).filter (·.length = 8)
  | some (before, after) => do
    guard (¬ before.contains '.')
    let head ← groupsOrNone? before
    let tail ← groupsOrNone? after
    guard (head.length + tail.length ≤ 7)
    return head ++ List.replicate (8 - head.length - tail.length) 0 ++ tail

def colonPort? : List Char → Option Nat
  | ':' :: digits => (decimal? digits).filter (· ≤ 65535)
  | _ => none

/-- What stands between brackets in a socket address: an address with an optional numeric scope. -/
def isScoped6 (cs : List Char) : Bool :=
  let scope := cs.dropWhile (· ≠ '%')
  (version6? (cs.takeWhile (· ≠ '%'))).isSome &&
    match scope with
    | [] => true
    | _ :: digits => ((decimal? digits).filter (· < UInt32.size)).isSome

def isSocketAddress (text : String) : Bool :=
  match text.toList with
  | '[' :: rest =>
    isScoped6 (rest.takeWhile (· ≠ ']')) &&
      (colonPort? ((rest.dropWhile (· ≠ ']')).drop 1)).isSome
  | cs =>
    (dotted? (cs.takeWhile (· ≠ ':'))).isSome && (colonPort? (cs.dropWhile (· ≠ ':'))).isSome

/-- The longest run of zeros in a list of groups, as its place and length; the first of several. -/
def longestZeros (groups : List Nat) : Nat × Nat :=
  ((List.range groups.length).map fun start =>
      (start, ((groups.drop start).takeWhile (· = 0)).length)).foldl
    (fun best run => if best.2 < run.2 then run else best) (0, 0)

def groupText (group : Nat) : List Char := Nat.toDigits 16 group

/-- The shortest text of an address of version 6, without brackets. A single zero is written out. -/
def version6Text (groups : List Nat) : List Char :=
  let write (part : List Nat) := [':'].intercalate (part.map groupText)
  let (start, length) := longestZeros groups
  if length < 2 then write groups
  else write (groups.take start) ++ [':', ':'] ++ write (groups.drop (start + length))

def version4Text (address : Nat) : List Char :=
  ['.'].intercalate ([24, 16, 8, 0].map fun shift => Nat.toDigits 10 (address >>> shift % 256))

end OutboundWatch.Net
