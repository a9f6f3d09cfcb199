import OutboundWatch.Net.Host

/-!
# URLs

Absolute URLs as the URL standard of the web reads and writes them: tabs and line ends do not count,
the scheme and the host of a web URL are in lower case, the standard port of a scheme is left out, dot
segments are resolved, and characters that do not belong in a place are escaped.
-/

namespace OutboundWatch.Net

/-- A URL that names a host. -/
structure Url where
  scheme : List Char
  /-- The name and password of the user with the sign behind them, or nothing. -/
  userinfo : List Char
  host : Host
  port : Option Nat
  path : List Char
  query : Option (List Char)
  fragment : Option (List Char)

/-- What an absolute URL stands for. -/
inductive Locator where
  | hosted (url : Url)
  | hostless (scheme : List Char)

namespace Url

def text (u : Url) : String :=
  let marked (mark : Char) : Option (List Char) → List Char
    | some part => mark :: part
    | none => []
  let port := match u.port with
    | some port => ':' :: Nat.toDigits 10 port
    | none => []
  String.ofList (u.scheme ++ [':', '/', '/'] ++ u.userinfo ++ u.host.text ++ port ++ u.path ++
    marked '?' u.query ++ marked '#' u.fragment)

/-- The kinds of schemes that the standard treats differently. -/
inductive SchemeKind where
  | web
  | file
  | other
  deriving DecidableEq

def standardPort? (scheme : List Char) : Option Nat :=
  match String.ofList scheme with
  | "http" | "ws" => some 80
  | "https" | "wss" => some 443
  | "ftp" => some 21
  | _ => none

def schemeKind (scheme : List Char) : SchemeKind :=
  if (standardPort? scheme).isSome then .web
  else if String.ofList scheme = "file" then .file
  else .other

/-- The text without control characters and spaces at its ends and without tabs and line ends. -/
def clean (cs : List Char) : List Char :=
  let isEdge (c : Char) : Bool := c.toNat ≤ 0x20
  (((cs.dropWhile isEdge).reverse.dropWhile isEdge).reverse).filter fun c =>
    c ≠ '\t' && c ≠ '\n' && c ≠ '\r'

/-- The scheme, in lower case, and what follows its colon. -/
def splitScheme? (cs : List Char) : Option (List Char × List Char) :=
  let isSchemeChar (c : Char) : Bool := c.isAlphanum || c = '+' || c = '-' || c = '.'
  match cs.takeWhile isSchemeChar, cs.dropWhile isSchemeChar with
  | first :: more, ':' :: rest =>
    if first.isAlpha then some ((first :: more).map Char.toLower, rest) else none
  | _, _ => none

def endsAuthority (kind : SchemeKind) (c : Char) : Bool :=
  c = '/' || c = '?' || c = '#' || (kind = .web && c = '\\')

/-- The user part of an authority and what follows its at sign, which is the last one. -/
def splitUser? (cs : List Char) : Option (List Char × List Char) :=
  if cs.contains '@' then
    let after := (cs.reverse.takeWhile (· ≠ '@')).reverse
    some (cs.take (cs.length - after.length - 1), after)
  else none

/-- The written form of a user part. The first colon separates the name and the password; a password
that is empty is left out, and so is a part in which both are. -/
def userinfoText (cs : List Char) : List Char :=
  let name := Percent.encode Percent.userinfoSet (cs.takeWhile (· ≠ ':'))
  let password :=
    match cs.dropWhile (· ≠ ':') with
    | [] => []
    | [_] => []
    | _ :: password => ':' :: Percent.encode Percent.userinfoSet password
  if name = [] ∧ password = [] then [] else name ++ password ++ ['@']

/-- The host of an authority and what follows it. A colon between brackets does not end the host. -/
def splitHost (isInside : Bool) : List Char → List Char × List Char
  | [] => ([], [])
  | c :: rest =>
    if c = ':' ∧ ¬ isInside then ([], c :: rest)
    else
      let inside := if c = '[' then true else if c = ']' then false else isInside
      let (host, after) := splitHost inside rest
      (c :: host, after)

/-- The port at the beginning of a text and what follows it. The standard port of the scheme and no
digits at all count as none. -/
def readPort (scheme cs : List Char) : Except UrlError (Option Nat × List Char) :=
  let digits := cs.takeWhile Char.isDigit
  let rest := cs.dropWhile Char.isDigit
  let port := digits.foldl (fun n c => n * 10 + (c.toNat - '0'.toNat)) 0
  if 65535 < port then .error .badPort
  else if rest.head?.any fun c => !(['/', '\\', '?', '#'].contains c) then .error .badPort
  else if digits = [] ∨ standardPort? scheme = some port then .ok (none, rest)
  else .ok (some port, rest)

def isSingleDot (segment : List Char) : Bool :=
  ["." , "%2e"].contains (String.ofList (segment.map Char.toLower))

def isDoubleDot (segment : List Char) : Bool :=
  ["..", "%2e%2e", "%2e.", ".%2e"].contains (String.ofList (segment.map Char.toLower))

/-- A segment that looks like the name of a drive. No dot segment removes it. -/
def isDriveName : List Char → Bool
  | [letter, mark] => letter.isAlpha && (mark = ':' || mark = '|')
  | _ => false

/-- The directory above; `closed` are the segments before the current one, the nearest first. -/
def ascend : List (List Char) → List (List Char)
  | [] => []
  | segment :: before => if isDriveName segment then segment :: before else before

def joinSegments (closed : List (List Char)) (last : List Char) : List Char :=
  (closed.reverse.flatMap fun segment => '/' :: segment) ++ '/' :: last

def resolve (closed : List (List Char)) : List (List Char) → List Char
  | [] => joinSegments closed []
  | [last] =>
    if isDoubleDot last then joinSegments (ascend closed) []
    else if isSingleDot last then joinSegments closed []
    else joinSegments closed last
  | segment :: rest =>
    if isDoubleDot segment then resolve (ascend closed) rest
    else if isSingleDot segment then resolve closed rest
    else resolve (segment :: closed) rest

/-- The written form of the path of a URL that has a host. -/
def pathText (kind : SchemeKind) (cs : List Char) : List Char :=
  let isSlash (c : Char) : Bool := c = '/' || (kind = .web && c = '\\')
  if cs = [] then (if kind = .web then ['/'] else [])
  else
    let inner := if cs.head?.any isSlash then cs.drop 1 else cs
    resolve [] ((inner.splitOnP isSlash).map (Percent.encode Percent.pathSet))

def readTail (kind : SchemeKind) (cs : List Char) : Option (List Char) × Option (List Char) :=
  let querySet := if kind = .other then Percent.querySet else Percent.webQuerySet
  let fragmentOf : List Char → Option (List Char)
    | _ :: fragment => some (Percent.encode Percent.fragmentSet fragment)
    | [] => none
  match cs with
  | '?' :: rest =>
    (some (Percent.encode querySet (rest.takeWhile (· ≠ '#'))),
      fragmentOf (rest.dropWhile (· ≠ '#')))
  | _ => (none, fragmentOf cs)

def readHosted (scheme : List Char) (kind : SchemeKind) (cs : List Char) :
    Except UrlError Locator := do
  let authority := cs.takeWhile (! endsAuthority kind ·)
  let rest := cs.dropWhile (! endsAuthority kind ·)
  let (user, hostPort) := (splitUser? authority).getD ([], authority)
  if authority.head? = some '@' ∧ hostPort = [] ∧ rest ≠ [] then throw .emptyHost
  let (hostText, portText) := splitHost false hostPort
  if kind = .web ∧ hostText = [] then throw .emptyHost
  let host ← if kind = .web then Host.ofWeb hostText else Host.ofOther hostText
  if hostText = [] ∧ portText ≠ [] then throw .emptyHost
  let (port, afterPort) ←
    match portText with
    | _ :: digits => readPort scheme (digits ++ rest)
    | [] => pure (none, rest)
  let userinfo := userinfoText user
  if hostText = [] then
    if userinfo = [] then return .hostless scheme else throw .emptyHost
  let isTail (c : Char) : Bool := c = '?' || c = '#'
  let (query, fragment) := readTail kind (afterPort.dropWhile (! isTail ·))
  return .hosted { scheme, userinfo, host, port, query, fragment
                   path := pathText kind (afterPort.takeWhile (! isTail ·)) }

/-- The host of a file URL is checked; the name of a drive in its place is not a host. -/
def readFile (scheme cs : List Char) : Except UrlError Locator :=
  let isSlash (c : Char) : Bool := c = '/' || c = '\\'
  match cs with
  | first :: second :: rest =>
    let host := rest.takeWhile fun c => !(isSlash c || c = '?' || c = '#')
    if isSlash first && isSlash second && host ≠ [] && !isDriveName host then
      (Host.ofWeb host).map fun _ => .hostless scheme
    else .ok (.hostless scheme)
  | _ => .ok (.hostless scheme)

def parse (s : String) : Except UrlError Locator :=
  match splitScheme? (clean s.toList) with
  | none => .error .noScheme
  | some (scheme, rest) =>
    match schemeKind scheme with
    | .file => readFile scheme rest
    | .web => readHosted scheme .web (rest.dropWhile fun c => c = '/' || c = '\\')
    | .other =>
      match rest with
      | '/' :: '/' :: after => readHosted scheme .other after
      | _ => .ok (.hostless scheme)

end Url

end OutboundWatch.Net
