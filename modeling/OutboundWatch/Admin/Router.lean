import OutboundWatch.Admin.View
import OutboundWatch.Net.Percent

/-!
# The admin router

Requests must carry the key of the interface; all others are refused before they are looked at. Views
can only be read, and no request changes anything.
-/

namespace OutboundWatch.Admin

structure Request where
  method : String
  target : String
  /-- The header fields in order of arrival. Names are in lower case, values are any bytes. -/
  headers : List (String × List UInt8)

/-- The value of the first header field with a name. -/
def Request.header? (r : Request) (name : String) : Option (List UInt8) := r.headers.lookup name

inductive Body where
  | nothing
  | text (content : String)
  | system (view : SystemView)
  | ranking (views : List CandidateView)
  | candidate (view : CandidateView)
  | best (view : BestView)
  | failure (message : String)

structure Response where
  status : Nat
  body : Body

/-- What a path leads to. -/
inductive Route where
  | system
  | ranking
  | best
  /-- A candidate by its tag, which is still percent-encoded. -/
  | candidate (tag : List Char)

def pathOf (target : String) : List Char := target.toList.takeWhile fun c => c ≠ '?' && c ≠ '#'

def route? (path : List Char) : Option Route :=
  match path.splitOn '/' with
  | [[], top, page] =>
    if String.ofList top = "admin" then
      match String.ofList page with
      | "status" => some .system
      | "ranking" => some .ranking
      | "best" => some .best
      | _ => none
    else none
  | [[], top, group, tag] =>
    if String.ofList top = "admin" ∧ String.ofList group = "candidates" ∧ tag ≠ [] then
      some (.candidate tag)
    else none
  | _ => none

/-- Whether a header value is plain text: printable ASCII and tabs. -/
def isPlain (value : List UInt8) : Bool := value.all fun b => b = 9 || (0x20 ≤ b && b < 0x7f)

/-- Compare two lists of bytes without stopping at the first difference. -/
def keysMatch (presented expected : List UInt8) : Bool :=
  if presented.length ≠ expected.length then false
  else (presented.zip expected).foldl (fun acc pair => acc ||| (pair.1 ^^^ pair.2)) 0 == (0 : UInt8)

/-- The bytes of a text in UTF-8. -/
def bytesOf (text : String) : List UInt8 := text.toUTF8.data.toList

def keyScheme : List UInt8 := bytesOf "Bearer "

def isAuthorized (key : String) (request : Request) : Bool :=
  match request.header? "authorization" with
  | none => false
  | some value =>
    isPlain value && keyScheme.isPrefixOf value &&
      keysMatch (value.drop keyScheme.length) (bytesOf key)

/-- What answers requests. It may look at the observatory, and nothing but its program keeps it from changing
it. -/
abbrev Handler := Request → StateM Observatory Response

def statusPage (now : Moment) : StateM Observatory Response := do
  return ⟨200, .system (systemView (← get) now)⟩

def rankingPage : StateM Observatory Response := do
  return ⟨200, .ranking (rankingView (← get))⟩

def bestPage : StateM Observatory Response := do
  return ⟨200, .best (bestView (← get))⟩

/-- The page of a candidate, if its tag is text once it is decoded and the ranking has it. -/
def candidatePage (encoded : List Char) : StateM Observatory Response := do
  match Percent.textOf? (Percent.decode encoded) with
  | none => return ⟨400, .text "Invalid URL: Invalid UTF-8 in \x60tag\x60"⟩
  | some tag =>
    match CandidateView.ofRanking? (← get).ranking tag with
    | some view => return ⟨200, .candidate view⟩
    | none => return ⟨404, .failure ("candidate not registered: " ++ tag)⟩

def page (now : Moment) : Route → StateM Observatory Response
  | .system => statusPage now
  | .ranking => rankingPage
  | .best => bestPage
  | .candidate encoded => candidatePage encoded

/-- Answer a request with the page that its path leads to. A request for the head of a page gets no body. -/
def answer (now : Moment) : Handler := fun request =>
  match route? (pathOf request.target) with
  | none => return ⟨404, .nothing⟩
  | some route => do
    if request.method = "GET" then page now route
    else if request.method = "HEAD" then return ⟨(← page now route).status, .nothing⟩
    else return ⟨405, .nothing⟩

/-- What a request gets that does not carry the key. -/
def refusal (request : Request) : Response × List Record :=
  (⟨401, .nothing⟩, [.notice (.requestRejected (String.ofList (pathOf request.target)))])

/-- Let a request through to what answers it if it carries the key, and refuse it otherwise. -/
def guarded (key : String) (next : Handler) (request : Request) :
    StateM Observatory (Response × List Record) := do
  if isAuthorized key request then return (← next request, [])
  else return refusal request

/-- The router: all paths are behind the guard, the unknown ones too. -/
def respond (now : Moment) (key : String) (request : Request) :
    StateM Observatory (Response × List Record) :=
  guarded key (answer now) request

end OutboundWatch.Admin
