/-!
# Readers

A reader takes a value from the front of a text or refuses the text.
-/

namespace OutboundWatch.Toml

abbrev Reader := StateT (List Char) Option

namespace Reader

variable {α β : Type}

/-- The next character, which is not taken. -/
def peek? : Reader (Option Char) := do return (← get).head?

def oneOf (p : Char → Bool) : Reader Char := fun
  | c :: rest => if p c then some (c, rest) else none
  | [] => none

def exactly (c : Char) : Reader Unit := do
  let _ ← oneOf (· == c)

def all (text : String) : Reader Unit := text.toList.forM exactly

def runOf (p : Char → Bool) : Reader (List Char) := fun s => some (s.takeWhile p, s.dropWhile p)

/-- Read up to `n` times. -/
def upTo (r : Reader α) : Nat → Reader (List α)
  | 0 => pure []
  | n + 1 => do
    match ← optional r with
    | none => pure []
    | some a => return a :: (← upTo r n)

/-- Read as often as possible. A reader that takes at least a character each time cannot read more often
than there are characters. -/
def many (r : Reader α) : Reader (List α) := fun s => upTo r s.length s

/-- Read exactly `n` times. -/
def times (r : Reader α) : Nat → Reader (List α)
  | 0 => pure []
  | n + 1 => do return (← r) :: (← times r n)

def separated (separator : Reader β) (item : Reader α) : Reader (List α) := do
  match ← optional item with
  | none => pure []
  | some first => return first :: (← many (separator *> item))

def atEnd : Reader Unit := fun
  | [] => some ((), [])
  | _ => none

end Reader

/-! ### Blank space and comments -/

def isCommentChar (c : Char) : Bool := c == '\t' || (0x20 ≤ c.toNat && c.toNat != 0x7f)

def isSpace (c : Char) : Bool := c == ' ' || c == '\t'

def spaces : Reader Unit := do
  let _ ← Reader.runOf isSpace

/-- A line feed, or a carriage return and a line feed. -/
def newline : Reader Unit := do
  let _ ← optional (Reader.exactly '\r')
  Reader.exactly '\n'

def comment : Reader Unit := do
  Reader.exactly '#'
  let _ ← Reader.runOf isCommentChar

def lineEnd : Reader Unit := do
  spaces
  let _ ← optional comment
  newline <|> Reader.atEnd

def blank : Reader Unit := do
  let _ ← Reader.many ((do let _ ← Reader.oneOf isSpace) <|> newline <|> comment)

end OutboundWatch.Toml
