/-!
# Tables over code points

A property of code points is written as a text of ascending runs. A run is a word: the gap to the end
of the run before it, the length after a plus sign when that is not one, and the common value after an
equals sign when there is one. Numbers are in base 36.
-/

namespace OutboundWatch.Unicode

def base36Digit (c : Char) : Nat :=
  if c.isDigit then c.toNat - '0'.toNat else c.toNat - 'a'.toNat + 10

def base36 (cs : List Char) : Nat := cs.foldl (fun n c => n * 36 + base36Digit c) 0

/-- The words of a text, which stand between blanks or line ends. -/
def wordsOf (text : String) : List (List Char) :=
  (text.splitOn "\n").flatMap fun line => ((line.splitOn " ").map String.toList).filter (· ≠ [])

/-- Consecutive code points with a common value. -/
structure Run (α : Type) where
  first : Nat
  last : Nat
  value : α

/-- Ascending disjoint runs. -/
structure RunTable (α : Type) where
  runs : Array (Run α)

abbrev CodeSet := RunTable Unit

namespace RunTable

variable {α : Type}

/-- The gap, the length and the value that a word stands for. -/
def readWord (decode : List Char → α) (word : List Char) : Nat × Nat × α :=
  let place := word.takeWhile (· ≠ '=')
  let value := decode ((word.dropWhile (· ≠ '=')).drop 1)
  match place.splitOn '+' with
  | [gap, len] => (base36 gap, base36 len, value)
  | _ => (base36 place, 1, value)

def read (decode : List Char → α) (text : String) : RunTable α :=
  ⟨((wordsOf text).foldl
      (fun (acc : Array (Run α) × Nat) word =>
        let (gap, len, value) := readWord decode word
        let first := acc.2 + gap
        (acc.1.push ⟨first, first + len - 1, value⟩, first + len))
      (#[], 0)).1⟩

def readSet (text : String) : CodeSet := read (fun _ => ()) text

/-- One more than the place in `[lo, hi)` of the last run that begins at or before `code`. -/
def countUpTo (runs : Array (Run α)) (code lo hi : Nat) : Nat :=
  if lo < hi then
    let mid := (lo + hi) / 2
    if (runs[mid]?).any fun run => decide (run.first ≤ code) then
      countUpTo runs code (mid + 1) hi
    else countUpTo runs code lo mid
  else lo
termination_by hi - lo

def run? (t : RunTable α) (code : Nat) : Option (Run α) :=
  match countUpTo t.runs code 0 t.runs.size with
  | 0 => none
  | n + 1 => (t.runs[n]?).filter fun run => decide (code ≤ run.last)

def find? (t : RunTable α) (c : Char) : Option α := (t.run? c.toNat).map Run.value

def contains (t : RunTable α) (c : Char) : Bool := (t.run? c.toNat).isSome

end RunTable

end OutboundWatch.Unicode
