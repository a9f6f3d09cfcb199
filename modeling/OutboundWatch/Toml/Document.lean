import OutboundWatch.Toml.Scalar
import OutboundWatch.Toml.Table

/-!
# Documents

A document is a list of assignments, the first of them for the root and the others under headers.
-/

namespace OutboundWatch.Toml

open Reader

/-- Most steps of a key, and most values around a value, are one less than this. -/
def depthLimit : Nat := 80

def isBareKeyChar (c : Char) : Bool := c.isAlphanum || c == '-' || c == '_'

def simpleKey : Reader String := do
  spaces
  let name ← basicText <|> literalText <|> (do
    return String.ofList ((← oneOf isBareKeyChar) :: (← runOf isBareKeyChar)))
  spaces
  return name

def key : Reader Key := do
  let first ← simpleKey
  let others ← many (do exactly '.'; simpleKey)
  let names := first :: others
  if names.length < depthLimit then return ⟨names.dropLast, names.getLastD ""⟩ else failure

/-- An array; a comma may stand behind its last item. -/
def array (item : Reader Value) : Reader Value := do
  exactly '['
  let items ← separated (exactly ',') (do blank; let v ← item; blank; return v)
  if !items.isEmpty then
    let _ ← optional (exactly ',')
  blank
  exactly ']'
  return .array items

def assignment (item : Reader Value) : Reader (Key × Value) := do
  let k ← key
  exactly '='
  spaces
  return (k, ← item)

/-- A table between braces, on one line. -/
def inlineTable (item : Reader Value) : Reader Value := do
  exactly '\x7b'
  let assignments ← separated (exactly ',') (assignment item <* spaces)
  spaces
  exactly '\x7d'
  return .table .braces (← Members.assignAll? assignments [])

def value : Nat → Reader Value
  | 0 => scalar
  | depth + 1 => do
    match ← peek? with
    | some '[' => array (value depth)
    | some '\x7b' => inlineTable (value depth)
    | _ => scalar

/-- What a header announces. -/
inductive HeaderKind where
  | table
  | element

def header : Reader (HeaderKind × Key) := do
  let kind ← (do all "[["; return .element) <|> (do exactly '['; return HeaderKind.table)
  let k ← key
  match kind with
  | .element => all "]]"
  | .table => exactly ']'
  lineEnd
  return (kind, k)

def assignments : Reader (List (Key × Value)) := do
  blank
  many (do
    let a ← assignment (value (depthLimit - 1))
    lineEnd
    blank
    return a)

/-- The parts of a document: the assignments of the root, and those under each header. -/
def parts : Reader (List (Key × Value) × List ((HeaderKind × Key) × List (Key × Value))) := do
  let _ ← optional (exactly '\ufeff')
  let root ← assignments
  let tables ← many (do return (← header, ← assignments))
  atEnd
  return (root, tables)

def parse? (source : String) : Option Members := do
  let ((root, tables), _) ← parts source.toList
  let root ← Members.assignAll? root []
  tables.foldlM
    (fun members part =>
      match part.1.1 with
      | .table => members.addTable? part.1.2 part.2
      | .element => members.addElement? part.1.2 part.2)
    root

end OutboundWatch.Toml
