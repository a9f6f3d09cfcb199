import OutboundWatch.Toml.Value

/-!
# Tables

How the members of a table are put together from keys and headers. A key is defined once; dotted keys may
add to the tables that dotted keys have made, and a header may define a table that so far was only on the
way to others.
-/

namespace OutboundWatch.Toml

namespace Members

def replace (key : String) (value : Value) (members : Members) : Members :=
  members.map fun m => if m.1 = key then (key, value) else m

def erase (key : String) (members : Members) : Members := members.filter fun m => m.1 ≠ key

def define? (key : String) (value : Value) (members : Members) : Option Members :=
  if (members.lookup key).isSome then none else some (members ++ [(key, value)])

/-- Change the table at the end of a path. Tables that are missing on the way are made with the given
origin. A path leads into the last table of an array of tables, never into braces, and a dotted path
never into a table with a header. -/
def changeAt? (made : TableOrigin) (change : TableOrigin → Members → Option Members) :
    List String → TableOrigin → Members → Option Members
  | [], origin, members => change origin members
  | key :: path, _, members =>
    match members.lookup key with
    | none => do
      let inner ← changeAt? made change path made []
      return members ++ [(key, .table made inner)]
    | some (.table origin inner) =>
      if origin = .braces ∨ (origin = .header ∧ made = .dotted) then none
      else do
        let inner ← changeAt? made change path origin inner
        return members.replace key (.table origin inner)
    | some (.tables earlier last) => do
      let last ← changeAt? made change path .header last
      return members.replace key (.tables earlier last)
    | some _ => none

/-- Define a key in a table. What a dotted key adds to has to be made by dotted keys. -/
def assign? (key : Key) (value : Value) (members : Members) : Option Members :=
  changeAt? .dotted
    (fun origin inner =>
      if key.path ≠ [] ∧ origin ≠ .dotted then none else define? key.name value inner)
    key.path .header members

/-- Define several keys in a table, one after the other. -/
def assignAll? (assignments : List (Key × Value)) (members : Members) : Option Members :=
  assignments.foldlM (fun members a => assign? a.1 a.2 members) members

/-- Define the table of a header. What was on the way to it so far becomes part of it, and it stands
behind the keys that are there. -/
def addTable? (header : Key) (assignments : List (Key × Value)) (root : Members) : Option Members :=
  changeAt? .path
    (fun _ parent => do
      let inner ← match parent.lookup header.name with
        | none => some []
        | some (.table .path inner) => some inner
        | some _ => none
      let inner ← assignAll? assignments inner
      return parent.erase header.name ++ [(header.name, .table .header inner)])
    header.path .header root

def addElement? (header : Key) (assignments : List (Key × Value)) (root : Members) :
    Option Members :=
  changeAt? .path
    (fun _ parent => do
      let inner ← assignAll? assignments []
      match parent.lookup header.name with
      | none => some (parent ++ [(header.name, .tables [] inner)])
      | some (.tables earlier last) =>
        some (parent.replace header.name (.tables (earlier ++ [last]) inner))
      | some _ => none)
    header.path .header root

end Members

end OutboundWatch.Toml
