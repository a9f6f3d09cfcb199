import OutboundWatch.Numeric.Binary64

/-!
# Values of a configuration file

A value of a TOML document. Tables remember how they came to be, because that decides what may still be
added to them.
-/

namespace OutboundWatch.Toml

/-- How a table came to be. -/
inductive TableOrigin where
  /-- Under a header of its own, as an element of an array of tables, or as the root. -/
  | header
  /-- Named only on the way to the header of another table. -/
  | path
  | dotted
  /-- Written between braces, and closed with them. -/
  | braces
  deriving DecidableEq

inductive Value where
  | text (value : String)
  | integer (value : Int)
  | float (value : Binary64)
  | boolean (value : Bool)
  /-- A date or a time. No setting is one, so that nothing of it is kept. -/
  | moment
  | array (items : List Value)
  /-- The members of a table, in the order in which they were first defined. -/
  | table (origin : TableOrigin) (members : List (String × Value))
  /-- An array of tables, each under a header of its own. The last one can still be added to. -/
  | tables (earlier : List (List (String × Value))) (last : List (String × Value))

abbrev Members := List (String × Value)

/-- A key with the keys on the way to it. -/
structure Key where
  path : List String
  name : String

end OutboundWatch.Toml
