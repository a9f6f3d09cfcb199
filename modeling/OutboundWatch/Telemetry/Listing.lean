import OutboundWatch.Telemetry.Journal
import OutboundWatch.Text.Document

/-!
# Listings of notices

The notices of a journal in an order that does not depend on the order within a millisecond.
-/

namespace OutboundWatch

/-- A notice as it is listed, at a full millisecond. -/
structure ListedNotice where
  millis : Nat
  level : String
  message : String
  fields : List (String × String)
  fieldsText : String

namespace ListedNotice

def ofNotice (now : Moment) (n : Notice) : ListedNotice :=
  ⟨now / nanosPerMilli, n.level.name, n.message, n.fields, Document.textObject n.fields⟩

/-- By millisecond, then by level, message and fields. -/
def le (a b : ListedNotice) : Bool :=
  if a.millis ≠ b.millis then decide (a.millis < b.millis)
  else if a.level ≠ b.level then decide (a.level < b.level)
  else if a.message ≠ b.message then decide (a.message < b.message)
  else decide (a.fieldsText ≤ b.fieldsText)

end ListedNotice

def Journal.listing (j : Journal) : List ListedNotice :=
  (j.notices.map fun entry => ListedNotice.ofNotice entry.1 entry.2).mergeSort ListedNotice.le

end OutboundWatch
