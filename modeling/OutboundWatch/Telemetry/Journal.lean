import OutboundWatch.Telemetry.Notice
import OutboundWatch.Telemetry.Metrics

/-!
# The journal

Operations report what they did as a list of records, each a notice or a measurement. A journal keeps
them with the moment at which they were made, the latest first.
-/

namespace OutboundWatch

inductive Record where
  | notice (n : Notice)
  | measure (m : Measurement)

/-- The records so far, the latest first. -/
structure Journal where
  entries : List (Moment × Record)

namespace Journal

def empty : Journal := ⟨[]⟩

/-- Add records made at one moment, given in the order in which they were made. -/
def add (j : Journal) (now : Moment) (records : List Record) : Journal :=
  ⟨records.foldl (fun entries r => (now, r) :: entries) j.entries⟩

/-- The notices with their moments, the earliest first. -/
def notices (j : Journal) : List (Moment × Notice) :=
  j.entries.reverse.filterMap fun e =>
    match e.2 with
    | .notice n => some (e.1, n)
    | .measure _ => none

/-- The measurements, the earliest first. -/
def measurements (j : Journal) : List Measurement :=
  j.entries.reverse.filterMap fun e =>
    match e.2 with
    | .measure m => some m
    | .notice _ => none

def metrics (j : Journal) : Metrics := Metrics.ofMeasurements j.measurements

end Journal

end OutboundWatch
