import OutboundWatch.Health.State

/-!
# Metrics

A measurement is one recording. The metrics are the fold of all measurements made so far: counters
that wrap at 64 bits, gauges that keep the last value, histograms that keep every value in order.
-/

namespace OutboundWatch

inductive Measurement where
  | probe (tag : String) (result : ProbeResult)
  | skipped (tag : String)
  | state (tag : String) (label : StateLabel)
  | selectionSwitch
  | drained (tag : String) (bytes : Nat)
  | drainError (tag : String)
  deriving DecidableEq

/-- A named series and its labels. -/
structure Series where
  name : String
  labels : List (String × String)
  deriving DecidableEq

namespace Series

def ofCandidate (name tag : String) : Series := ⟨name, [("candidate", tag)]⟩

def probes (tag outcome : String) : Series :=
  ⟨"observatory_probes_total", [("candidate", tag), ("outcome", outcome)]⟩

def roundTrips (tag : String) : Series := ofCandidate "observatory_probe_duration_seconds" tag

def skips (tag : String) : Series := ofCandidate "observatory_probes_skipped_total" tag

def states (tag : String) : Series := ofCandidate "observatory_candidate_state" tag

def switches : Series := ⟨"observatory_selection_switches_total", []⟩

def drainedBytes (tag : String) : Series := ofCandidate "observatory_drained_bytes_total" tag

def drainErrors (tag : String) : Series := ofCandidate "observatory_drain_errors_total" tag

/-- The series as text, its labels between braces. -/
def text (s : Series) : String :=
  s.name ++ "\x7b" ++
    String.intercalate "," (s.labels.map fun label => label.1 ++ "=" ++ label.2) ++ "\x7d"

end Series

/-- All recorded series, each in order of its first recording. -/
structure Metrics where
  counters : List (Series × UInt64)
  gauges : List (Series × Binary64)
  histograms : List (Series × List Binary64)

namespace Metrics

def empty : Metrics := ⟨[], [], []⟩

/-- Change the value of a series, which starts from `start` when it is new. -/
def update {α : Type} (series : Series) (start : α) (f : α → α) :
    List (Series × α) → List (Series × α)
  | [] => [(series, f start)]
  | (s, value) :: rest =>
    if s = series then (s, f value) :: rest else (s, value) :: update series start f rest

def increment (m : Metrics) (series : Series) (n : UInt64) : Metrics :=
  { m with counters := update series 0 (· + n) m.counters }

def setGauge (m : Metrics) (series : Series) (value : Binary64) : Metrics :=
  { m with gauges := update series value (fun _ => value) m.gauges }

def observe (m : Metrics) (series : Series) (value : Binary64) : Metrics :=
  { m with histograms := update series [] (· ++ [value]) m.histograms }

def record (m : Metrics) : Measurement → Metrics
  | .probe tag result =>
    let counted := m.increment (.probes tag result.outcome) 1
    match result with
    | .success rtt => counted.observe (.roundTrips tag) rtt.inSeconds
    | .failure _ => counted
  | .skipped tag => m.increment (.skips tag) 1
  | .state tag label => m.setGauge (.states tag) (Binary64.ofNat label.gauge)
  | .selectionSwitch => m.increment .switches 1
  | .drained tag bytes => m.increment (.drainedBytes tag) (UInt64.ofNat bytes)
  | .drainError tag => m.increment (.drainErrors tag) 1

/-- The metrics after some measurements, the earliest first. -/
def ofMeasurements (measurements : List Measurement) : Metrics :=
  measurements.foldl record empty

end Metrics

end OutboundWatch
