import Mathlib.Data.List.Induction
import Mathlib.Data.UInt
import OutboundWatch.Telemetry.Journal

/-!
# What the metrics add up

A counter is the sum, modulo `2 ^ 64`, of what the recorded measurements add to its series. A gauge is the last value
of its series, and a histogram has all values in order. Notices and the measurements of other series leave them as
they are.
-/

namespace OutboundWatch

/-- What a measurement adds to the counter of a series. -/
def Measurement.countIn (series : Series) : Measurement → UInt64
  | .probe tag result => if Series.probes tag result.outcome = series then 1 else 0
  | .skipped tag => if Series.skips tag = series then 1 else 0
  | .state _ _ => 0
  | .selectionSwitch => if Series.switches = series then 1 else 0
  | .drained tag bytes => if Series.drainedBytes tag = series then UInt64.ofNat bytes else 0
  | .drainError tag => if Series.drainErrors tag = series then 1 else 0

/-- What a measurement sets the gauge of a series to. -/
def Measurement.gaugeIn (series : Series) : Measurement → Option Binary64
  | .state tag label => if Series.states tag = series then some (Binary64.ofNat label.gauge) else none
  | _ => none

/-- What a measurement adds to the histogram of a series. -/
def Measurement.observedIn (series : Series) : Measurement → Option Binary64
  | .probe tag (.success rtt) => if Series.roundTrips tag = series then some rtt.inSeconds else none
  | _ => none

/-- The measurement of a record, if it is one. -/
def Record.measurement? : Record → Option Measurement
  | .measure m => some m
  | .notice _ => none

namespace Metrics

/-- The value of a counter, which is zero before its first recording. -/
def counter (m : Metrics) (series : Series) : UInt64 := (m.counters.lookup series).getD 0

/-- The value of a gauge, which has none before its first recording. -/
def gauge? (m : Metrics) (series : Series) : Option Binary64 := m.gauges.lookup series

/-- The values of a histogram, the earliest first. -/
def histogram (m : Metrics) (series : Series) : List Binary64 := (m.histograms.lookup series).getD []

lemma lookup_update {α : Type} (series key : Series) (start : α) (f : α → α) (entries : List (Series × α)) :
    (update series start f entries).lookup key =
      if series = key then some (f ((entries.lookup key).getD start)) else entries.lookup key := by
  induction entries with
  | nil =>
    by_cases hkey : series = key
    · simp [update, hkey]
    · have hkey' : (key == series) = false := by simpa using fun h => hkey h.symm
      simp [update, hkey, List.lookup_cons, hkey']
  | cons entry rest ih =>
    obtain ⟨s, value⟩ := entry
    by_cases hs : s = series
    · subst hs
      by_cases hkey : s = key
      · simp [update, hkey]
      · have hkey' : (key == s) = false := by simpa using fun h => hkey h.symm
        simp [update, hkey, List.lookup_cons, hkey']
    · by_cases hkey : key = s
      · subst hkey
        have hother : ¬series = key := fun h => hs h.symm
        simp [update, hs, hother]
      · have hkey' : (key == s) = false := by simpa using hkey
        simp only [update, hs, if_false, List.lookup_cons, hkey', ih]

lemma counter_increment (m : Metrics) (series key : Series) (n : UInt64) :
    (m.increment series n).counter key = m.counter key + if series = key then n else 0 := by
  unfold counter increment
  rw [lookup_update]
  split <;> simp

lemma counter_record (m : Metrics) (measured : Measurement) (series : Series) :
    (m.record measured).counter series = m.counter series + measured.countIn series := by
  cases measured with
  | probe tag result =>
    have hcounted := m.counter_increment (.probes tag result.outcome) series 1
    cases result <;> exact hcounted
  | skipped tag => exact m.counter_increment _ _ _
  | state tag label => exact (UInt64.add_zero _).symm
  | selectionSwitch => exact m.counter_increment _ _ _
  | drained tag bytes => exact m.counter_increment _ _ _
  | drainError tag => exact m.counter_increment _ _ _

/-- Every measurement adds its own count, whatever comes between. -/
theorem counter_ofMeasurements (measurements : List Measurement) (series : Series) :
    (ofMeasurements measurements).counter series = (measurements.map (Measurement.countIn series)).sum := by
  induction measurements using List.reverseRecOn with
  | nil => rfl
  | append_singleton measurements last ih =>
    rw [ofMeasurements, List.foldl_append, List.foldl_cons, List.foldl_nil, counter_record, List.map_append,
      List.sum_append, List.map_singleton, List.sum_singleton]
    exact congrArg (· + last.countIn series) ih

/-- A counter to which every measurement adds the weight of its part, if it has one. -/
lemma counter_filterMap {β : Type} {series : Series} {part : Measurement → Option β} {weight : β → Nat}
    (h : ∀ m, m.countIn series = UInt64.ofNat (((part m).map weight).getD 0)) (measurements : List Measurement) :
    (ofMeasurements measurements).counter series = UInt64.ofNat ((measurements.filterMap part).map weight).sum := by
  rw [counter_ofMeasurements]
  induction measurements with
  | nil => rfl
  | cons m rest ih =>
    rw [List.map_cons, List.sum_cons, ih, h]
    cases hpart : part m with
    | none => simp [hpart]
    | some b => simp [hpart, UInt64.ofNat_add]

lemma gauge?_record (m : Metrics) (measured : Measurement) (series : Series) :
    (m.record measured).gauge? series = (measured.gaugeIn series).or (m.gauge? series) := by
  cases measured with
  | state tag label =>
    simp only [record, setGauge, gauge?, lookup_update, Measurement.gaugeIn]
    split <;> rfl
  | probe tag result => cases result <;> rfl
  | _ => rfl

theorem gauge?_ofMeasurements (measurements : List Measurement) (series : Series) :
    (ofMeasurements measurements).gauge? series = (measurements.filterMap (Measurement.gaugeIn series)).getLast? := by
  induction measurements using List.reverseRecOn with
  | nil => rfl
  | append_singleton measurements last ih =>
    rw [ofMeasurements, List.foldl_append, List.foldl_cons, List.foldl_nil, gauge?_record, List.filterMap_append,
      List.getLast?_append, ← ih, ofMeasurements]
    cases hgauge : last.gaugeIn series <;> simp [hgauge]

lemma histogram_record (m : Metrics) (measured : Measurement) (series : Series) :
    (m.record measured).histogram series = m.histogram series ++ (measured.observedIn series).toList := by
  have hsame : m.histogram series = m.histogram series ++ (none : Option Binary64).toList :=
    (List.append_nil _).symm
  cases measured with
  | probe tag result =>
    cases result with
    | failure reason => exact hsame
    | success rtt =>
      simp only [record, increment, observe, histogram, lookup_update, Measurement.observedIn]
      split
      · rfl
      · simp
  | _ => exact hsame

theorem histogram_ofMeasurements (measurements : List Measurement) (series : Series) :
    (ofMeasurements measurements).histogram series = measurements.filterMap (Measurement.observedIn series) := by
  induction measurements using List.reverseRecOn with
  | nil => rfl
  | append_singleton measurements last ih =>
    rw [ofMeasurements, List.foldl_append, List.foldl_cons, List.foldl_nil, histogram_record, List.filterMap_append,
      ← ih, ofMeasurements]
    cases hobserved : last.observedIn series <;> simp [hobserved]

end Metrics

namespace Journal

lemma measurements_add (j : Journal) (now : Moment) (records : List Record) :
    (j.add now records).measurements = j.measurements ++ records.filterMap Record.measurement? := by
  have hentries : records.foldl (fun entries r => (now, r) :: entries) j.entries =
      (records.map fun r => (now, r)).reverse ++ j.entries := by
    induction records generalizing j with
    | nil => rfl
    | cons r rest ih =>
      rw [List.foldl_cons, ih ⟨(now, r) :: j.entries⟩]
      simp
  unfold measurements add
  rw [hentries, List.reverse_append, List.reverse_reverse, List.filterMap_append, List.filterMap_map]
  rfl

/-- New records raise a counter by what their measurements add to it. -/
theorem counter_add (j : Journal) (now : Moment) (records : List Record) (series : Series) :
    (j.add now records).metrics.counter series = j.metrics.counter series +
      ((records.filterMap Record.measurement?).map (Measurement.countIn series)).sum := by
  rw [metrics, Metrics.counter_ofMeasurements, measurements_add, List.map_append, List.sum_append, metrics,
    Metrics.counter_ofMeasurements]

end Journal

end OutboundWatch
