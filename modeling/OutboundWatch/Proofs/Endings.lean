import OutboundWatch.Proofs.Completions
import OutboundWatch.Proofs.Selection

/-!
# What the end of a drain leaves

A drain that ends takes its connection out of the tracker and leaves a report, and it raises one counter of its tag:
by the drained bytes if it was completed, and by one error if it was not.
-/

namespace OutboundWatch

/-- What the end of a drain adds to a counter. -/
def drainCount (tag : String) (result : Except DrainError DrainSummary) (series : Series) : UInt64 :=
  match result with
  | .ok summary => if series = .drainedBytes tag then UInt64.ofNat summary.drained else 0
  | .error _ => if series = .drainErrors tag then 1 else 0

/-- Records raise the counters by certain amounts and by nothing else, whenever they are made. -/
def Raise (records : List Record) (amount : Series → UInt64) : Prop :=
  ∀ (j : Journal) (now : Moment) (series : Series),
    (j.add now records).metrics.counter series = j.metrics.counter series + amount series

/-- Notices raise no counter. -/
lemma raise_nothing {records : List Record} (h : records.filterMap Record.measurement? = []) :
    Raise records fun _ => 0 := fun j now series => by
  rw [j.counter_add, h]
  rfl

namespace DrainTracker

/-- What an event does, with the records that it makes. -/
def act? (t : DrainTracker) : DrainEvent → Option (DrainTracker × List Record)
  | .openConnection tag => some ((t.openConnection tag).1, (t.openConnection tag).2.2)
  | .markDraining tag => some ((t.markDraining tag).1, (t.markDraining tag).2.2)
  | .retire tag => some ((t.retire tag).1, (t.retire tag).2.2)
  | .beginClosing now => (t.beginClosing? now).map fun begun => (begun.1, [])
  | .takeClosed ticket => some ((t.takeClosed ticket).1, [])
  | .move move => t.move? move

/-- The drain of `c` ends: `c` leaves the tracker with a report, and nothing else changes. A drain that does not
complete leaves the connection force-closed. The counters rise by what the result comes to. -/
structure EndsDrain (s : DrainTracker) (c : Connection) (result : Except DrainError DrainSummary) (last : Sink)
    (t : DrainTracker) (records : List Record) : Prop where
  tracker : t = { s with
    opened := s.opened.filter fun d => d.id != c.id
    reports := s.reports ++ [⟨c.id, result, last, if result.isOk then c.phase else .forceClosed⟩] }
  counters : Raise records (drainCount c.tag result)

/-- An event ends the drain of one connection, or no counter rises and there is no report. -/
def EndsOrSilent (s : DrainTracker) (t : DrainTracker) (records : List Record) : Prop :=
  (∃ c ∈ s.opened, ∃ transfer result last, c.transfer = some transfer ∧ s.EndsDrain c result last t records) ∨
    (t.reports = s.reports ∧ Raise records fun _ => 0)

variable {s t : DrainTracker}

lemma turnDrain_of_held (hids : (s.opened.map Connection.id).Nodup) {c : Connection} (hc : c ∈ s.opened)
    (hheld : c.transfer = none) (now : Moment) : s.turnDrain now c.id = (s, []) := by
  simp [turnDrain, get?_eq hids hc, hheld]

lemma interruptDrain_of_held (hids : (s.opened.map Connection.id).Nodup) {c : Connection} (hc : c ∈ s.opened)
    (hheld : c.transfer = none) : s.interruptDrain c.id = (s, []) := by
  simp [interruptDrain, get?_eq hids hc, hheld]

lemma interruptDrain_of_unforced (hforce : ¬s.forceClosing = true) (id : Nat) : s.interruptDrain id = (s, []) :=
  if_neg hforce

lemma measurements_release (s : DrainTracker) (id : Nat) :
    (s.release id).2.filterMap Record.measurement? = [] := by
  unfold release
  split <;> rfl

lemma measurements_retire (s : DrainTracker) (tag : String) :
    (s.retire tag).2.2.filterMap Record.measurement? = [] := by
  unfold retire
  dsimp only
  split <;> rfl

/-- The end of a drain makes one measurement. -/
lemma measurements_conclude (s : DrainTracker) (c : Connection) (result : Except DrainError DrainSummary)
    (last : Sink) :
    (s.conclude c result last).2.filterMap Record.measurement? =
      [match result with
      | .ok summary => .drained c.tag summary.drained
      | .error _ => .drainError c.tag] := by
  unfold conclude
  dsimp only
  rw [List.filterMap_append, measurements_release]
  rcases result with (error | _) | summary <;> rfl

lemma endsDrain_conclude (s : DrainTracker) (c : Connection) (result : Except DrainError DrainSummary)
    (last : Sink) : s.EndsDrain c result last (s.conclude c result last).1 (s.conclude c result last).2 := by
  refine ⟨s.fst_conclude c result last, fun j now series => ?_⟩
  rw [j.counter_add, measurements_conclude, List.map_singleton, List.sum_singleton]
  cases result <;> simp only [Measurement.countIn, drainCount, eq_comm]

lemma map_fst_act? (s : DrainTracker) (event : DrainEvent) : (s.act? event).map Prod.fst = s.perform? event := by
  cases event with
  | beginClosing now => simp [act?, perform?, Option.map_map, Function.comp_def]
  | _ => rfl

/-- What the force-close signal does to a drain under way. -/
lemma endsDrain_interruptDrain (hids : (s.opened.map Connection.id).Nodup) {c : Connection} (hc : c ∈ s.opened)
    {transfer : Transfer} (htransfer : c.transfer = some transfer) (hforce : s.forceClosing = true) :
    s.EndsDrain c (.error .forceClosed) transfer.sink (s.interruptDrain c.id).1 (s.interruptDrain c.id).2 := by
  rw [interruptDrain_eq hforce (get?_eq hids hc) htransfer]
  exact s.endsDrain_conclude c _ _

end DrainTracker

end OutboundWatch
