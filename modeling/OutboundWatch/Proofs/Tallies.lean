import OutboundWatch.Proofs.Metering

/-!
# The tallies of a run

The steps of a run and its metrics are two accounts of one history. The former tells what has become of the cycles,
the held tag and the drains, and the latter what was recorded. Sorted by their kinds, the measurements are the
classifications, the skips, the switches and the returned drains of the run. A tag is counted over all its
registrations, as the series of its metrics outlive it.
-/

namespace OutboundWatch

namespace ProbeResult

/-- The names that outcomes have in the metrics. -/
def outcomes : List String := ["success", "timeout", "connect_error", "rejected"]

def rtt? : ProbeResult → Option Span
  | success rtt => some rtt
  | failure _ => none

/-- Whether two results are of one kind: both are successes, or failures for the same kind of reason. -/
def isLike : ProbeResult → ProbeResult → Bool
  | success _, success _ => true
  | failure (.timeout _), failure (.timeout _) => true
  | failure (.connect _), failure (.connect _) => true
  | failure (.rejected _), failure (.rejected _) => true
  | _, _ => false

lemma outcome_eq_iff (first second : ProbeResult) :
    first.outcome = second.outcome ↔ first.isLike second = true := by
  obtain rtt | (after | text | text) := first <;> obtain rtt' | (after' | text' | text') := second <;>
    simp [outcome, ProbeFailure.label, isLike]

/-- Each result has one outcome. -/
lemma sum_countP_outcome {α : Type} (result : α → ProbeResult) (items : List α) :
    (outcomes.map fun outcome => items.countP fun a => (result a).outcome = outcome).sum = items.length := by
  induction items with
  | nil => rfl
  | cons a rest ih =>
    have hcases : (result a).outcome = "success" ∨ (result a).outcome = "timeout" ∨
        (result a).outcome = "connect_error" ∨ (result a).outcome = "rejected" := by
      obtain rtt | (after | text | text) := result a <;> simp [outcome, ProbeFailure.label]
    simp only [outcomes, List.map_cons, List.map_nil, List.sum_cons, List.sum_nil, List.countP_cons,
      List.length_cons] at ih ⊢
    obtain h | h | h | h := hcases <;> simp [h] <;> omega

end ProbeResult

/-- Different labels have different values in the gauge. -/
lemma StateLabel.ofNat_gauge_injective : Function.Injective fun label : StateLabel => Binary64.ofNat label.gauge := by
  intro first second
  cases first <;> cases second <;> decide +kernel

/-- The bytes that a drain has returned, if it was completed. -/
def drainedBytes? : Except DrainError DrainSummary → Option Nat
  | .ok summary => some summary.drained
  | .error _ => none

namespace Measurement

def result? : Measurement → Option (String × ProbeResult)
  | .probe tag result => some (tag, result)
  | _ => none

def label? : Measurement → Option (String × StateLabel)
  | .state tag label => some (tag, label)
  | _ => none

def skip? : Measurement → Option String
  | .skipped tag => some tag
  | _ => none

def switch? : Measurement → Option Unit
  | .selectionSwitch => some ()
  | _ => none

/-- The tag of a drain that has returned, and the bytes if it was completed. -/
def return? : Measurement → Option (String × Option Nat)
  | .drained tag bytes => some (tag, some bytes)
  | .drainError tag => some (tag, none)
  | _ => none

end Measurement

namespace Step

variable (s : Step)

lemma filterMap_measured {β : Type} (part : Measurement → Option β) :
    s.measured.filterMap part =
      (s.classified.flatMap fun c =>
          (part (.probe c.tag c.result)).toList ++ (part (.state c.tag c.label)).toList) ++
        (s.skipped.filterMap fun tag => part (.skipped tag)) ++
        (if s.switches then (part .selectionSwitch).toList else []) ++
        s.returned.filterMap fun r => part (.ofReturn r) := by
  have htwo (m n : Measurement) : [m, n].filterMap part = (part m).toList ++ (part n).toList := by
    cases hm : part m <;> cases hn : part n <;> simp [hm, hn]
  simp only [measured, List.filterMap_append, List.filterMap_map, List.filterMap_flatMap, htwo]
  congr 2
  split
  · cases hpart : part .selectionSwitch <;> simp [hpart]
  · rfl

/-- A part with which drains have nothing to do. -/
lemma filterMap_undrained {β : Type} {part : Measurement → Option β}
    (hdrained : ∀ tag bytes, part (.drained tag bytes) = none) (herror : ∀ tag, part (.drainError tag) = none) :
    s.measured.filterMap part =
      (s.classified.flatMap fun c =>
          (part (.probe c.tag c.result)).toList ++ (part (.state c.tag c.label)).toList) ++
        (s.skipped.filterMap fun tag => part (.skipped tag)) ++
        if s.switches then (part .selectionSwitch).toList else [] := by
  have hreturned : (s.returned.filterMap fun r => part (.ofReturn r)) = [] := by
    refine List.filterMap_eq_nil_iff.mpr fun r _ => ?_
    obtain ⟨tag, error | summary⟩ := r
    · exact herror tag
    · exact hdrained tag summary.drained
  rw [s.filterMap_measured, hreturned, List.append_nil]

end Step

section Sorted

variable (steps : List Step)

lemma results_of_steps : (steps.flatMap Step.measured).filterMap Measurement.result? =
    (steps.flatMap Step.classified).map fun c => (c.tag, c.result) := by
  rw [List.filterMap_flatMap, List.map_flatMap]
  refine List.flatMap_congr fun s _ => ?_
  rw [s.filterMap_undrained (fun _ _ => rfl) fun _ => rfl]
  simp [Measurement.result?, List.map_eq_flatMap]

lemma labels_of_steps : (steps.flatMap Step.measured).filterMap Measurement.label? =
    (steps.flatMap Step.classified).map fun c => (c.tag, c.label) := by
  rw [List.filterMap_flatMap, List.map_flatMap]
  refine List.flatMap_congr fun s _ => ?_
  rw [s.filterMap_undrained (fun _ _ => rfl) fun _ => rfl]
  simp [Measurement.label?, List.map_eq_flatMap]

lemma skips_of_steps :
    (steps.flatMap Step.measured).filterMap Measurement.skip? = steps.flatMap Step.skipped := by
  rw [List.filterMap_flatMap]
  refine List.flatMap_congr fun s _ => ?_
  rw [s.filterMap_undrained (fun _ _ => rfl) fun _ => rfl]
  simp [Measurement.skip?]

lemma switches_of_steps :
    (steps.flatMap Step.measured).filterMap Measurement.switch? = (steps.filter Step.switches).map fun _ => () := by
  rw [List.filterMap_flatMap, ← List.filterMap_eq_filter, List.map_filterMap, List.filterMap_eq_flatMap_toList]
  refine List.flatMap_congr fun s _ => ?_
  rw [s.filterMap_undrained (fun _ _ => rfl) fun _ => rfl]
  cases hswitches : s.switches <;> simp [Measurement.switch?, Option.guard, hswitches]

lemma returns_of_steps : (steps.flatMap Step.measured).filterMap Measurement.return? =
    (steps.flatMap Step.returned).map fun r => (r.1, drainedBytes? r.2) := by
  rw [List.filterMap_flatMap, List.map_flatMap]
  refine List.flatMap_congr fun s _ => ?_
  have hreturned : (s.returned.filterMap fun r => (Measurement.ofReturn r).return?) =
      s.returned.map fun r => (r.1, drainedBytes? r.2) := by
    rw [← List.filterMap_eq_map]
    exact List.filterMap_congr fun r _ => by obtain ⟨tag, error | summary⟩ := r <;> rfl
  rw [s.filterMap_measured, hreturned]
  simp [Measurement.return?]

end Sorted

namespace Metrics

variable (measurements : List Measurement) (tag : String)

/-- A counter that counts which parts have a property. -/
lemma counter_countP {β : Type} {series : Series} {part : Measurement → Option β} {p : β → Bool}
    (h : ∀ m, m.countIn series = UInt64.ofNat (((part m).map fun b => (p b).toNat).getD 0)) :
    (ofMeasurements measurements).counter series = UInt64.ofNat ((measurements.filterMap part).countP p) := by
  have hsum (items : List β) : (items.map fun b => (p b).toNat).sum = items.countP p := by
    induction items with
    | nil => rfl
    | cons b rest ih =>
      rw [List.map_cons, List.sum_cons, ih, List.countP_cons, Nat.add_comm]
      cases p b <;> rfl
  rw [counter_filterMap h, hsum]

lemma counter_probes (outcome : String) :
    (ofMeasurements measurements).counter (.probes tag outcome) = UInt64.ofNat
      ((measurements.filterMap Measurement.result?).countP fun r => r.1 = tag ∧ r.2.outcome = outcome) := by
  refine counter_countP measurements fun m => ?_
  cases m with
  | probe key result =>
    by_cases hkey : key = tag <;> by_cases houtcome : result.outcome = outcome <;>
      simp [Measurement.countIn, Measurement.result?, Series.probes, hkey, houtcome]
  | _ => simp [Measurement.countIn, Measurement.result?, Series.probes, Series.skips, Series.ofCandidate,
      Series.switches, Series.drainedBytes, Series.drainErrors]

lemma counter_skips : (ofMeasurements measurements).counter (.skips tag) =
    UInt64.ofNat ((measurements.filterMap Measurement.skip?).countP fun key => key = tag) := by
  refine counter_countP measurements fun m => ?_
  cases m with
  | skipped key =>
    by_cases hkey : key = tag <;> simp [Measurement.countIn, Measurement.skip?, Series.skips, Series.ofCandidate, hkey]
  | _ => simp [Measurement.countIn, Measurement.skip?, Series.probes, Series.skips, Series.ofCandidate,
      Series.switches, Series.drainedBytes, Series.drainErrors]

lemma counter_switches : (ofMeasurements measurements).counter .switches =
    UInt64.ofNat (measurements.filterMap Measurement.switch?).length := by
  rw [← List.countP_true]
  refine counter_countP measurements fun m => ?_
  cases m <;> simp [Measurement.countIn, Measurement.switch?, Series.probes, Series.skips, Series.ofCandidate,
    Series.switches, Series.drainedBytes, Series.drainErrors]

lemma counter_drainErrors : (ofMeasurements measurements).counter (.drainErrors tag) =
    UInt64.ofNat ((measurements.filterMap Measurement.return?).countP fun r => r.1 = tag ∧ r.2 = none) := by
  refine counter_countP measurements fun m => ?_
  cases m with
  | drainError key =>
    by_cases hkey : key = tag <;>
      simp [Measurement.countIn, Measurement.return?, Series.drainErrors, Series.ofCandidate, hkey]
  | _ => simp [Measurement.countIn, Measurement.return?, Series.probes, Series.skips, Series.ofCandidate,
      Series.switches, Series.drainedBytes, Series.drainErrors]

lemma counter_drainedBytes : (ofMeasurements measurements).counter (.drainedBytes tag) =
    UInt64.ofNat ((measurements.filterMap Measurement.return?).filterMap fun r =>
      if r.1 = tag then r.2 else none).sum := by
  rw [List.filterMap_filterMap, ← List.map_id' (List.filterMap _ measurements)]
  refine counter_filterMap (fun m => ?_) measurements
  cases m with
  | drained key bytes =>
    by_cases hkey : key = tag <;>
      simp [Measurement.countIn, Measurement.return?, Series.drainedBytes, Series.ofCandidate, hkey]
  | _ => simp [Measurement.countIn, Measurement.return?, Series.probes, Series.skips, Series.ofCandidate,
      Series.switches, Series.drainedBytes, Series.drainErrors]

lemma gauge?_states : (ofMeasurements measurements).gauge? (.states tag) =
    ((measurements.filterMap Measurement.label?).filterMap fun l =>
      if l.1 = tag then some (Binary64.ofNat l.2.gauge) else none).getLast? := by
  rw [gauge?_ofMeasurements, List.filterMap_filterMap]
  refine congrArg List.getLast? (List.filterMap_congr fun m _ => ?_)
  cases m with
  | state key label =>
    by_cases hkey : key = tag <;> simp [Measurement.gaugeIn, Measurement.label?, Series.states, Series.ofCandidate, hkey]
  | _ => rfl

lemma histogram_roundTrips : (ofMeasurements measurements).histogram (.roundTrips tag) =
    (measurements.filterMap Measurement.result?).filterMap fun r =>
      if r.1 = tag then r.2.rtt?.map Span.inSeconds else none := by
  rw [histogram_ofMeasurements, List.filterMap_filterMap]
  refine List.filterMap_congr fun m _ => ?_
  cases m with
  | probe key result =>
    cases result with
    | success rtt =>
      by_cases hkey : key = tag <;>
        simp [Measurement.observedIn, Measurement.result?, ProbeResult.rtt?, Series.roundTrips, Series.ofCandidate, hkey]
    | failure reason => simp [Measurement.observedIn, Measurement.result?, ProbeResult.rtt?]
  | _ => rfl

end Metrics

/-- What was classified for a tag, the earliest first. -/
def classifiedFor (tag : String) (steps : List Step) : List Classification :=
  (steps.flatMap Step.classified).filter fun c => c.tag = tag

/-- The metrics tell of a tag what the steps of a run come to. -/
structure Metrics.Tallies (m : Metrics) (steps : List Step) (tag : String) : Prop where
  /-- Each result is counted under its own outcome. -/
  probes : ∀ outcome, m.counter (.probes tag outcome) =
    UInt64.ofNat ((classifiedFor tag steps).countP fun c => c.result.outcome = outcome)
  /-- Only results of one kind are counted together. -/
  kinds : ∀ result : ProbeResult, m.counter (.probes tag result.outcome) =
    UInt64.ofNat ((classifiedFor tag steps).countP fun c => c.result.isLike result)
  allProbes : (ProbeResult.outcomes.map fun outcome => m.counter (.probes tag outcome)).sum =
    UInt64.ofNat (classifiedFor tag steps).length
  /-- Successes have their times in the order in which they were completed. -/
  roundTrips : m.histogram (.roundTrips tag) =
    (classifiedFor tag steps).filterMap fun c => c.result.rtt?.map Span.inSeconds
  skips : m.counter (.skips tag) = UInt64.ofNat ((steps.flatMap Step.skipped).count tag)
  state : m.gauge? (.states tag) = (classifiedFor tag steps).getLast?.map fun c => Binary64.ofNat c.label.gauge
  /-- The gauge tells which label came last. -/
  label : ∀ label : StateLabel, m.gauge? (.states tag) = some (Binary64.ofNat label.gauge) ↔
    (classifiedFor tag steps).getLast?.map Classification.label = some label
  switches : m.counter .switches = UInt64.ofNat (steps.countP Step.switches)
  drainedBytes : m.counter (.drainedBytes tag) = UInt64.ofNat ((steps.flatMap Step.returned).filterMap fun r =>
    if r.1 = tag then drainedBytes? r.2 else none).sum
  drainErrors : m.counter (.drainErrors tag) =
    UInt64.ofNat ((steps.flatMap Step.returned).countP fun r => r.1 = tag ∧ r.2.isOk = false)

theorem Metrics.tallies_of_steps (steps : List Step) (tag : String) :
    (Metrics.ofMeasurements (steps.flatMap Step.measured)).Tallies steps tag := by
  have hprobes (outcome : String) :
      (Metrics.ofMeasurements (steps.flatMap Step.measured)).counter (.probes tag outcome) =
        UInt64.ofNat ((classifiedFor tag steps).countP fun c => c.result.outcome = outcome) := by
    rw [counter_probes, results_of_steps, List.countP_map, classifiedFor, List.countP_filter]
    congr 2
    funext c
    rw [Function.comp_apply, Bool.decide_and, Bool.and_comm]
  have hstate : (Metrics.ofMeasurements (steps.flatMap Step.measured)).gauge? (.states tag) =
      (classifiedFor tag steps).getLast?.map fun c => Binary64.ofNat c.label.gauge := by
    rw [gauge?_states, labels_of_steps, List.filterMap_map, classifiedFor, ← List.getLast?_map, ← List.filterMap_eq_map,
      List.filterMap_filter]
    simp
  refine ⟨hprobes, fun result => ?_, ?_, ?_, ?_, hstate, fun label => ?_, ?_, ?_, ?_⟩
  · simp only [hprobes, ProbeResult.outcome_eq_iff, Bool.decide_eq_true]
  · have hsum : ∀ counts : List Nat, (counts.map UInt64.ofNat).sum = UInt64.ofNat counts.sum := by
      intro counts
      induction counts with
      | nil => rfl
      | cons n rest ih => rw [List.map_cons, List.sum_cons, List.sum_cons, ih, UInt64.ofNat_add]
    rw [← ProbeResult.sum_countP_outcome Classification.result, ← hsum, List.map_map]
    exact congrArg List.sum (List.map_congr_left fun outcome _ => hprobes outcome)
  · rw [histogram_roundTrips, results_of_steps, List.filterMap_map, classifiedFor, List.filterMap_filter]
    simp
  · rw [counter_skips, skips_of_steps, List.count]
    congr 2
  · rw [hstate, ← Option.map_some (f := fun label : StateLabel => Binary64.ofNat label.gauge),
      ← Function.comp_def (fun label : StateLabel => Binary64.ofNat label.gauge) Classification.label, ← Option.map_map]
    exact (Option.map_injective StateLabel.ofNat_gauge_injective).eq_iff
  · rw [counter_switches, switches_of_steps, List.length_map, List.countP_eq_length_filter]
  · rw [counter_drainedBytes, returns_of_steps, List.filterMap_map]
    rfl
  · rw [counter_drainErrors, returns_of_steps, List.countP_map]
    congr 2
    funext r
    obtain ⟨key, error | summary⟩ := r <;> simp [drainedBytes?, Except.isOk, Except.toBool]

/-- The journal of a run: what was recorded at its start, and then in each of its steps. -/
def Journal.ofRun (begun : Moment) (made : List Record) (timed : List (Moment × Step)) : Journal :=
  timed.foldl (fun j entry => j.add entry.1 entry.2.records) (Journal.empty.add begun made)

lemma Journal.measurements_ofRun (begun : Moment) (made : List Record) (timed : List (Moment × Step)) :
    (ofRun begun made timed).measurements = made.filterMap Record.measurement? ++
      (timed.map Prod.snd).flatMap fun s => s.records.filterMap Record.measurement? := by
  induction timed using List.reverseRecOn with
  | nil =>
    rw [List.map_nil, List.flatMap_nil, List.append_nil]
    exact measurements_add _ _ _
  | append_singleton timed last ih =>
    rw [ofRun, List.foldl_append, List.foldl_cons, List.foldl_nil, measurements_add, List.map_append,
      List.flatMap_append, ← List.append_assoc, ← ih]
    simp [ofRun]

lemma Observatory.silent_of_start {config : Config} {world : World} {started : Observatory} {made : List Record}
    (hstart : start config world = .ok (started, made)) : (create config world).Silent started made := by
  have hall := (create config world).silent_registerAll config.candidates
  simp only [start] at hstart
  split at hstart
  · cases hstart
  · split at hstart
    · cases hstart
    · split at hstart
      · cases hstart
      · cases hstart
        refine ⟨?_, hall.reports⟩
        rw [List.filterMap_append, List.filterMap_append, hall.measured]
        rfl

namespace Run

variable {o p : Observatory} {steps : List Step}

lemma metered (ho : Reachable o) (run : Run o steps p) {s : Step} (hs : s ∈ steps) : s.Metered := by
  obtain ⟨earlier, later, rfl⟩ := List.append_of_mem hs
  obtain ⟨hearlier, happens, -⟩ := run.around
  exact Observatory.metered_perform? (ho.run hearlier).balanced happens

/-- The drains that have returned since the start of a run are those that returned in its steps. -/
lemma reports (ho : Reachable o) (run : Run o steps p) : p.routing.drains.reports.map DrainReport.result =
    o.routing.drains.reports.map DrainReport.result ++ (steps.flatMap Step.returned).map Prod.snd := by
  induction run with
  | refl => simp
  | step run happens ih =>
    have hlast := (Observatory.metered_perform? (ho.run run).balanced happens).reports
    rw [List.flatMap_append, List.map_append, ← List.append_assoc, ← ih]
    simpa using hlast

end Run

/-- Attempts are abandoned when cycles are told to stop, by a removal or by the shutdown, and when a cycle quits. -/
def Event.Abandons : Event → Prop
  | .stop => True
  | .unregister _ => True
  | .reconcile _ => True
  | .cycle _ _ .quit => True
  | _ => False

lemma Observatory.silent_of_abandons {o p : Observatory} {event : Event} {records : List Record}
    (habandons : event.Abandons) (happens : o.perform? event = some (p, records)) : o.Silent p records := by
  unfold Event.Abandons at habandons
  split at habandons
  · cases happens
    exact o.silent_stop
  · cases happens
    exact o.silent_unregister _
  · cases happens
    exact o.silent_reconcile _
  · obtain ⟨scheduler, hmove, rfl⟩ := perform?_cycle happens
    obtain ⟨c, -, heq⟩ := Option.map_eq_some_iff.mp hmove
    cases heq
    exact ⟨rfl, rfl⟩
  · cases habandons

/-- In no later state of a run is there a cycle that has quit. -/
lemma Run.gone_of_quit {o p q : Observatory} {steps : List Step} (ho : Reachable o) {now : Moment} {id : Nat}
    {records : List Record} (happens : o.perform? (.cycle now id .quit) = some (p, records)) (run : Run p steps q)
    {x : Step} (hx : x ∈ steps) (moment : Moment) : x.event ≠ .cycle moment id .advance := by
  intro hevent
  obtain ⟨scheduler, hmove, rfl⟩ := Observatory.perform?_cycle happens
  have hquit : o.scheduler.perform? (.move now id .quit) = some scheduler := by
    rw [Scheduler.perform?, hmove, Option.map_some]
  have hbalanced := ho.balanced
  obtain ⟨earlier, later, rfl⟩ := List.append_of_mem hx
  obtain ⟨hearlier, hadvance, -⟩ := run.around
  have hgone := (hbalanced.toSeated.gone_of_quit hquit).reaches (hbalanced.perform? hquit).1 hearlier.evolves.scheduler
  rw [hevent] at hadvance
  obtain ⟨after, hmoved, -⟩ := Observatory.perform?_cycle hadvance
  obtain ⟨c, hc, -⟩ := Option.map_eq_some_iff.mp hmoved
  obtain ⟨hmem, hid⟩ := Scheduler.mem_of_get? hc
  exact hgone.ended c hmem hid

section Started

variable {config : Config} {world : World} {started o : Observatory} {made : List Record}
  {timed : List (Moment × Step)} (hstart : Observatory.start config world = .ok (started, made))
  (run : Run started (timed.map Prod.snd) o) (begun : Moment)

include hstart run

/-- All that was measured in a run was measured in its steps. -/
lemma Journal.measurements_of_run :
    (Journal.ofRun begun made timed).measurements = (timed.map Prod.snd).flatMap Step.measured := by
  have hstarted : Reachable started := ⟨config, world, started, made, [], hstart, .refl⟩
  rw [Journal.measurements_ofRun, (Observatory.silent_of_start hstart).measured, List.nil_append]
  exact List.flatMap_congr fun s hs => (run.metered hstarted hs).measured

/-- The metrics of every run, from a start without any, tell of every tag what the steps of the run come to: what was
classified for it, skipped and drained, and how often a held tag was replaced. A result counts as classified if its cycle
has the health that the result leads to, and an attempt as skipped if its cycle has gone back to sleep. The drains that
are counted are those that have returned. An attempt that is abandoned measures nothing, neither when its cycle is told
to stop nor when the cycle quits, and this cycle does not go on. -/
theorem metrics_tally :
    (∀ tag, (Journal.ofRun begun made timed).metrics.Tallies (timed.map Prod.snd) tag) ∧
    o.routing.drains.reports.map DrainReport.result =
      ((timed.map Prod.snd).flatMap Step.returned).map Prod.snd ∧
    ∀ earlier entry later, timed = earlier ++ entry :: later →
      (entry.2.event.Abandons →
        (Journal.ofRun begun made (earlier ++ [entry])).metrics = (Journal.ofRun begun made earlier).metrics) ∧
      ∀ now id, entry.2.event = .cycle now id .quit →
        ∀ x ∈ later, ∀ moment, x.2.event ≠ .cycle moment id .advance := by
  refine ⟨fun tag => ?_, ?_, ?_⟩
  · rw [Journal.metrics, Journal.measurements_of_run hstart run]
    exact Metrics.tallies_of_steps _ tag
  · have hstarted : Reachable started := ⟨config, world, started, made, [], hstart, .refl⟩
    rw [run.reports hstarted, (Observatory.silent_of_start hstart).reports]
    rfl
  · rintro earlier entry later rfl
    rw [List.map_append, List.map_cons] at run
    obtain ⟨hearlier, happens, hlater⟩ := run.around
    refine ⟨fun hevent => ?_, fun now id hevent x hx moment => ?_⟩
    · have hsilent := Observatory.silent_of_abandons hevent happens
      rw [Journal.metrics, Journal.metrics, Journal.ofRun, List.foldl_append, List.foldl_cons, List.foldl_nil,
        Journal.measurements_add, hsilent.measured, List.append_nil, Journal.ofRun]
    · rw [hevent] at happens
      have hreachable : Reachable entry.2.before := ⟨config, world, started, made, _, hstart, hearlier⟩
      exact hlater.gone_of_quit hreachable happens (List.mem_map_of_mem hx) moment

end Started

/-- The first probe of `a` succeeds, and its connections are drained, one well and one badly. Three candidates whose
probes hang pass on the only permit until one of them is skipped, and `a` is removed while it waits. -/
theorem metrics_tally_of_four_candidates :
    let probe : ProbeSettings := { intervalMs := 1000, timeoutMs := 900, concurrency := 1, jitterRatio := .zero }
    let config : Config := { Config.bare with probe := probe }
    let rtt : Span := .ofMillis 200
    ∃ started made timed o, Observatory.start config World.desert = .ok (started, made) ∧
      Run started (timed.map Prod.snd) o ∧
      let m := (Journal.ofRun 0 made timed).metrics
      m.counter (.probes "a" "success") = 1 ∧ m.histogram (.roundTrips "a") = [rtt.inSeconds] ∧
        m.gauge? (.states "a") = some (Binary64.ofNat StateLabel.qualified.gauge) ∧
        m.counter (.skips "d") = 1 ∧ m.counter .switches = 0 ∧ m.counter (.drainedBytes "a") = 3 ∧
        m.counter (.drainErrors "a") = 1 := by
  intro probe config rtt
  let hanging (tag : String) : ProbeTarget := ⟨tag, fun _ => .hangs⟩
  have hplayed : ((Observatory.create config World.desert).play? [.register "a" ⟨"a", fun _ => .finishes rtt none⟩,
      .cycle 0 0 .advance, .cycle 0 0 .advance, .cycle 200000000 0 .advance, .deliver 200000000 0,
      .publisher .begin, .publisher (.publish 1), .selectBest, .openConnection "a", .openConnection "a",
      .connection (.beginDrain 1 [.data [1, 2, 3]] Sink.discard), .connection (.turn 200000000 1),
      .connection (.beginDrain 2 [.failure .writeZero] Sink.discard), .connection (.turn 200000000 2),
      .register "b" (hanging "b"), .register "c" (hanging "c"), .register "d" (hanging "d"),
      .cycle 200000000 1 .advance, .cycle 200000000 2 .advance, .cycle 200000000 3 .advance,
      .cycle 200000000 1 .advance, .cycle 200000000 2 .advance, .cycle 200000000 3 .advance,
      .cycle 1100000000 1 .advance, .cycle 1200000000 0 .advance, .cycle 1200000000 3 .advance, .unregister "a",
      .cycle 1200000000 0 .quit]).map (fun played =>
        ((classifiedFor "a" played.1).map fun c => (c.result, c.label), (played.1.flatMap Step.skipped).count "d",
          played.1.countP Step.switches, ((played.1.flatMap Step.returned).filterMap fun r =>
            if r.1 = "a" then drainedBytes? r.2 else none).sum,
          (played.1.flatMap Step.returned).countP fun r => r.1 = "a" ∧ r.2.isOk = false)) =
      some ([(.success rtt, .qualified)], 1, 0, 3, 1) := by
    decide +kernel
  obtain ⟨⟨steps, o⟩, hsteps, heq⟩ := Option.map_eq_some_iff.mp hplayed
  simp only [Prod.mk.injEq] at heq
  obtain ⟨hclassified, hskips, hswitches, hbytes, herrors⟩ := heq
  have hvalid : config.errors = [] := by decide +kernel
  have hpermits : ¬Observatory.maxPermits < config.probe.concurrency.toNat := by decide +kernel
  obtain ⟨made, hstart⟩ := Observatory.start_without_candidates World.desert hvalid hpermits rfl
  let timed : List (Moment × Step) := steps.map fun s => (0, s)
  have hsnd : timed.map Prod.snd = steps := by simp [timed]
  have run : Run (.create config World.desert) (timed.map Prod.snd) o := hsnd.symm ▸ Run.of_play? hsteps
  obtain ⟨htallies, -, -⟩ := metrics_tally hstart run 0
  have ha := htallies "a"
  have hd := htallies "d"
  rw [hsnd] at ha hd
  obtain ⟨c, hown, hone⟩ := List.map_eq_singleton_iff.mp hclassified
  obtain ⟨hresult, hlabel⟩ := Prod.mk.inj hone
  refine ⟨_, made, timed, o, hstart, run, ?_, ?_, ?_, ?_, ?_, ?_, ?_⟩
  · rw [ha.probes, hown]
    simp [hresult, ProbeResult.outcome]
  · rw [ha.roundTrips, hown]
    simp [hresult, ProbeResult.rtt?]
  · rw [ha.state, hown]
    simp [hlabel]
  · rw [hd.skips, hskips]
    rfl
  · rw [ha.switches, hswitches]
    rfl
  · rw [ha.drainedBytes, hbytes]
    rfl
  · rw [ha.drainErrors, herrors]
    rfl

end OutboundWatch
