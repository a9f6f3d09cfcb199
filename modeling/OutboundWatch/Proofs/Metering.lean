import OutboundWatch.Proofs.Endings
import OutboundWatch.Proofs.Outcomes

/-!
# What is measured

A measurement is made when a result is classified, when a cycle gives up waiting for a permit, when a selection
replaces the held tag, and when a drain returns. What each step should measure is read off the states before and after
it: off the cycles, the held tag and the drains that have returned. All that was measured in a run is told by its steps,
in their order, and the metrics are what they add up to.
-/

namespace OutboundWatch

namespace Observatory

/-- Nothing is measured on the way from one state to another, and no drain returns. -/
structure Silent (o p : Observatory) (records : List Record) : Prop where
  measured : records.filterMap Record.measurement? = []
  reports : p.routing.drains.reports = o.routing.drains.reports

variable {o p q : Observatory} {records more : List Record}

namespace Silent

lemma refl (o : Observatory) : o.Silent o [] := ⟨rfl, rfl⟩

lemma trans (first : o.Silent p records) (second : p.Silent q more) : o.Silent q (records ++ more) where
  measured := by rw [List.filterMap_append, first.measured, second.measured, List.append_nil]
  reports := second.reports.trans first.reports

end Silent

lemma silent_register (o : Observatory) (tag : String) (target : ProbeTarget) (source : Option TargetConfig) :
    o.Silent (o.register tag target source).after (o.register tag target source).records := by
  unfold register Registry.insertWith
  split_ifs
  · exact .refl o
  · exact .refl o
  · exact .refl o
  · exact ⟨rfl, rfl⟩

lemma silent_registerConfigured (o : Observatory) (candidate : CandidateConfig) :
    o.Silent (o.registerConfigured candidate).after (o.registerConfigured candidate).records := by
  unfold registerConfigured
  split
  · exact .refl o
  · apply silent_register

lemma measurements_cancel (s : Scheduler) (tag : String) :
    (s.cancel tag).2.2.filterMap Record.measurement? = [] := by
  unfold Scheduler.cancel
  split <;> rfl

lemma silent_unregister (o : Observatory) (tag : String) :
    o.Silent (o.unregister tag).after (o.unregister tag).records := by
  unfold unregister Registry.removeWith
  cases o.registry.get? tag with
  | none => exact .refl o
  | some candidate =>
    have hcancelled := measurements_cancel o.scheduler tag
    have hretired := o.routing.drains.measurements_retire tag
    refine ⟨?_, rfl⟩
    change ([] ++ (o.scheduler.cancel tag).2.2 ++ (o.routing.drains.retire tag).2.2 ++
      [Record.notice (.candidateUnregistered tag _)]).filterMap Record.measurement? = []
    simp only [List.nil_append, List.filterMap_append, hcancelled, hretired]
    rfl

lemma silent_registerAll (o : Observatory) (candidates : List CandidateConfig) :
    o.Silent (o.registerAll candidates).after (o.registerAll candidates).records := by
  induction candidates generalizing o with
  | nil => exact .refl o
  | cons candidate rest ih =>
    have hfirst := o.silent_registerConfigured candidate
    simp only [registerAll]
    split
    · exact hfirst
    · exact hfirst.trans (ih _)

lemma silent_reconcileTags (o : Observatory) (desired : List CandidateConfig) (report : ReconcileReport)
    (tags : List String) :
    o.Silent (o.reconcileTags desired report tags).after (o.reconcileTags desired report tags).records := by
  induction tags generalizing o report with
  | nil => exact .refl o
  | cons tag rest ih =>
    have hremoval := o.silent_unregister tag
    simp only [reconcileTags]
    split
    · exact ih o report
    · split
      · split
        · exact hremoval.trans (ih _ _)
        · exact ih o report
      · rename_i next _
        split
        · exact ih o report
        · have hrenewal := hremoval.trans (silent_registerConfigured _ next)
          split
          · exact hrenewal
          · exact hrenewal.trans (ih _ _)

lemma silent_addMissing (o : Observatory) (report : ReconcileReport) (desired : List CandidateConfig) :
    o.Silent (o.addMissing report desired).after (o.addMissing report desired).records := by
  induction desired generalizing o report with
  | nil => exact .refl o
  | cons candidate rest ih =>
    have haddition := o.silent_registerConfigured candidate
    simp only [addMissing]
    split
    · exact ih o report
    · split
      · exact haddition
      · exact haddition.trans (ih _ _)

/-- A reconciliation measures nothing, as it consists of registrations. -/
lemma silent_reconcile (o : Observatory) (desired : List CandidateConfig) :
    o.Silent (o.reconcile desired).after (o.reconcile desired).records := by
  have hkept := o.silent_reconcileTags desired ReconcileReport.empty o.registry.tags
  simp only [reconcile]
  split
  · exact .refl o
  · split
    · exact .refl o
    · split
      · exact hkept
      · rename_i report _
        have hfilled := hkept.trans (silent_addMissing _ report desired)
        split
        · exact hfilled
        · refine hfilled.trans ⟨?_, rfl⟩
          split <;> rfl

lemma silent_openConnection (o : Observatory) (tag : String) :
    o.Silent (o.openConnection tag).after (o.openConnection tag).records := by
  unfold openConnection
  split_ifs
  · exact .refl o
  · exact ⟨rfl, rfl⟩
  · exact .refl o

lemma silent_stop (o : Observatory) : o.Silent o.stop.1 o.stop.2.2 := by
  unfold stop
  split
  · exact .refl o
  · exact ⟨rfl, rfl⟩

lemma silent_deliver? {now : Moment} {c : Cycle} {status : Status}
    (happens : o.deliver? now c status = some (p, records)) : o.Silent p records := by
  unfold deliver? at happens
  split at happens
  · cases happens
    exact ⟨rfl, rfl⟩
  · split at happens
    · cases happens
    · cases happens
      exact ⟨rfl, rfl⟩

lemma silent_publisher {move : PublisherMove} (happens : o.perform? (.publisher move) = some (p, records)) :
    o.Silent p records := by
  obtain ⟨publisher, table, hmove, rfl⟩ := perform?_publisher happens
  refine ⟨?_, rfl⟩
  cases move <;> simp only [Publisher.move?] at hmove <;> split at hmove <;> cases hmove
  · rfl
  · dsimp only
    split <;> rfl
  · rfl
  · rfl

lemma silent_proceedStop? {now : Moment} (happens : o.proceedStop? now = some (p, records)) :
    o.Silent p records := by
  unfold proceedStop? at happens
  split at happens
  · split at happens <;> cases happens
    exact ⟨rfl, rfl⟩
  · split at happens
    · cases happens
    · split at happens <;> cases happens
      · exact ⟨rfl, rfl⟩
      · rename_i hbegin
        obtain ⟨deadline, -, heq⟩ := Option.map_eq_some_iff.mp hbegin
        cases heq
        exact ⟨rfl, rfl⟩
  · split at happens <;> cases happens
    rename_i htake
    refine ⟨rfl, ?_⟩
    unfold DrainTracker.takeClosed at htake
    split at htake <;> cases htake
    rfl
  all_goals cases happens

end Observatory

namespace DrainTracker

/-- Nothing was measured and no drain has returned, or a drain has come to its end. -/
def MeasuresEnds (s t : DrainTracker) (records : List Record) : Prop :=
  (records.filterMap Record.measurement? = [] ∧ t.reports = s.reports) ∨
    ∃ c result last, s.get? c.id = some c ∧ s.conclude c result last = (t, records)

variable {s t : DrainTracker} {records : List Record}

lemma measuresEnds_turnDrain (s : DrainTracker) (now : Moment) (id : Nat) :
    s.MeasuresEnds (s.turnDrain now id).1 (s.turnDrain now id).2 := by
  unfold turnDrain
  split
  · exact .inl ⟨rfl, rfl⟩
  · rename_i c hc
    obtain ⟨-, rfl⟩ := id_of_get? hc
    split
    · exact .inl ⟨rfl, rfl⟩
    · split
      · exact .inl ⟨rfl, rfl⟩
      · exact .inr ⟨c, _, _, hc, rfl⟩
      · exact .inr ⟨c, _, _, hc, rfl⟩

lemma measuresEnds_interruptDrain (s : DrainTracker) (id : Nat) :
    s.MeasuresEnds (s.interruptDrain id).1 (s.interruptDrain id).2 := by
  unfold interruptDrain
  split
  · split
    · exact .inl ⟨rfl, rfl⟩
    · rename_i c hc
      obtain ⟨-, rfl⟩ := id_of_get? hc
      split
      · exact .inl ⟨rfl, rfl⟩
      · exact .inr ⟨c, _, _, hc, rfl⟩
  · exact .inl ⟨rfl, rfl⟩

lemma measuresEnds_move? {move : ConnectionMove} (happens : s.move? move = some (t, records)) :
    s.MeasuresEnds t records := by
  cases move with
  | acknowledge id size =>
    obtain ⟨c, -, heq⟩ := Option.map_eq_some_iff.mp happens
    cases heq
    exact .inl ⟨rfl, rfl⟩
  | beginDrain id source sink =>
    obtain ⟨c, -, heq⟩ := Option.map_eq_some_iff.mp happens
    cases heq
    exact .inl ⟨rfl, rfl⟩
  | drop id =>
    obtain ⟨c, -, heq⟩ := Option.map_eq_some_iff.mp happens
    have hreports : (s.release id).1.reports = s.reports := by rw [fst_release]
    have hmeasured := s.measurements_release id
    rw [heq] at hreports hmeasured
    exact .inl ⟨hmeasured, hreports⟩
  | look now ticket =>
    obtain ⟨closing, -, heq⟩ := Option.map_eq_some_iff.mp happens
    unfold look at heq
    dsimp only at heq
    split at heq <;> cases heq
    · refine .inl ⟨?_, rfl⟩
      split <;> rfl
    · exact .inl ⟨rfl, rfl⟩
  | turn now id =>
    obtain ⟨c, -, heq⟩ := Option.map_eq_some_iff.mp happens
    have hends := s.measuresEnds_turnDrain now id
    rwa [heq] at hends
  | interrupt id =>
    obtain ⟨c, -, heq⟩ := Option.map_eq_some_iff.mp happens
    have hends := s.measuresEnds_interruptDrain id
    rwa [heq] at hends

end DrainTracker

def Measurement.ofReturn (returned : String × Except DrainError DrainSummary) : Measurement :=
  match returned.2 with
  | .ok summary => .drained returned.1 summary.drained
  | .error _ => .drainError returned.1

namespace Step

/-- What has been classified in a step, as the cycles show it. -/
def classified (s : Step) : List Classification := s.before.scheduler.classified s.after.scheduler

/-- The tags of the attempts that have been given up in a step for want of a permit, as the cycles show it. -/
def skipped (s : Step) : List String := s.before.scheduler.skipped s.after.scheduler

/-- Whether a selection replaces the held tag by another one. -/
def switches (s : Step) : Bool :=
  match s.event, s.before.heldBest, s.after.heldBest with
  | .selectBest, some previous, some chosen => decide (previous ≠ chosen)
  | _, _, _ => false

/-- The drains that return, each with the tag of its connection. -/
def returned (s : Step) : List (String × Except DrainError DrainSummary) :=
  (s.after.routing.drains.reports.drop s.before.routing.drains.reports.length).filterMap fun report =>
    (s.before.routing.drains.get? report.id).map fun c => (c.tag, report.result)

/-- All that is measured in a step. -/
def measured (s : Step) : List Measurement :=
  (s.classified.flatMap fun c => [.probe c.tag c.result, .state c.tag c.label]) ++
    s.skipped.map .skipped ++ (if s.switches then [.selectionSwitch] else []) ++
    s.returned.map .ofReturn

/-- The records of a step tell what was measured in it, and its reports which drains have returned. -/
structure Metered (s : Step) : Prop where
  measured : s.records.filterMap Record.measurement? = s.measured
  reports : s.after.routing.drains.reports.map DrainReport.result =
    s.before.routing.drains.reports.map DrainReport.result ++ s.returned.map Prod.snd

variable {s : Step}

lemma returned_of_same (h : s.after.routing.drains.reports = s.before.routing.drains.reports) : s.returned = [] := by
  rw [returned, h, List.drop_length]
  rfl

/-- A step without a return that measures what it should. -/
lemma Metered.of_same (hmeasured : s.records.filterMap Record.measurement? =
      (s.classified.flatMap fun c => [.probe c.tag c.result, .state c.tag c.label]) ++
        s.skipped.map .skipped ++ if s.switches then [.selectionSwitch] else [])
    (hreports : s.after.routing.drains.reports = s.before.routing.drains.reports) : s.Metered where
  measured := by rw [hmeasured, Step.measured, returned_of_same hreports, List.map_nil, List.append_nil]
  reports := by rw [returned_of_same hreports, hreports, List.map_nil, List.append_nil]

lemma Metered.of_silent (h : s.before.Silent s.after s.records) (hattempts : s.classified = [] ∧ s.skipped = [])
    (hswitches : s.switches = false) : s.Metered :=
  .of_same (by rw [h.measured, hattempts.1, hattempts.2, hswitches]; rfl) h.reports

/-- No attempt comes out in a step that is not the move of a cycle. -/
lemma attempts_of_call (hs : s.before.scheduler.Seated) (hcall : s.event.movesCycle = false)
    (happens : s.before.perform? s.event = some (s.after, s.records)) : s.classified = [] ∧ s.skipped = [] := by
  have hcontinues := (Observatory.undisturbed_perform? hcall happens).continues hs
  exact ⟨hcontinues.classified_eq_nil, hcontinues.skipped_eq_nil⟩

end Step

namespace Observatory

variable {o p : Observatory} {records : List Record}

lemma metered_cycle (hs : o.scheduler.Balanced) {now : Moment} {id : Nat} {move : CycleMove}
    (happens : o.perform? (.cycle now id move) = some (p, records)) :
    (⟨o, .cycle now id move, p, records⟩ : Step).Metered := by
  obtain ⟨scheduler, hmove, rfl⟩ := perform?_cycle happens
  cases move with
  | quit =>
    have hquit : o.scheduler.perform? (.move now id .quit) = some scheduler := by
      rw [Scheduler.perform?, hmove, Option.map_some]
    obtain ⟨c, -, heq⟩ := Option.map_eq_some_iff.mp hmove
    have hrecords : records = (o.scheduler.exit now c).2 := by rw [heq]
    exact .of_silent ⟨by rw [hrecords]; rfl, rfl⟩ (hs.outcomes_of_quit hquit) rfl
  | advance =>
    obtain ⟨c, hc, heq⟩ := Option.map_eq_some_iff.mp hmove
    have hafter : scheduler = (o.scheduler.goOn now c).1 := by rw [heq]
    have hrecords : records = (o.scheduler.goOn now c).2 := by rw [heq]
    refine .of_same ?_ rfl
    dsimp only [Step.classified, Step.skipped, Step.switches]
    rw [hafter, hrecords, Scheduler.measurements_goOn, hs.classified_goOn hc, hs.skipped_goOn hc]
    unfold Cycle.isQueued
    cases c.stage with
    | probing trip startedAt => simp [Cycle.measurements_finishTrip]
    | _ => simp

lemma metered_deliver (hs : o.scheduler.Seated) {now : Moment} {id : Nat}
    (happens : o.perform? (.deliver now id) = some (p, records)) :
    (⟨o, .deliver now id, p, records⟩ : Step).Metered := by
  obtain ⟨c, status, hc, hstage, hdeliver⟩ := perform?_deliver happens
  have hreporting : c.isReporting = true := by simp [Cycle.isReporting, hstage, CycleStage.unsent]
  have hfound : (o.scheduler.get? id).filter Cycle.isReporting = some c := by simp [hc, Option.filter, hreporting]
  have hsilent := silent_deliver? hdeliver
  obtain ⟨feed, -, rfl⟩ | ⟨-, rfl⟩ := deliver?_cases hdeliver
  · have haccept : o.scheduler.perform? (.accept now id) = some (o.scheduler.reported now c) := by
      simp [Scheduler.perform?, hfound]
    exact .of_silent hsilent (hs.outcomes_of_reporting hc hreporting rfl haccept) rfl
  · have hrefuse : o.scheduler.perform? (.refuse now id) = some (o.scheduler.exit now c).1 := by
      simp [Scheduler.perform?, hfound]
    exact .of_silent hsilent (hs.outcomes_of_reporting hc hreporting rfl hrefuse) rfl

lemma metered_selectBest (hs : o.scheduler.Seated) :
    (⟨o, .selectBest, o.selectBest.1, o.selectBest.2.2⟩ : Step).Metered := by
  have hattempts := Step.attempts_of_call (s := ⟨o, .selectBest, o.selectBest.1, o.selectBest.2.2⟩) hs rfl rfl
  have hafter : o.selectBest.1.routing = o.routing.selectBest.1 := rfl
  have hrecords : o.selectBest.2.2 = o.routing.selectBest.2.2 := rfl
  have hheld : o.selectBest.1.heldBest = o.routing.selectBest.1.selector.held := rfl
  cases hchoose : o.routing.selector.choose o.routing.ranking with
  | none =>
    rw [Routing.selectBest_of_none hchoose] at hafter hrecords hheld
    have hsame : o.selectBest.1.heldBest = o.heldBest := hheld
    refine .of_silent ⟨by rw [hrecords]; rfl, by rw [hafter]⟩ hattempts ?_
    dsimp only [Step.switches]
    rw [hsame]
    cases o.heldBest <;> simp
  | some c =>
    obtain ⟨-, -, hselector, hkept, hswitched⟩ := Routing.selectBest_of_some hchoose
    rw [hselector] at hheld
    by_cases hswitches : ∃ previous, o.heldBest = some previous ∧ previous ≠ c.tag
    · obtain ⟨previous, hprevious, hother⟩ := hswitches
      obtain ⟨hdrains, hmeasured⟩ := hswitched previous hprevious hother
      have hcounts : (⟨o, .selectBest, o.selectBest.1, o.selectBest.2.2⟩ : Step).switches = true := by
        dsimp only [Step.switches]
        rw [hprevious, hheld]
        exact decide_eq_true hother
      refine .of_same ?_ (by rw [hafter, hdrains, DrainTracker.fst_markDraining])
      rw [hcounts, hattempts.1, hattempts.2]
      exact hmeasured
    · have hstays : o.heldBest = none ∨ o.heldBest = some c.tag := by
        cases hprevious : o.heldBest with
        | none => exact .inl rfl
        | some previous =>
          by_cases htag : previous = c.tag
          · exact .inr (congrArg some htag)
          · exact absurd ⟨previous, hprevious, htag⟩ hswitches
      obtain ⟨hdrains, hmeasured⟩ := hkept hstays
      refine .of_silent ⟨hrecords ▸ hmeasured, by rw [hafter, hdrains]⟩ hattempts ?_
      dsimp only [Step.switches]
      rw [hheld]
      obtain hnone | hsame := hstays
      · rw [hnone]
      · rw [hsame]
        simp

lemma metered_conclude {move : ConnectionMove} {c : Connection} {result : Except DrainError DrainSummary}
    {last : Sink} (hs : o.scheduler.Seated) (hc : o.routing.drains.get? c.id = some c) :
    (⟨o, .connection move, { o with routing := { o.routing with
      drains := (o.routing.drains.conclude c result last).1 } }, (o.routing.drains.conclude c result last).2⟩ :
        Step).Metered := by
  have hreturned : (⟨o, .connection move, { o with routing := { o.routing with
      drains := (o.routing.drains.conclude c result last).1 } }, (o.routing.drains.conclude c result last).2⟩ :
        Step).returned = [(c.tag, result)] := by
    simp [Step.returned, DrainTracker.fst_conclude, hc]
  have hcontinues := (Scheduler.Undisturbed.refl o.scheduler).continues hs
  refine ⟨?_, ?_⟩
  · rw [Step.measured, hreturned, DrainTracker.measurements_conclude, Step.classified, hcontinues.classified_eq_nil,
      Step.skipped, hcontinues.skipped_eq_nil]
    cases result <;> rfl
  · rw [hreturned]
    simp [DrainTracker.fst_conclude]

lemma metered_connection (hs : o.scheduler.Seated) {move : ConnectionMove}
    (happens : o.perform? (.connection move) = some (p, records)) :
    (⟨o, .connection move, p, records⟩ : Step).Metered := by
  have hattempts := Step.attempts_of_call (s := ⟨o, .connection move, p, records⟩) hs rfl happens
  obtain ⟨drains, hmove, rfl⟩ := perform?_connection happens
  obtain ⟨hmeasured, hreports⟩ | ⟨c, result, last, hc, heq⟩ := DrainTracker.measuresEnds_move? hmove
  · exact .of_silent ⟨hmeasured, hreports⟩ hattempts rfl
  · obtain ⟨rfl, rfl⟩ := Prod.mk.inj heq
    exact metered_conclude hs hc

/-- Every step measures what it should and nothing else. -/
theorem metered_perform? (hs : o.scheduler.Balanced) {event : Event} (happens : o.perform? event = some (p, records)) :
    (⟨o, event, p, records⟩ : Step).Metered := by
  have hcalled (hcall : event.movesCycle = false) (hsilent : o.Silent p records)
      (hswitches : (⟨o, event, p, records⟩ : Step).switches = false) : (⟨o, event, p, records⟩ : Step).Metered :=
    .of_silent hsilent (Step.attempts_of_call hs.toSeated hcall happens) hswitches
  cases event with
  | cycle now id move => exact metered_cycle hs happens
  | deliver now id => exact metered_deliver hs.toSeated happens
  | connection move => exact metered_connection hs.toSeated happens
  | selectBest =>
    cases happens
    exact metered_selectBest hs.toSeated
  | register tag target =>
    refine hcalled rfl ?_ rfl
    cases happens
    exact o.silent_register tag target none
  | registerConfigured candidate =>
    refine hcalled rfl ?_ rfl
    cases happens
    exact o.silent_registerConfigured candidate
  | unregister tag =>
    refine hcalled rfl ?_ rfl
    cases happens
    exact o.silent_unregister tag
  | reconcile desired =>
    refine hcalled rfl ?_ rfl
    cases happens
    exact o.silent_reconcile desired
  | openConnection tag =>
    refine hcalled rfl ?_ rfl
    cases happens
    exact o.silent_openConnection tag
  | stop =>
    refine hcalled rfl ?_ rfl
    cases happens
    exact o.silent_stop
  | publisher move => exact hcalled rfl (silent_publisher happens) rfl
  | signal move =>
    refine hcalled rfl ?_ rfl
    cases happens
    exact ⟨rfl, rfl⟩
  | proceedStop now => exact hcalled rfl (silent_proceedStop? happens) rfl

end Observatory

end OutboundWatch
