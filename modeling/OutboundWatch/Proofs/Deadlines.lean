import OutboundWatch.Proofs.Clockwork
import OutboundWatch.Proofs.Completions
import OutboundWatch.Proofs.Finality
import OutboundWatch.Proofs.Quiescence
import OutboundWatch.Proofs.Settling

/-!
# The deadline of a stop

The closing of a stop is made at the moment at which all cycles and the publisher have ended, and it looks again
and again until its deadline is over. So the stop returns, with everything force-closed that is still open. The
one exception is a deadline that cannot be represented: then no closing is made, and the stop never returns.
-/

namespace OutboundWatch

/-- The tracker gives the grace of the configuration. -/
lemma Reachable.grace {o : Observatory} (ho : Reachable o) :
    o.routing.drains.grace = o.config.drain.grace :=
  ho.drains.grace

namespace Observatory

variable {o p : Observatory} {now deadline : Moment} {records : List Record}

/-- When the publisher has ended, a closing is made if its deadline can be represented. -/
lemma proceedStop?_flushing (hstage : o.stage = .flushing) (happens : o.proceedStop? now = some (p, records)) :
    now + o.routing.drains.grace.nanos < Moment.limit ∧ (∃ ticket, p.stage = .draining ticket) ∧
        p.routing.drains.closings = o.routing.drains.closings ++
          [⟨o.routing.drains.nextTicket, now + o.routing.drains.grace.nanos, now⟩] ∨
      Moment.limit ≤ now + o.routing.drains.grace.nanos ∧ p.stage = .overflowed ∧
        p.routing.drains.closings = o.routing.drains.closings := by
  simp only [proceedStop?, hstage] at happens
  split at happens
  · cases happens
  · by_cases hlimit : now + o.routing.drains.grace.nanos < Moment.limit
    · simp only [DrainTracker.beginClosing?, Moment.after?, hlimit, if_true, Option.map_some] at happens
      cases happens
      exact .inl ⟨hlimit, ⟨_, rfl⟩, rfl⟩
    · simp only [DrainTracker.beginClosing?, Moment.after?, hlimit, if_false, Option.map_none] at happens
      cases happens
      exact .inr ⟨Nat.not_lt.mp hlimit, rfl, rfl⟩

/-- A stop overflows only at a moment at which the deadline of a closing could not be represented. -/
lemma limit_le_of_overflowed (hstopped : o.isStopped = true) (hstage : o.stage ≠ .overflowed) {event : Event}
    (happens : o.perform? event = some (p, records)) (hover : p.stage = .overflowed) :
    ∃ now, event = .proceedStop now ∧ Moment.limit ≤ now + o.routing.drains.grace.nanos := by
  rcases (aftermath_of_perform? hstopped happens).stage with hsame | ⟨-, now, rfl⟩
  · exact absurd (hsame.symm.trans hover) hstage
  · refine ⟨now, rfl, ?_⟩
    rcases proceedStop?_stages happens with ⟨cycles, -, rfl⟩ | ⟨hflushing, rfl⟩ |
      ⟨-, drains, ticket, -, rfl⟩ | ⟨ticket, drains, forced, -, -, rfl⟩
    · cases hover
    · rcases proceedStop?_flushing hflushing happens with ⟨-, ⟨ticket, hdraining⟩, -⟩ | ⟨hlimit, -⟩
      · cases hdraining
      · exact hlimit
    · cases hover
    · cases hover

/-- An observatory with the given configuration that was stopped. -/
structure Stopping (config : Config) (o : Observatory) : Prop where
  reachable : Reachable o
  stopped : o.isStopped = true
  config : o.config = config

lemma Stopping.grace {config : Config} (h : Stopping config o) : o.routing.drains.grace = config.drain.grace :=
  h.config ▸ h.reachable.grace

lemma Stopping.work? {config : Config} (h : Stopping config o)
    (happens : Clockwork.work? now o = some (p, records)) : Stopping config p := by
  obtain ⟨event, hevent⟩ := h.reachable.tracked.perform?_of_work? happens
  have hrun := Run.single hevent
  exact ⟨h.reachable.run hrun, hrun.isStopped h.stopped, hrun.evolves.config.trans h.config⟩

/-- No deadline was missed: a closing that waits has the given deadline, and its next look is not much later. -/
structure OnTime (deadline : Moment) (o : Observatory) : Prop where
  stage : o.stage ≠ .overflowed
  closings : ∀ closing ∈ o.routing.drains.closings,
    closing.deadline = deadline ∧ closing.nextLook ≤ deadline + DrainTracker.lookEvery

lemma OnTime.drains (h : OnTime deadline o) (hids : (o.routing.drains.opened.map Connection.id).Nodup)
    {drains : DrainTracker} (happens : o.routing.drains.work? now = some (drains, records)) :
    OnTime deadline { o with routing := { o.routing with drains := drains } } := by
  refine ⟨h.stage, ?_⟩
  rcases DrainTracker.work?_cases hids happens with ⟨closing, hmem, -, rfl⟩ |
    ⟨c, -, transfer, -, -, ⟨-, rfl⟩ | ⟨-, rfl⟩⟩
  · have hold : ∀ other ∈ o.routing.drains.closings.filter fun c => c.ticket != closing.ticket,
        other.deadline = deadline ∧ other.nextLook ≤ deadline + DrainTracker.lookEvery :=
      fun other hother => h.closings other (List.mem_of_mem_filter hother)
    simp only [DrainTracker.look]
    split
    · exact hold
    · rename_i hwaits
      intro other hother
      rcases List.mem_append.mp hother with hbefore | hlast
      · exact hold other hbefore
      · obtain rfl := List.mem_singleton.mp hlast
        obtain ⟨hdeadline, -⟩ := h.closings closing hmem
        have hboth : ¬o.routing.drains.opened = [] ∧ now < closing.deadline := by simpa using hwaits
        exact ⟨hdeadline, Nat.add_le_add_right (Nat.le_of_lt (hdeadline ▸ hboth.2)) _⟩
  · obtain ⟨gone, -, hquiet⟩ := o.routing.drains.quiet_turnDrain now c.id
    change ∀ closing ∈ (o.routing.drains.turnDrain now c.id).1.closings, _
    rw [hquiet.closings]
    exact h.closings
  · obtain ⟨gone, -, hquiet⟩ := o.routing.drains.quiet_interruptDrain c.id
    change ∀ closing ∈ (o.routing.drains.interruptDrain c.id).1.closings, _
    rw [hquiet.closings]
    exact h.closings

/-- A stop that can meet its deadline: the closing is made, or it will be made at `now`. -/
structure Pending (config : Config) (deadline now : Moment) (o : Observatory) : Prop where
  stopping : Stopping config o
  onTime : OnTime deadline o
  decided : o.stage.isFlushed = true ∨ now + config.drain.grace.nanos = deadline ∧ deadline < Moment.limit

lemma Pending.work? {config : Config} (h : Pending config deadline now o)
    (happens : Clockwork.work? now o = some (p, records)) : Pending config deadline now p := by
  have hstopping := h.stopping.work? happens
  rcases work?_of_stopped h.stopping.reachable h.stopping.stopped happens with
    ⟨publisher, table, -, rfl⟩ | ⟨c, -, rfl⟩ | ⟨drains, hwork, rfl⟩ | hstop
  · exact ⟨hstopping, ⟨h.onTime.stage, h.onTime.closings⟩, h.decided⟩
  · exact ⟨hstopping, ⟨h.onTime.stage, h.onTime.closings⟩, h.decided⟩
  · exact ⟨hstopping, h.onTime.drains h.stopping.reachable.tracked.ids hwork, h.decided⟩
  · by_cases hflushing : o.stage = .flushing
    · -- The closing is made now, with the deadline that was said.
      have hnow : now + config.drain.grace.nanos = deadline ∧ deadline < Moment.limit :=
        h.decided.resolve_left (by simp [hflushing, StopStage.isFlushed])
      rcases proceedStop?_flushing hflushing hstop with ⟨-, ⟨ticket, hdraining⟩, hclosings⟩ | ⟨hlimit, -⟩
      · rw [h.stopping.grace, hnow.1] at hclosings
        refine ⟨hstopping, ⟨by simp [hdraining], fun closing hmem => ?_⟩, .inl (by rw [hdraining]; rfl)⟩
        rw [hclosings] at hmem
        rcases List.mem_append.mp hmem with hbefore | hlast
        · exact h.onTime.closings closing hbefore
        · obtain rfl := List.mem_singleton.mp hlast
          refine ⟨rfl, Nat.le_trans ?_ (Nat.le_add_right deadline _)⟩
          exact hnow.1 ▸ Nat.le_add_right now _
      · rw [h.stopping.grace, hnow.1] at hlimit
        exact absurd hnow.2 (Nat.not_lt.mpr hlimit)
    · rcases proceedStop?_stages hstop with ⟨cycles, hstage, rfl⟩ | ⟨hstage, -⟩ | ⟨hstage, -⟩ |
        ⟨ticket, drains, forced, hstage, htake, rfl⟩
      · refine ⟨hstopping, ⟨by simp, h.onTime.closings⟩, .inr (h.decided.resolve_left ?_)⟩
        simp [hstage, StopStage.isFlushed]
      · exact absurd hstage hflushing
      · exact absurd hstage hflushing
      · unfold DrainTracker.takeClosed at htake
        split at htake <;> cases htake
        exact ⟨hstopping, ⟨by simp, h.onTime.closings⟩, .inl rfl⟩

/-- A stop that can meet its deadline returns, if the clock goes on. -/
theorem Pending.awaitsTo {config : Config} {t : Timeline Observatory}
    (h : Pending config deadline t.now t.system) :
    ∃ u, t.AwaitsTo (·.isAnswered .first) u ∧ Stopping config u.system ∧ ∃ n, u.system.stage = .stopped n := by
  -- Every jump of the clock leaves less time until the last look.
  induction hleft : deadline + DrainTracker.lookEvery - t.now using Nat.strongRecOn generalizing t with
  | _ n ih =>
    obtain ⟨u, hsettles, hnow, hu⟩ := Timeline.exists_settlesTo (P := Pending config deadline t.now)
      (Observatory.left · t.now) (fun s s' records hs happens =>
        ⟨hs.work? happens, left_work? hs.stopping.reachable hs.stopping.stopped happens⟩) rfl h
    rcases idle_of_stopped hu.stopping.reachable hu.stopping.stopped hsettles.1 with
      hover | ⟨forced, hstopped⟩ | ⟨ticket, closing, hdraining, hmem, hlook⟩
    · exact absurd hover hu.onTime.stage
    · exact ⟨u, .of_done hsettles (by simp [isAnswered, stopResult?, hstopped]), hu.stopping, forced, hstopped⟩
    · have hmoment : closing.nextLook ∈ Clockwork.dueTimes u.system :=
        List.mem_append_right _ (List.mem_append_left _ (List.mem_map_of_mem hmem))
      obtain ⟨due, hdue, hlater, hle⟩ := Timeline.exists_nextDue? hmoment hlook
      have hlast := (hu.onTime.closings closing hmem).2
      have hless : deadline + DrainTracker.lookEvery - due < n := by
        rw [← hleft]
        rw [hnow] at hlater
        exact Nat.sub_lt_sub_left (Nat.lt_of_lt_of_le hlater (Nat.le_trans hle hlast)) hlater
      obtain ⟨v, hawaits, hv⟩ := ih _ hless (t := { u with now := due })
        ⟨hu.stopping, hu.onTime, .inl (by rw [hdraining]; rfl)⟩ rfl
      exact ⟨v, .of_jump hsettles (by simp [isAnswered, stopResult?, hdraining]) hdue hawaits, hv⟩

/-- A stop that cannot meet its deadline has not come past the publisher or has overflowed. -/
structure Late (config : Config) (now : Moment) (o : Observatory) : Prop where
  stopping : Stopping config o
  limit : Moment.limit ≤ now + config.drain.grace.nanos
  stage : o.stage.isFlushed = true → o.stage = .overflowed

lemma Late.work? {config : Config} (h : Late config now o) (happens : Clockwork.work? now o = some (p, records)) :
    Late config now p := by
  have hstopping := h.stopping.work? happens
  rcases work?_of_stopped h.stopping.reachable h.stopping.stopped happens with
    ⟨publisher, table, -, rfl⟩ | ⟨c, -, rfl⟩ | ⟨drains, -, rfl⟩ | hstop
  · exact ⟨hstopping, h.limit, h.stage⟩
  · exact ⟨hstopping, h.limit, h.stage⟩
  · exact ⟨hstopping, h.limit, h.stage⟩
  · refine ⟨hstopping, h.limit, fun hflushed => ?_⟩
    by_cases hflushing : o.stage = .flushing
    · rcases proceedStop?_flushing hflushing hstop with ⟨hless, -⟩ | ⟨-, hover, -⟩
      · rw [h.stopping.grace] at hless
        exact absurd hless (Nat.not_lt.mpr h.limit)
      · exact hover
    · rcases proceedStop?_stages hstop with ⟨cycles, -, rfl⟩ | ⟨hstage, -⟩ | ⟨hstage, -⟩ |
        ⟨ticket, drains, forced, hstage, -, -⟩
      · cases hflushed
      · exact absurd hstage hflushing
      · exact absurd hstage hflushing
      · have hover := h.stage (by rw [hstage]; rfl)
        rw [hstage] at hover
        cases hover

/-- A stop that cannot meet its deadline overflows at once. -/
theorem Late.awaitsTo {config : Config} {t : Timeline Observatory} (h : Late config t.now t.system) :
    ∃ u, t.AwaitsTo (·.isAnswered .first) u ∧ Stopping config u.system ∧ u.system.stage = .overflowed := by
  obtain ⟨u, hsettles, -, hu⟩ := Timeline.exists_settlesTo (P := Late config t.now)
    (Observatory.left · t.now) (fun s s' records hs happens =>
      ⟨hs.work? happens, left_work? hs.stopping.reachable hs.stopping.stopped happens⟩) rfl h
  have hover : u.system.stage = .overflowed := by
    rcases idle_of_stopped hu.stopping.reachable hu.stopping.stopped hsettles.1 with
      hover | ⟨forced, hstopped⟩ | ⟨ticket, closing, hdraining, -, -⟩
    · exact hover
    · exact hu.stage (by rw [hstopped]; rfl)
    · exact hu.stage (by rw [hdraining]; rfl)
  exact ⟨u, .of_done hsettles (by simp [isAnswered, hover]), hu.stopping, hover⟩

/-- A stop that has overflowed never returns. -/
lemma stopResult?_of_overflowed (hover : o.stage = .overflowed) {steps : List Step} (run : Run o steps p) :
    p.stopResult? .first = none := by
  have hstage : p.stage = .overflowed := by
    refine run.invariant (P := fun q => q.stage = .overflowed) (fun q event r made hq happens => ?_) hover
    rcases (aftermath_of_perform? (by simp [isStopped, hq]) happens).stage with hsame | ⟨-, now, rfl⟩
    · exact hsame.trans hq
    · simp [Observatory.perform?, proceedStop?, hq] at happens
  simp [stopResult?, hstage]

/-- A stop overflows in a run only at a moment at which its deadline could not be represented. -/
lemma overflow_of_run {config : Config} (h : Stopping config o) (hstage : o.stage ≠ .overflowed)
    {steps : List Step} (run : Run o steps p) (hover : p.stage = .overflowed) :
    ∃ s ∈ steps, ∃ moment, s.event = .proceedStop moment ∧
      Moment.limit ≤ moment + config.drain.grace.nanos := by
  induction run with
  | refl => exact absurd hover hstage
  | @step steps q r event made run happens ih =>
    by_cases hbefore : q.stage = .overflowed
    · obtain ⟨s, hs, hmoment⟩ := ih hbefore
      exact ⟨s, List.mem_append_left _ hs, hmoment⟩
    · have hq : Stopping config q :=
        ⟨h.reachable.run run, run.isStopped h.stopped, run.evolves.config.trans h.config⟩
      obtain ⟨moment, rfl, hlimit⟩ := limit_le_of_overflowed hq.stopped hbefore happens hover
      rw [hq.grace] at hlimit
      exact ⟨_, List.mem_append_right _ (List.mem_singleton_self _), moment, rfl, hlimit⟩

/-- A stop returns, and then everything that is still open is force-closed, if its deadline can be represented
at the moment at which it is called. Otherwise it overflows: it never returns, and nothing is force-closed. In
whatever order things happen, it overflows only when the deadline is out of reach. -/
theorem stop_meets_deadline {config : Config} {world : World} {started o : Observatory} {records : List Record}
    {steps : List Step} (hstart : start config world = .ok (started, records)) (run : Run started steps o)
    (hgoing : o.isStopped = false) (now : Moment) (journal : Journal) :
    let stopping : Timeline Observatory := ⟨now, o.stop.1, journal⟩
    (now + config.drain.grace.nanos < Moment.limit →
      ∃ u, stopping.AwaitsTo (·.isAnswered .first) u ∧ (∃ n, u.system.stopResult? .first = some n) ∧
        u.system.routing.drains.forceClosing = true ∧
        ∀ c ∈ u.system.routing.drains.opened, c.phase = .forceClosed) ∧
      (Moment.limit ≤ now + config.drain.grace.nanos →
        ∃ u, stopping.AwaitsTo (·.isAnswered .first) u ∧ u.system.stage = .overflowed ∧
          u.system.routing.drains.forceClosing = false ∧
          ∀ more p, Run u.system more p → p.stopResult? .first = none) ∧
      ∀ more p, Run o.stop.1 more p → p.stage = .overflowed →
        ∃ s ∈ more, ∃ moment, s.event = .proceedStop moment ∧
          Moment.limit ≤ moment + config.drain.grace.nanos := by
  intro stopping
  have ho : Reachable o := ⟨config, world, started, records, steps, hstart, run⟩
  have happens : o.perform? .stop = some (o.stop.1, o.stop.2.2) := rfl
  have hafter := o.stop_cases.resolve_left fun h => by cases hgoing.symm.trans h.1
  have hstage : o.stop.1.stage = .joining (o.scheduler.running.values.map RunningCycle.id) := by rw [hafter.2]
  have hconfig : o.stop.1.config = config :=
    ((Run.single happens).evolves.config.trans run.evolves.config).trans (evolves_of_start hstart).config
  have hstopping : Stopping config o.stop.1 := ⟨ho.step happens, by simp [isStopped, hstage], hconfig⟩
  have hnone : o.stop.1.routing.drains.closings = [] := by
    have hfits := hstopping.reachable.tracked.fits
    rw [hstage] at hfits
    exact hfits.2.1
  refine ⟨fun hfits => ?_, fun hlimit => ?_, fun more p run hover => ?_⟩
  · have hpending : Pending config (now + config.drain.grace.nanos) stopping.now stopping.system :=
      ⟨hstopping, ⟨by simp [stopping, hstage], by simp [stopping, hnone]⟩, .inr ⟨rfl, hfits⟩⟩
    obtain ⟨u, hawaits, hu, n, hstopped⟩ := hpending.awaitsTo
    have htracked := hu.reachable.tracked
    have hforce : u.system.routing.drains.forceClosing = true := by
      have hclosed := htracked.fits
      rw [hstopped] at hclosed
      exact hclosed.1
    exact ⟨u, hawaits, ⟨n, by simp [stopResult?, hstopped]⟩, hforce, htracked.forced hforce⟩
  · have hlate : Late config stopping.now stopping.system :=
      ⟨hstopping, hlimit, fun hflushed => by simp [stopping, hstage, StopStage.isFlushed] at hflushed⟩
    obtain ⟨u, hawaits, hu, hover⟩ := hlate.awaitsTo
    have hforce : u.system.routing.drains.forceClosing = false := by
      have hopen := hu.reachable.tracked.fits
      rw [hover] at hopen
      exact hopen.1
    exact ⟨u, hawaits, hover, hforce, fun more p run => stopResult?_of_overflowed hover run⟩
  · exact overflow_of_run hstopping (by simp [hstage]) run hover

/-- With a grace of ten seconds a stop that is called at the beginning returns. -/
theorem stop_returns_in_time :
    ∃ u, (⟨0, (create Config.bare World.desert).stop.1, Journal.empty⟩ : Timeline Observatory).AwaitsTo
      (·.isAnswered .first) u ∧ ∃ n, u.system.stopResult? .first = some n := by
  obtain ⟨records, hstart⟩ := start_bare
  have htime : 0 + Config.bare.drain.grace.nanos < Moment.limit := by decide +kernel
  obtain ⟨u, hawaits, hreturns, -⟩ := (stop_meets_deadline hstart .refl rfl 0 Journal.empty).1 htime
  exact ⟨u, hawaits, hreturns⟩

/-- The longest grace is valid, but a stop with it overflows and leaves an open connection as it is. -/
theorem stop_overflows :
    let config : Config := { Config.bare with drain := ⟨18446744073709551615⟩ }
    config.errors = [] ∧ ∃ records steps p c,
      start config World.desert = .ok (create config World.desert, records) ∧
      Run (create config World.desert) steps p ∧ p.stage = .overflowed ∧ p.stopResult? .first = none ∧
      p.routing.drains.get? 1 = some c ∧ c.phase = .active := by
  intro config
  have herrors : config.errors = [] := by decide +kernel
  obtain ⟨records, hstart⟩ := start_without_candidates World.desert herrors (by decide +kernel) rfl
  have hlast : ((create config World.desert).play? [.register "a" ⟨"a", fun _ => .instant⟩, .openConnection "a",
      .stop, .cycle 0 0 .quit, .publisher .begin, .publisher .flush, .proceedStop 0, .proceedStop 0]).map
        (fun run => (run.2.stage, (run.2.routing.drains.get? 1).map Connection.phase)) =
      some (.overflowed, some .active) := by decide +kernel
  obtain ⟨⟨steps, p⟩, hplay, heq⟩ := Option.map_eq_some_iff.mp hlast
  obtain ⟨hover, hphase⟩ := Prod.mk.inj heq
  obtain ⟨c, hc, hactive⟩ := Option.map_eq_some_iff.mp hphase
  exact ⟨herrors, records, steps, p, c, hstart, .of_play? hplay, hover,
    stopResult?_of_overflowed hover .refl, hc, hactive⟩

end Observatory

end OutboundWatch
