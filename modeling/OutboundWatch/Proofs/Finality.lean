import OutboundWatch.Proofs.Evolution
import OutboundWatch.Proofs.Halting
import OutboundWatch.Proofs.Phases

/-!
# A stop is final

Once a stop has been called, whatever would add something is refused, and another stop does nothing. Once the
stop has come to its end, the publisher and all that could write to the ranking have ended too, so that only an
unregistration changes it.
-/

namespace OutboundWatch

theorem Reachable.published {o : Observatory} (ho : Reachable o) : o.routing.table.Published := by
  obtain ⟨config, world, started, records, steps, hstart, run⟩ := ho
  exact ((Observatory.evolves_of_start hstart).trans run.evolves).published RankingTable.published_empty

/-- Whether stop is called. -/
def Step.isStop (s : Step) : Bool :=
  match s.event with
  | .stop => true
  | _ => false

namespace Observatory

variable {o p : Observatory}

/-- All calls that would add something are refused, and a stop returns 0 at once. Each of them leaves
everything as it is. -/
structure Refuses (o : Observatory) : Prop where
  register : ∀ tag target source, o.register tag target source = ⟨o, [], .error .stopped⟩
  registerConfigured : ∀ candidate, o.registerConfigured candidate = ⟨o, [], .error
    (match candidate.target.build with
      | .error reason => .invalidTarget candidate.tag reason
      | .ok _ => .stopped)⟩
  reconcile : ∀ desired, o.reconcile desired = ⟨o, [], .error .stopped⟩
  openConnection : ∀ tag, o.openConnection tag = ⟨o, [], .error .stopped⟩
  stop : o.stop = (o, .repeated, []) ∧ o.stopResult? .repeated = some 0

lemma refuses_of_stopped (hstopped : o.isStopped = true) : o.Refuses where
  register tag target source := by simp [Observatory.register, hstopped]
  registerConfigured candidate := by
    unfold Observatory.registerConfigured
    cases candidate.target.build with
    | error reason => rfl
    | ok built => simp [Observatory.register, hstopped]
  reconcile desired := by simp [Observatory.reconcile, hstopped]
  openConnection tag := by simp [Observatory.openConnection, hstopped]
  stop := ⟨by simp [Observatory.stop, hstopped], rfl⟩

/-- What an event leads to after a stop. -/
structure Aftermath (o : Observatory) (event : Event) (p : Observatory) : Prop where
  nextId : p.routing.drains.nextId = o.routing.drains.nextId
  stage : p.stage = o.stage ∨ p.stage ≠ .running ∧ ∃ now, event = .proceedStop now
  table : (∃ key c, event = .unregister key ∧ o.registry.get? key = some c ∧
      p.routing.table = (o.routing.table.apply [.remove key c.generation]).1) ∨
    (∀ records tag, Step.unregisters tag ⟨o, event, p, records⟩ = false) ∧
      (p.routing.table = o.routing.table ∨ ∃ move, event = .publisher move)

lemma Aftermath.same {event : Event} (hkeeps : ∀ records tag, Step.unregisters tag ⟨o, event, o, records⟩ = false) :
    o.Aftermath event o :=
  ⟨rfl, .inl rfl, .inr ⟨hkeeps, .inl rfl⟩⟩

/-- After a stop, calls that register, open or stop change nothing, an unregistration ends a registration, and
otherwise at most the publisher writes to the ranking. -/
theorem aftermath_of_perform? (hstopped : o.isStopped = true) {event : Event} {records : List Record}
    (happens : o.perform? event = some (p, records)) : o.Aftermath event p := by
  have hrefuses := refuses_of_stopped hstopped
  cases event with
  | register tag target =>
    rw [eq_of_perform?_effect happens, hrefuses.register]
    exact .same fun _ _ => rfl
  | registerConfigured candidate =>
    rw [eq_of_perform?_effect happens, hrefuses.registerConfigured]
    exact .same fun _ _ => rfl
  | unregister key =>
    rw [eq_of_perform?_effect happens]
    rcases o.unregister_cases key with ⟨hnone, hrefused⟩ | ⟨c, hc, hdismissed, -⟩
    · rw [hrefused]
      have habsent : o.registry.contains key = false := congrArg Option.isSome hnone
      refine .same fun _ tag => ?_
      by_cases hkey : key = tag
      · simp [Step.unregisters, ← hkey, habsent]
      · simp [Step.unregisters, hkey]
    · rw [hdismissed]
      exact ⟨rfl, .inl rfl, .inl ⟨key, c, rfl, hc, rfl⟩⟩
  | reconcile desired =>
    rw [eq_of_perform?_effect happens, hrefuses.reconcile]
    exact .same fun _ _ => by simp [Step.unregisters, ended]
  | selectBest =>
    cases happens
    obtain ⟨hcarries, -, -, -, -, hstage⟩ := o.carries_selectBest
    refine ⟨hcarries.nextId, .inl hstage, .inr ⟨fun _ _ => rfl, .inl ?_⟩⟩
    rcases o.selectBest_cases with hsame | ⟨chosen, -, -, hselected⟩
    · rw [hsame]
    · rw [hselected]
  | openConnection tag =>
    rw [eq_of_perform?_effect happens, hrefuses.openConnection]
    exact .same fun _ _ => rfl
  | stop =>
    cases happens
    rw [hrefuses.stop.1]
    exact .same fun _ _ => rfl
  | cycle now id move =>
    obtain ⟨scheduler, -, rfl⟩ := perform?_cycle happens
    exact ⟨rfl, .inl rfl, .inr ⟨fun _ _ => rfl, .inl rfl⟩⟩
  | deliver now id =>
    obtain ⟨c, status, -, -, hdeliver⟩ := perform?_deliver happens
    rcases deliver?_cases hdeliver with ⟨feed, -, rfl⟩ | ⟨-, rfl⟩
    · exact ⟨rfl, .inl rfl, .inr ⟨fun _ _ => rfl, .inl rfl⟩⟩
    · exact ⟨rfl, .inl rfl, .inr ⟨fun _ _ => rfl, .inl rfl⟩⟩
  | publisher move =>
    obtain ⟨publisher, table, -, rfl⟩ := perform?_publisher happens
    exact ⟨rfl, .inl rfl, .inr ⟨fun _ _ => rfl, .inr ⟨move, rfl⟩⟩⟩
  | connection move =>
    obtain ⟨drains, hmove, rfl⟩ := perform?_connection happens
    refine ⟨?_, .inl rfl, .inr ⟨fun _ _ => rfl, .inl rfl⟩⟩
    rcases DrainTracker.move?_cases hmove with ⟨gone, -, hquiet⟩ | ⟨now, ticket, closing, -, -, -, rfl⟩
    · exact hquiet.nextId
    · rcases o.routing.drains.look_cases now closing with ⟨hcarries, -⟩ | ⟨hcarries, -⟩
      · exact hcarries.nextId
      · exact hcarries.nextId
  | signal move =>
    cases happens
    exact ⟨rfl, .inl rfl, .inr ⟨fun _ _ => rfl, .inl rfl⟩⟩
  | proceedStop now =>
    obtain ⟨-, drains, stage, -, hnext, -, hstage, rfl⟩ := proceedStop?_cases happens
    exact ⟨hnext, .inr ⟨hstage, now, rfl⟩, .inr ⟨fun _ _ => rfl, .inl rfl⟩⟩

lemma isStopped_of_perform? (hstopped : o.isStopped = true) {event : Event} {records : List Record}
    (happens : o.perform? event = some (p, records)) : p.isStopped = true := by
  rcases (aftermath_of_perform? hstopped happens).stage with hsame | ⟨hstage, -⟩
  · rwa [isStopped, hsame]
  · simpa [isStopped] using hstage

/-- Once a stop has come to its end, a step changes the ranking only if it unregisters a candidate, and then
the entry of this candidate goes. -/
theorem entries_of_perform? (ho : Reachable o) {n : Nat} (hstage : o.stage = .stopped n) {event : Event}
    {records : List Record} (happens : o.perform? event = some (p, records)) :
    p.stage = .stopped n ∧ p.ranking.entries =
      o.ranking.entries.filter fun status => !Step.unregisters status.tag ⟨o, event, p, records⟩ := by
  have hstopped : o.isStopped = true := by simp [isStopped, hstage]
  obtain ⟨-, hstages, htable⟩ := aftermath_of_perform? hstopped happens
  refine ⟨?_, ?_⟩
  · rcases hstages with hsame | ⟨-, now, rfl⟩
    · exact hsame.trans hstage
    · simp [perform?, proceedStop?, hstage] at happens
  · rcases htable with ⟨key, c, rfl, hc, heq⟩ | ⟨hkeeps, hsame | ⟨move, rfl⟩⟩
    · have hpresent : o.registry.contains key = true := (TagMap.contains_iff _ _).mpr ⟨c, hc⟩
      refine ho.published.entries_filter (ho.step happens).published
        (fun tag => !Step.unregisters tag ⟨o, .unregister key, p, records⟩) fun tag => ?_
      have hranked := ho.agreement.ranked key
      rw [hc] at hranked
      obtain ⟨s, hs, hgeneration⟩ := Option.map_eq_some_iff.mp hranked
      rw [heq, RankingTable.members_apply, List.foldl_cons, List.foldl_nil, RankingTable.get?_step_remove]
      by_cases hkey : tag = key
      · subst hkey
        simp [Step.unregisters, hpresent, hs, hgeneration, Option.filter]
      · have hother : ¬key = tag := fun heq => hkey heq.symm
        simp only [Step.unregisters, hother, decide_false, Bool.false_and, Bool.not_false, if_true]
        cases o.routing.table.members.get? tag <;> simp [hkey, Option.filter]
    · simp [ranking, Routing.ranking, hsame, hkeeps]
    · -- The publisher has ended before the stop could come to its end.
      obtain ⟨publisher, table, hmove, -⟩ := perform?_publisher happens
      exact absurd (ho.halting.ended (by rw [hstage]; rfl)) (Publisher.phase_move? hmove).1

end Observatory

namespace Run

variable {o p : Observatory} {steps : List Step}

lemma isStopped (hstopped : o.isStopped = true) (run : Run o steps p) : p.isStopped = true :=
  run.invariant (fun _ _ _ _ h happens => Observatory.isStopped_of_perform? h happens) hstopped

/-- Without the further calls of stop, a run after a stop leads to the same state. -/
lemma without_stops (hstopped : o.isStopped = true) (run : Run o steps p) :
    Run o (steps.filter fun s => !s.isStop) p := by
  induction run with
  | refl => exact .refl
  | @step steps p q event records run happens ih =>
    rw [List.filter_append]
    by_cases hstop : event = .stop
    · subst hstop
      have hsame := (Observatory.refuses_of_stopped (run.isStopped hstopped)).stop.1
      simp only [Observatory.perform?, hsame] at happens
      cases happens
      simpa [Step.isStop] using ih
    · have hkept : Step.isStop ⟨p, event, q, records⟩ = false := by
        cases event <;> first | rfl | exact absurd rfl hstop
      simp only [List.filter_cons, List.filter_nil, hkept, Bool.not_false, if_true]
      exact ih.step happens

lemma nextId_of_stopped (hstopped : o.isStopped = true) (run : Run o steps p) :
    p.routing.drains.nextId = o.routing.drains.nextId := by
  induction run with
  | refl => rfl
  | step run happens ih =>
    exact (Observatory.aftermath_of_perform? (run.isStopped hstopped) happens).nextId.trans ih

lemma entries_of_stopped (ho : Reachable o) {n : Nat} (hstage : o.stage = .stopped n) (run : Run o steps p) :
    p.stage = .stopped n ∧ p.ranking.entries =
      o.ranking.entries.filter fun status => !steps.any (Step.unregisters status.tag) := by
  induction run with
  | refl => exact ⟨hstage, by simp⟩
  | step run happens ih =>
    obtain ⟨hstage', hentries⟩ := Observatory.entries_of_perform? (ho.run run) ih.1 happens
    refine ⟨hstage', ?_⟩
    rw [hentries, ih.2, List.filter_filter]
    congr 1
    funext status
    simp [Bool.and_comm]

/-- After a stop was called, whatever else is called and happens, all calls that would add something are
refused and change nothing, no connection is opened, and a further stop returns 0 at once. Without the further
stops everything happens in the same way, so that the first one has the same result and force-closes the same
connections. When the first stop has returned, its result stands, and the ranking only loses the entries of
candidates that are unregistered. -/
theorem after_stop (ho : Reachable o) (hstopped : o.isStopped = true) (run : Run o steps p) :
    p.Refuses ∧ Run o (steps.filter fun s => !s.isStop) p ∧
      (∀ d ∈ p.routing.drains.opened, ∃ c ∈ o.routing.drains.opened, c.id = d.id ∧ c.tag = d.tag) ∧
      ∀ n, o.stopResult? .first = some n → p.stopResult? .first = some n ∧
        p.ranking.entries =
          o.ranking.entries.filter fun status => !steps.any (Step.unregisters status.tag) := by
  refine ⟨Observatory.refuses_of_stopped (run.isStopped hstopped), run.without_stops hstopped, ?_, ?_⟩
  · intro d hd
    have hfresh := (ho.run run).tracked.fresh d hd
    rw [run.nextId_of_stopped hstopped] at hfresh
    obtain ⟨c, hc, hid, htag, -⟩ := (run.pushes ho).phases d hd hfresh
    exact ⟨c, hc, hid, htag⟩
  · intro n hreturned
    have hstage : o.stage = .stopped n := by
      simp only [Observatory.stopResult?] at hreturned
      split at hreturned
      · rename_i forced hstage
        cases hreturned
        exact hstage
      · cases hreturned
    obtain ⟨hstage', hentries⟩ := run.entries_of_stopped ho hstage
    exact ⟨by simp [Observatory.stopResult?, hstage'], hentries⟩

end Run

/-- After a stop that had one candidate, the ranking is empty once the candidate is unregistered, and further
stops do nothing. -/
theorem ranking_after_stop :
    ∃ o p steps, Reachable o ∧ o.stopResult? .first = some 0 ∧ o.ranking.entries.length = 1 ∧
      Run o steps p ∧ p.stopResult? .first = some 0 ∧ p.ranking.entries = [] ∧ p.stop = (p, .repeated, []) := by
  let initial := Observatory.create Config.bare World.desert
  let target : ProbeTarget := ⟨"a", fun _ => .instant⟩
  obtain ⟨⟨made, o⟩, ho⟩ : ∃ outcome, initial.play? [.register "a" target, .stop, .cycle 0 0 .quit,
      .publisher .begin, .publisher .flush, .proceedStop 0, .proceedStop 0, .connection (.look 0 0),
      .proceedStop 0] = some outcome := ⟨_, rfl⟩
  obtain ⟨⟨steps, p⟩, hp⟩ : ∃ outcome, o.play? [.stop, .unregister "a"] = some outcome := by
    cases ho
    exact ⟨_, rfl⟩
  have hreach := reachable_bare.run (Run.of_play? ho)
  have hstage : o.stage = .stopped 0 := by
    cases ho
    rfl
  obtain ⟨hrefuses, -, -, hfinal⟩ := (Run.of_play? hp).after_stop hreach (by simp [Observatory.isStopped, hstage])
  obtain ⟨hresult, hentries⟩ := hfinal 0 (by simp [Observatory.stopResult?, hstage])
  refine ⟨o, p, steps, hreach, ?_, ?_, Run.of_play? hp, hresult, ?_, hrefuses.stop.1⟩
  · simp [Observatory.stopResult?, hstage]
  · cases ho
    decide +kernel
  · rw [hentries]
    cases ho
    cases hp
    decide +kernel

end OutboundWatch
