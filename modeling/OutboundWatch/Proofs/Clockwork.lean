import OutboundWatch.Proofs.Publishing
import OutboundWatch.Proofs.Tracking

/-!
# What the clock does is a run

An observatory whose clock moves does one due thing after the other. Each of them is a step of a run, so
that what holds over all runs holds of an observatory that works by the clock, whatever the clock does.
-/

namespace OutboundWatch

lemma Publisher.move?_of_work? {p : Publisher} {table : RankingTable}
    {result : Publisher × RankingTable × List Record}
    (happens : p.work? table = some result) : ∃ move, p.move? table move = some result := by
  obtain ⟨turn, hturn⟩ := turn?_of_work? happens
  rw [turn?_eq_move?] at hturn
  exact ⟨p.moveOf turn, hturn⟩

lemma Scheduler.move?_of_work? {s : Scheduler} (h : s.Sound) {now : Moment} {result : Scheduler × List Record}
    (happens : s.work? now = some result) : ∃ id move, s.move? now id move = some result := by
  obtain ⟨c, hfirst, rfl⟩ := Option.map_eq_some_iff.mp happens
  have hmem : c ∈ s.live.filter (s.isDue now) := by
    rw [Option.or_eq_some_iff, Option.or_eq_some_iff] at hfirst
    rcases hfirst with (hfound | ⟨-, hfound⟩) | ⟨-, hhead⟩
    · exact List.mem_of_find?_eq_some hfound
    · exact List.mem_of_find?_eq_some hfound
    · exact List.mem_of_mem_head? hhead
  have hget := h.get?_eq (List.mem_of_mem_filter hmem)
  unfold act
  split
  · rename_i hstopping
    exact ⟨c.id, .quit, by simp [move?, hget, Option.filter, hstopping]⟩
  · exact ⟨c.id, .advance, by simp [move?, hget]⟩

/-- What the tracker has to do is a move that it can make, if at most one closing waits. -/
lemma DrainTracker.move?_of_work? {t : DrainTracker} (honly : ∀ c ∈ t.closings, t.closings = [c])
    {now : Moment}
    {result : DrainTracker × List Record} (happens : t.work? now = some result) :
    ∃ move, t.move? move = some result := by
  have hfound : ∀ c ∈ t.opened, ∃ d, t.get? c.id = some d := fun c hc => by
    rw [← Option.isSome_iff_exists, get?, List.find?_isSome]
    exact ⟨c, hc, by simp⟩
  unfold work? at happens
  split at happens
  · rename_i closing hclosing
    refine ⟨.look now closing.ticket, ?_⟩
    simpa [move?, honly closing (List.mem_of_find?_eq_some hclosing)] using happens
  · split at happens
    · rename_i c hc
      obtain ⟨d, hd⟩ := hfound c (List.mem_of_find?_eq_some hc)
      exact ⟨.turn now c.id, by simpa [move?, hd] using happens⟩
    · split at happens
      · rename_i c hc
        obtain ⟨d, hd⟩ := hfound c (List.mem_of_find?_eq_some hc)
        exact ⟨.interrupt c.id, by simpa [move?, hd] using happens⟩
      · cases happens

/-- What an observatory has to do is a step that it can make. -/
theorem Tracked.perform?_of_work? {o : Observatory} (h : Tracked o) {now : Moment}
    {result : Observatory × List Record}
    (happens : Clockwork.work? now o = some result) : ∃ event, o.perform? event = some result := by
  simp only [Clockwork.work?, Option.orElse_eq_orElse, Option.orElse_eq_or, Option.or_eq_some_iff] at happens
  rcases happens with hpublisher | ⟨-, hdelivery | ⟨-, hscheduler | ⟨-, hdrain | ⟨-, hstop⟩⟩⟩⟩
  · obtain ⟨after, hafter, rfl⟩ := Option.map_eq_some_iff.mp hpublisher
    obtain ⟨move, hmove⟩ := Publisher.move?_of_work? hafter
    exact ⟨.publisher move, by simp [Observatory.perform?, hmove]⟩
  · obtain ⟨⟨c, status⟩, hreport, hdeliver⟩ := Option.bind_eq_some_iff.mp hdelivery
    obtain ⟨d, hd, hfound⟩ := List.exists_of_findSome?_eq_some hreport
    split at hfound
    · rename_i hstage
      split at hfound
      · cases hfound
      · cases hfound
        refine ⟨.deliver now c.id, ?_⟩
        simp only [Observatory.perform?, h.ordered.sound.get?_eq hd, hstage]
        exact hdeliver
    · cases hfound
  · obtain ⟨after, hafter, rfl⟩ := Option.map_eq_some_iff.mp hscheduler
    obtain ⟨id, move, hmove⟩ := Scheduler.move?_of_work? h.ordered.sound hafter
    exact ⟨.cycle now id move, by simp [Observatory.perform?, hmove]⟩
  · obtain ⟨after, hafter, rfl⟩ := Option.map_eq_some_iff.mp hdrain
    obtain ⟨move, hmove⟩ := DrainTracker.move?_of_work? (fun _ hc => (h.fits.waiting hc).2.2.2) hafter
    exact ⟨.connection move, by simp [Observatory.perform?, hmove]⟩
  · exact ⟨.proceedStop now, hstop⟩

namespace Timeline

variable {t : Timeline Observatory}

/-- All that is due is done in a run. -/
theorem run_settle (ht : Reachable t.system) (bound : Nat) :
    ∃ steps, Run t.system steps (t.settle bound).system := by
  induction bound generalizing t with
  | zero => exact ⟨[], .refl⟩
  | succ bound ih =>
    simp only [settle]
    split
    · exact ⟨[], .refl⟩
    · rename_i system records happens
      obtain ⟨event, hevent⟩ := ht.tracked.perform?_of_work? happens
      obtain ⟨steps, hsteps⟩ := ih (t := t.proceed system records) (ht.step hevent)
      exact ⟨_, (Run.single hevent).trans hsteps⟩

theorem run_advanceTo (ht : Reachable t.system) (moment : Moment) (bound : Nat) :
    ∃ steps, Run t.system steps (t.advanceTo moment bound).system := by
  induction bound generalizing t with
  | zero => exact ⟨[], .refl⟩
  | succ bound ih =>
    obtain ⟨steps, hsteps⟩ := run_settle ht (bound + 1)
    simp only [advanceTo]
    split
    · exact ⟨steps, hsteps⟩
    · split
      · rename_i due _ _
        obtain ⟨more, hmore⟩ := ih (t := { t.settle (bound + 1) with now := due }) (ht.run hsteps)
        exact ⟨_, hsteps.trans hmore⟩
      · exact ⟨steps, hsteps⟩

theorem run_awaitUntil (ht : Reachable t.system) (done : Observatory → Bool) (bound : Nat) :
    ∃ steps, Run t.system steps (t.awaitUntil done bound).system := by
  induction bound generalizing t with
  | zero => exact ⟨[], .refl⟩
  | succ bound ih =>
    obtain ⟨steps, hsteps⟩ := run_settle ht (bound + 1)
    simp only [awaitUntil]
    split
    · exact ⟨steps, hsteps⟩
    · split
      · exact ⟨steps, hsteps⟩
      · rename_i due _
        obtain ⟨more, hmore⟩ := ih (t := { t.settle (bound + 1) with now := due }) (ht.run hsteps)
        exact ⟨_, hsteps.trans hmore⟩

end Timeline

end OutboundWatch
