import OutboundWatch.Proofs.Counters
import OutboundWatch.Proofs.Spacing

/-!
# How attempts come out

An attempt comes to its end when its result is classified, or when its cycle has waited for a permit in vain and goes
back to sleep. Both show in what has become of the cycle, whatever has happened in between and whatever was recorded.
Only the end of a stage brings them about, and only for the cycle whose stage it is: calls leave all stages as they
are, and a cycle that is handed a permit goes on with its attempt.
-/

namespace OutboundWatch

/-- A result that was classified, and the label that this led to. -/
structure Classification where
  tag : String
  result : ProbeResult
  label : StateLabel

/-- Whether a result leads from one health to another, at the time that the latter tells. -/
def Classifier.leads (classifier : Classifier) (before after : Health) (result : ProbeResult) : Bool :=
  after.lastProbe.any fun time => decide (classifier.observe time before result = after)

namespace Cycle

def isAsleep (c : Cycle) : Bool :=
  match c.stage with
  | .sleeping _ => true
  | _ => false

/-- What was classified if the cycle `c` has become `d`: the round trip of `c` is over, and `d` has the health that its
result leads to and reports it. -/
def classification? (settings : CycleSettings) (c d : Cycle) : Option Classification :=
  match c.stage with
  | .probing trip _ =>
    let result := trip.judge settings.timeout
    if d.isReporting && settings.classifier.leads c.health d.health result then
      some ⟨c.tag, result, d.health.state.label⟩
    else none
  | _ => none

/-- The tag, if the cycle `c` has waited for a permit and has become `d`, which sleeps and does not wait any more. -/
def skip? (waiting : List Nat) (c d : Cycle) : Option String :=
  if c.isQueued && d.isAsleep && !waiting.contains d.id then some c.tag else none

/-- The attempt of `c`, if there is one, has not come to its end in `d`: the stage is the same, or `d` has got the permit
for which `c` waited. -/
def GoesOn (c d : Cycle) : Prop := c.stage = d.stage ∨ c.isQueued = true ∧ d.holdsPermit = true

variable {settings : CycleSettings} {waiting : List Nat} {c d : Cycle}

lemma isAsleep_of_holdsPermit (h : c.holdsPermit = true) : c.isAsleep = false := by
  unfold holdsPermit at h
  unfold isAsleep
  cases hstage : c.stage <;> simp [hstage] at h ⊢

lemma classification?_eq_none (h : c.holdsPermit = false) : c.classification? settings d = none := by
  unfold classification?
  cases hstage : c.stage with
  | probing trip startedAt => simp [holdsPermit, hstage] at h
  | _ => rfl

lemma skip?_eq_none (h : c.isQueued = false) : c.skip? waiting d = none := by
  simp [skip?, h]

lemma GoesOn.classification?_eq_none (h : c.GoesOn d) : c.classification? settings d = none := by
  obtain hsame | ⟨hqueued, -⟩ := h
  · unfold classification? isReporting CycleStage.unsent
    rw [← hsame]
    cases c.stage <;> rfl
  · exact Cycle.classification?_eq_none (Scheduler.holdsPermit_of_isQueued hqueued)

lemma GoesOn.skip?_eq_none (h : c.GoesOn d) : c.skip? waiting d = none := by
  have hawake : (c.isQueued && d.isAsleep) = false := by
    obtain hsame | ⟨-, hholds⟩ := h
    · unfold isQueued isAsleep
      rw [hsame]
      cases d.stage <;> rfl
    · rw [isAsleep_of_holdsPermit hholds, Bool.and_false]
  rw [skip?, hawake]
  rfl

/-- The end of a round trip is a classification. -/
lemma classification?_finishTrip {now : Moment} {trip : RoundTrip} {startedAt : Moment}
    (hstage : c.stage = .probing trip startedAt) :
    c.classification? settings (c.finishTrip settings now trip).1 =
      some ⟨c.tag, trip.judge settings.timeout, (settings.classifier.observe (settings.epoch + now) c.health
        (trip.judge settings.timeout)).state.label⟩ := by
  have hleads : settings.classifier.leads c.health (c.finishTrip settings now trip).1.health
      (trip.judge settings.timeout) = true := by
    rw [Classifier.leads, finishTrip, settings.classifier.lastProbe_observe]
    simp
  rw [classification?, hstage]
  dsimp only
  rw [hleads]
  rfl

/-- A cycle that goes back to sleep without a permit has skipped its attempt. -/
lemma skip?_sleepFrom (hqueued : c.isQueued = true) (hout : c.id ∉ waiting) (now : Moment) :
    c.skip? waiting (c.sleepFrom now) = some c.tag := by
  simp [skip?, hqueued, isAsleep, sleepFrom, hout]

end Cycle

namespace Scheduler

/-- The cycles that are live in both of two states, each as it was and as it is. -/
def survivors (s t : Scheduler) : List (Cycle × Cycle) :=
  s.live.filterMap fun c => (t.get? c.id).map fun d => (c, d)

/-- What was classified between two states. -/
def classified (s t : Scheduler) : List Classification :=
  (s.survivors t).filterMap fun (c, d) => c.classification? s.settings d

/-- The tags of the attempts that were given up between two states for want of a permit. -/
def skipped (s t : Scheduler) : List String :=
  (s.survivors t).filterMap fun (c, d) => c.skip? t.waiting d

/-- No attempt has come to its end from one state to another, but for those of the cycle that has moved. -/
def Continues (s : Scheduler) (mover : Option Nat) (t : Scheduler) : Prop :=
  ∀ c ∈ s.live, mover ≠ some c.id → ∀ d, t.get? c.id = some d → c.GoesOn d

variable {s t u : Scheduler} {now : Moment} {id : Nat} {c d : Cycle} {place : Option Cycle} {event : SchedulerEvent}

lemma filterMap_survivors_eq_nil {β : Type} {f : Cycle × Cycle → Option β}
    (h : ∀ c ∈ s.live, ∀ d, t.get? c.id = some d → f (c, d) = none) : (s.survivors t).filterMap f = [] := by
  refine List.filterMap_eq_nil_iff.mpr fun pair hpair => ?_
  obtain ⟨c, hc, hd⟩ := List.mem_filterMap.mp hpair
  obtain ⟨d, hget, rfl⟩ := Option.map_eq_some_iff.mp hd
  exact h c hc d hget

/-- Only one cycle matters if nothing comes of the others. -/
lemma Seated.filterMap_survivors {β : Type} {f : Cycle × Cycle → Option β} (hs : s.Seated) (hc : s.get? id = some c)
    (hothers : ∀ x ∈ s.live, x.id ≠ id → ∀ d, t.get? x.id = some d → f (x, d) = none) :
    (s.survivors t).filterMap f = ((t.get? id).bind fun d => f (c, d)).toList := by
  obtain ⟨xs, ys, hlive, rfl, hdistinct⟩ := hs.split hc
  have hnone : ∀ zs : List Cycle, (∀ x ∈ zs, x ∈ s.live) → (∀ x ∈ zs, x.id ≠ c.id) →
      zs.filterMap (fun x => ((t.get? x.id).map fun d => (x, d)).bind f) = [] := by
    intro zs hmem hne
    refine List.filterMap_eq_nil_iff.mpr fun x hx => ?_
    cases hget : t.get? x.id with
    | none => rfl
    | some d => exact hothers x (hmem x hx) (hne x hx) d hget
  have hxs := hnone xs (fun x hx => by rw [hlive]; simp [hx]) fun x hx => hdistinct x (List.mem_append_left _ hx)
  have hys := hnone ys (fun x hx => by rw [hlive]; simp [hx]) fun x hx => hdistinct x (List.mem_append_right _ hx)
  rw [survivors, List.filterMap_filterMap, hlive, List.filterMap_append, List.filterMap_cons, hxs, hys]
  cases t.get? c.id with
  | none => rfl
  | some d => cases hf : f (c, d) <;> simp [hf]

namespace Continues

lemma classified_eq_nil (h : s.Continues none t) : s.classified t = [] :=
  filterMap_survivors_eq_nil fun c hc d hd => (h c hc (by simp) d hd).classification?_eq_none

lemma skipped_eq_nil (h : s.Continues none t) : s.skipped t = [] :=
  filterMap_survivors_eq_nil fun c hc d hd => (h c hc (by simp) d hd).skip?_eq_none

variable (h : s.Continues (some id) t) (hs : s.Seated) (hc : s.get? id = some c)

include h hs hc

lemma classified_eq :
    s.classified t = ((t.get? id).bind fun d => c.classification? s.settings d).toList :=
  hs.filterMap_survivors hc fun x hx hne d hd => (h x hx (by simpa using hne.symm) d hd).classification?_eq_none

lemma skipped_eq : s.skipped t = ((t.get? id).bind fun d => c.skip? t.waiting d).toList :=
  hs.filterMap_survivors hc fun x hx hne d hd => (h x hx (by simpa using hne.symm) d hd).skip?_eq_none

lemma classified_eq_nil_of_idle (hidle : c.holdsPermit = false) : s.classified t = [] := by
  rw [h.classified_eq hs hc]
  cases t.get? id with
  | none => rfl
  | some d => rw [Option.bind_some, Cycle.classification?_eq_none hidle, Option.toList_none]

lemma skipped_eq_nil_of_idle (hidle : c.isQueued = false) : s.skipped t = [] := by
  rw [h.skipped_eq hs hc]
  cases t.get? id with
  | none => rfl
  | some d => rw [Option.bind_some, Cycle.skip?_eq_none hidle, Option.toList_none]

/-- Nothing comes of an attempt whose cycle has ended. -/
lemma eq_nil_of_ended (hended : t.get? id = none) : s.classified t = [] ∧ s.skipped t = [] := by
  rw [h.classified_eq hs hc, h.skipped_eq hs hc, hended]
  exact ⟨rfl, rfl⟩

end Continues

/-- Every cycle is in the stage in which it was, or is a new one. -/
structure Undisturbed (s t : Scheduler) : Prop where
  nextId : s.nextId ≤ t.nextId
  live : ∀ d ∈ t.live, s.Stays d ∨ s.nextId ≤ d.id

namespace Undisturbed

lemma refl (s : Scheduler) : s.Undisturbed s := ⟨le_refl _, fun _ hd => .inl (stays_of_mem hd)⟩

lemma trans (first : s.Undisturbed t) (second : t.Undisturbed u) : s.Undisturbed u where
  nextId := first.nextId.trans second.nextId
  live d hd := by
    obtain ⟨e, he, hid, hstage⟩ | hnew := second.live d hd
    · rw [← hid]
      obtain ⟨c, hc, hsame, heq⟩ | hnew := first.live e he
      · exact .inl ⟨c, hc, hsame.trans hid, heq.trans hstage⟩
      · exact .inr hnew
    · exact .inr (first.nextId.trans hnew)

lemma of_call (hcall : event.mover? = none) (happens : s.perform? event = some t) : s.Undisturbed t where
  nextId := nextId_le_perform? happens
  live d hd := by
    obtain htold | ⟨-, hnew⟩ := told_perform? hcall happens hd
    · exact .inl htold.stays
    · exact .inr hnew.ge

lemma continues (h : s.Undisturbed t) (hs : s.Seated) : s.Continues none t := by
  intro c hc _ d hd
  obtain ⟨hmem, hid⟩ := mem_of_get? hd
  obtain ⟨e, he, hsame, hstage⟩ | hnew := h.live d hmem
  · rw [hs.eq_of_id hc he (hid.symm.trans hsame.symm)]
    exact .inl hstage
  · have hold := hs.fresh c hc
    omega

end Undisturbed

/-- The move of one cycle ends no attempt of another one. -/
theorem continues_perform? (hs : s.Seated) (happens : s.perform? event = some t) : s.Continues event.mover? t := by
  obtain ⟨hcall, -⟩ | ⟨now, id, c, place, hmover, hc, hplace, hpasses, -⟩ := perform?_cases hs happens
  · rw [hcall]
    exact (Undisturbed.of_call hcall happens).continues hs
  · intro x hx hother d hd
    rw [hmover] at hother
    obtain ⟨hmem, hid⟩ := mem_of_get? hd
    obtain ⟨hold, -⟩ | hown | ⟨e, he, -, hqueued, rfl⟩ := hpasses.mem_live hs hc hplace hmem
    · rw [hs.eq_of_id hold hx hid]
      exact .inl rfl
    · exact absurd (congrArg some ((hplace d hown).symm.trans hid)) hother
    · rw [← hs.eq_of_id he hx hid]
      exact .inr ⟨hqueued, rfl⟩

/-- A cycle that has moved is found in its place. -/
lemma Passes.get?_some (h : s.Passes now id c (some d) t) (hs : s.Seated) (hc : s.get? id = some c)
    (hplace : d.id = id) (ht : t.Seated) : t.get? id = some d := by
  have hall : ∀ e ∈ some d, e.id = id := fun e he => by cases he; exact hplace
  suffices hmem : d ∈ t.live by
    rw [← hplace]
    exact get?_eq_of_nodup ht.ids hmem
  have hmoved {m : Scheduler} (moved : s.Moved id (some d) m) : d ∈ m.live :=
    (moved.mem_live_iff hs hc d).mpr (.inr rfl)
  cases h with
  | idle moved => exact hmoved moved
  | takes moved => exact hmoved moved
  | gives moved _ _ _ leaves =>
    have hseated := moved.seated hs hc hall
    obtain ⟨-, heq⟩ | ⟨next, e, -, he, hqueued, handed, -⟩ := hseated.returnPermit_cases now
    · have hmem := hmoved moved
      rw [heq]
      exact hmem
    · refine (handed.mem_live_iff hseated he d).mpr (.inl ⟨hmoved moved, fun heq => ?_⟩)
      obtain ⟨hmem, hid⟩ := mem_of_get? he
      rw [← hseated.eq_of_id (hmoved moved) hmem (heq.trans hid.symm), leaves d rfl] at hqueued
      cases hqueued

lemma perform?_advance (hc : s.get? id = some c) (now : Moment) :
    s.perform? (.move now id .advance) = some (s.goOn now c).1 := by
  simp [perform?, move?, hc]

/-- The end of a stage is a classification if the stage was a round trip. -/
lemma Balanced.classified_goOn (hs : s.Balanced) (hc : s.get? id = some c) (now : Moment) :
    s.classified (s.goOn now c).1 =
      match c.stage with
      | .probing trip _ => [⟨c.tag, trip.judge s.settings.timeout, (s.settings.classifier.observe
          (s.settings.epoch + now) c.health (trip.judge s.settings.timeout)).state.label⟩]
      | _ => [] := by
  have happens := perform?_advance hc now
  have hcontinues := continues_perform? hs.toSeated happens
  cases hstage : c.stage with
  | probing trip startedAt =>
    have hpasses : s.Passes now id c _ _ := hs.passes_complete hc hstage
    obtain ⟨-, hid⟩ := mem_of_get? hc
    have hgoes : (s.goOn now c).1 = (s.complete now trip c).1 := by rw [goOn, hstage]
    have hfound := hpasses.get?_some hs.toSeated hc hid (hgoes ▸ (hs.perform? happens).1.toSeated)
    rw [hcontinues.classified_eq hs.toSeated hc, hgoes, hfound, Option.bind_some,
      Cycle.classification?_finishTrip hstage]
    rfl
  | _ => exact hcontinues.classified_eq_nil_of_idle hs.toSeated hc (by simp [Cycle.holdsPermit, hstage])

/-- The end of a stage is a skip if the stage was a wait for a permit. -/
lemma Balanced.skipped_goOn (hs : s.Balanced) (hc : s.get? id = some c) (now : Moment) :
    s.skipped (s.goOn now c).1 = if c.isQueued then [c.tag] else [] := by
  have happens := perform?_advance hc now
  have hcontinues := continues_perform? hs.toSeated happens
  split
  · rename_i hqueued
    obtain ⟨giveUpAt, hstage⟩ := Cycle.stage_of_isQueued hqueued
    obtain ⟨-, hid⟩ := mem_of_get? hc
    have hgoes : (s.goOn now c).1 = (s.skip now c).1 := by rw [goOn, hstage]
    have hpasses : s.Passes now id c _ _ := hs.passes_skip hc hstage
    have hfound := hpasses.get?_some hs.toSeated hc hid (hgoes ▸ (hs.perform? happens).1.toSeated)
    have hout : c.id ∉ (s.skip now c).1.waiting := by simp [skip]
    rw [hcontinues.skipped_eq hs.toSeated hc, hgoes, hfound, Option.bind_some, Cycle.skip?_sleepFrom hqueued hout]
    rfl
  · rename_i hidle
    exact hcontinues.skipped_eq_nil_of_idle hs.toSeated hc (by simpa using hidle)

/-- The cycle with this id has ended. -/
structure Gone (s : Scheduler) (id : Nat) : Prop where
  lt : id < s.nextId
  ended : ∀ c ∈ s.live, c.id ≠ id

lemma Gone.get?_eq_none (h : s.Gone id) : s.get? id = none :=
  List.find?_eq_none.mpr fun c hc => by simpa using h.ended c hc

/-- An id that is not in use comes into use only as a new one. -/
lemma Seated.id_of_perform? (hs : s.Seated) (happens : s.perform? event = some t) {d : Cycle} (hd : d ∈ t.live) :
    (∃ c ∈ s.live, c.id = d.id) ∨ d.id = s.nextId := by
  obtain ⟨hcall, -⟩ | ⟨now, id, c, place, -, hc, hplace, hpasses, -⟩ := perform?_cases hs happens
  · obtain ⟨c, hc, stopping, rfl⟩ | ⟨-, hnew⟩ := told_perform? hcall happens hd
    · exact .inl ⟨c, hc, rfl⟩
    · exact .inr hnew
  · obtain ⟨hold, -⟩ | hown | ⟨e, he, -, -, rfl⟩ := hpasses.mem_live hs hc hplace hd
    · exact .inl ⟨d, hold, rfl⟩
    · obtain ⟨hmem, hid⟩ := mem_of_get? hc
      exact .inl ⟨c, hmem, hid.trans (hplace d hown).symm⟩
    · exact .inl ⟨e, he, rfl⟩

lemma Gone.perform? (h : s.Gone id) (hs : s.Seated) (happens : s.perform? event = some t) : t.Gone id where
  lt := h.lt.trans_le (nextId_le_perform? happens)
  ended d hd heq := by
    obtain ⟨c, hc, hsame⟩ | hnew := hs.id_of_perform? happens hd
    · exact h.ended c hc (hsame.trans heq)
    · exact absurd (hnew.symm.trans heq) h.lt.ne'

lemma Gone.reaches (h : s.Gone id) (hs : s.Balanced) (reach : s.Reaches t) : t.Gone id := by
  induction reach with
  | refl => exact h
  | step event reach happens ih => exact ih.perform? (hs.reaches reach).1.toSeated happens

/-- A cycle that quits is gone. -/
lemma Seated.gone_of_quit (hs : s.Seated) {now : Moment} (happens : s.perform? (.move now id .quit) = some t) :
    t.Gone id := by
  obtain ⟨hcall, -⟩ | ⟨moment, key, c, place, hmover, hc, hplace, hpasses, hleaves⟩ := perform?_cases hs happens
  · cases hcall
  · cases hmover
    have hnone := hpasses.get?_none hc hplace hs (hleaves rfl)
    obtain ⟨hmem, rfl⟩ := mem_of_get? hc
    refine ⟨(hs.fresh c hmem).trans_le (nextId_le_perform? happens), fun d hd => ?_⟩
    simpa using List.find?_eq_none.mp hnone d hd

/-- Nothing comes of the attempt of a cycle that quits. -/
lemma Balanced.outcomes_of_quit (hs : s.Balanced) {now : Moment} (happens : s.perform? (.move now id .quit) = some t) :
    s.classified t = [] ∧ s.skipped t = [] := by
  have hcontinues := continues_perform? hs.toSeated happens
  have hended := (hs.gone_of_quit happens).get?_eq_none
  obtain ⟨⟨after, records⟩, hmove, -⟩ := Option.map_eq_some_iff.mp happens
  obtain ⟨c, hc, -⟩ := Option.map_eq_some_iff.mp hmove
  obtain ⟨hc, -⟩ := Option.filter_eq_some_iff.mp hc
  exact hcontinues.eq_nil_of_ended hs.toSeated hc hended

/-- The attempt of a cycle that reports has come out before. -/
lemma Seated.outcomes_of_reporting (hs : s.Seated) (hc : s.get? id = some c) (hreporting : c.isReporting = true)
    (hmover : event.mover? = some id) (happens : s.perform? event = some t) :
    s.classified t = [] ∧ s.skipped t = [] := by
  have hcontinues := hmover ▸ continues_perform? hs happens
  obtain ⟨hwaits, hhas⟩ := Cycle.idle_of_isReporting hreporting
  exact ⟨hcontinues.classified_eq_nil_of_idle hs hc hhas, hcontinues.skipped_eq_nil_of_idle hs hc hwaits⟩

end Scheduler

/-- Whether an event is the move of a cycle. -/
def Event.movesCycle : Event → Bool
  | .cycle _ _ _ => true
  | .deliver _ _ => true
  | _ => false

namespace Observatory

open Scheduler (Undisturbed)

variable {o p : Observatory} {event : Event} {records : List Record}

lemma undisturbed_enroll (o : Observatory) (tag : String) (target : ProbeTarget) (source : Option TargetConfig) :
    o.scheduler.Undisturbed (o.enroll tag target source).scheduler := by
  have happens : o.scheduler.perform? (.spawn tag o.registry.nextGeneration target) =
      some (o.enroll tag target source).scheduler := rfl
  exact .of_call rfl happens

lemma undisturbed_dismiss (o : Observatory) (tag : String) (generation : Nat) :
    o.scheduler.Undisturbed (o.dismiss tag generation).scheduler := by
  have happens : o.scheduler.perform? (.cancel tag) = some (o.dismiss tag generation).scheduler := rfl
  exact .of_call rfl happens

lemma undisturbed_of_registration (hevent : event.IsRegistration)
    (happens : o.perform? event = some (p, records)) : o.scheduler.Undisturbed p.scheduler := by
  cases event with
  | registerConfigured candidate =>
    rw [eq_of_perform?_effect happens]
    exact o.registerConfigured_keeps (P := fun q => o.scheduler.Undisturbed q.scheduler) candidate (.refl _)
      fun target _ _ => o.undisturbed_enroll candidate.tag target (some candidate.target)
  | unregister tag =>
    rw [eq_of_perform?_effect happens]
    exact o.unregister_keeps (P := fun q => o.scheduler.Undisturbed q.scheduler) tag (.refl _)
      fun candidate _ => o.undisturbed_dismiss tag candidate.generation
  | _ => exact hevent.elim

/-- What is not the move of a cycle leaves all stages as they are. -/
theorem undisturbed_perform? (hcall : event.movesCycle = false) (happens : o.perform? event = some (p, records)) :
    o.scheduler.Undisturbed p.scheduler := by
  cases event with
  | register tag target =>
    rw [eq_of_perform?_effect happens]
    exact o.register_keeps (P := fun q => o.scheduler.Undisturbed q.scheduler) tag target none (.refl _)
      fun _ _ => o.undisturbed_enroll tag target none
  | registerConfigured candidate =>
    have hevent : (Event.registerConfigured candidate).IsRegistration := trivial
    exact undisturbed_of_registration hevent happens
  | unregister tag =>
    have hevent : (Event.unregister tag).IsRegistration := trivial
    exact undisturbed_of_registration hevent happens
  | reconcile desired =>
    refine (registrations_of_reconcile happens).invariant (P := fun q => o.scheduler.Undisturbed q.scheduler)
      (fun q event r records hevent hq happens => hq.trans (undisturbed_of_registration hevent happens)) (.refl _)
  | selectBest =>
    cases happens
    exact .refl _
  | openConnection tag =>
    rw [eq_of_perform?_effect happens]
    obtain ⟨e, heq⟩ | ⟨-, -, heq, -⟩ := o.openConnection_cases tag <;> rw [heq] <;> exact .refl _
  | stop =>
    cases happens
    obtain ⟨-, heq⟩ | ⟨-, heq⟩ := o.stop_cases <;> rw [heq]
    · exact .refl _
    · have hsignal : o.scheduler.perform? .signal = some o.scheduler.requestStopAll := rfl
      have hjoin : o.scheduler.requestStopAll.perform? .join = some o.scheduler.requestStopAll.dismissAll := rfl
      exact (Undisturbed.of_call rfl hsignal).trans (.of_call rfl hjoin)
  | publisher move =>
    obtain ⟨publisher, table, -, rfl⟩ := perform?_publisher happens
    exact .refl _
  | connection move =>
    obtain ⟨drains, -, rfl⟩ := perform?_connection happens
    exact .refl _
  | signal move =>
    cases happens
    exact .refl _
  | proceedStop now =>
    obtain ⟨-, drains, stage, -, -, -, -, rfl⟩ := proceedStop?_cases happens
    exact .refl _
  | cycle now id move => cases hcall
  | deliver now id => cases hcall

end Observatory

lemma Reachable.balanced {o : Observatory} (ho : Reachable o) : o.scheduler.Balanced := by
  obtain ⟨settings, chance, hreach⟩ := ho.scheduler_reaches
  exact ((Scheduler.Balanced.create _ _ _).reaches hreach).1

end OutboundWatch
