import OutboundWatch.Proofs.Skips

/-!
# The spacing of probes

What a cycle does alternates: it begins, and from then on every attempt at a probe comes to an end before it pauses
for the next one. A pause is drawn when a sleep ends and slept when the attempt is over, so that it separates the end
of one attempt from the start of the next, whether the attempt was reported or skipped.
-/

namespace OutboundWatch

/-- What separates the stages of a cycle: its start, the start of an attempt to probe, and the end of one. -/
inductive Mark where
  | begins
  | attempts
  | ends
  deriving DecidableEq

/-- What it means that a stage is over. A probe that is over has still to be reported. -/
def CycleStage.mark? : CycleStage → Option Mark
  | .starting => some .begins
  | .sleeping _ => some .attempts
  | .queued _ => some .ends
  | .probing _ _ => none
  | .reporting _ => none

/-- Whether an attempt has started and not ended. -/
def Cycle.isUnderWay (c : Cycle) : Bool :=
  match c.stage with
  | .queued _ => true
  | .probing _ _ => true
  | .reporting _ => true
  | _ => false

lemma Cycle.isUnderWay_of_isQueued {c : Cycle} (h : c.isQueued = true) : c.isUnderWay = true := by
  obtain ⟨giveUpAt, hstage⟩ := stage_of_isQueued h
  rw [isUnderWay, hstage]

lemma Cycle.isUnderWay_of_isReporting {c : Cycle} (h : c.isReporting = true) : c.isUnderWay = true := by
  unfold isReporting CycleStage.unsent at h
  unfold isUnderWay
  cases hstage : c.stage <;> rw [hstage] at h <;> first | rfl | cases h

namespace Scheduler

/-- What an event means for the attempts of the cycle with this id. -/
def mark? (s : Scheduler) (id : Nat) : SchedulerEvent → Option Mark
  | .move _ mover .advance => if mover = id then (s.get? id).bind fun c => c.stage.mark? else none
  | .accept _ mover => if mover = id then some .ends else none
  | _ => none

variable {s t : Scheduler} {now : Moment} {id : Nat} {c d : Cycle} {place : Option Cycle} {event : SchedulerEvent}

lemma mark?_of_other (hother : event.mover? ≠ some id) : s.mark? id event = none := by
  unfold mark?
  cases event with
  | move moment mover move =>
    have hmover : mover ≠ id := fun heq => hother (by rw [SchedulerEvent.mover?, heq])
    cases move with
    | advance => exact if_neg hmover
    | quit => rfl
  | accept moment mover => exact if_neg fun heq => hother (by rw [SchedulerEvent.mover?, heq])
  | _ => rfl

/-- What has a meaning for the attempts of a cycle happens to it at the end of its stage or when its status is
accepted. -/
lemma cases_of_mark? (happens : s.perform? event = some t) {mark : Mark} (h : s.mark? id event = some mark) :
    ∃ c now, s.get? id = some c ∧ event.moment? = some now ∧
      (event = .move now id .advance ∧ c.stage.mark? = some mark ∨ c.isReporting = true ∧ mark = .ends) := by
  unfold mark? at h
  cases event with
  | move now mover move =>
    cases move with
    | advance =>
      obtain ⟨rfl, hstage⟩ := (Option.ite_none_right_eq_some).mp h
      obtain ⟨c, hc, hmark⟩ := Option.bind_eq_some_iff.mp hstage
      exact ⟨c, now, hc, rfl, .inl ⟨rfl, hmark⟩⟩
    | quit => cases h
  | accept now mover =>
    obtain ⟨rfl, hends⟩ := (Option.ite_none_right_eq_some).mp h
    cases hends
    obtain ⟨c, hc, -⟩ := Option.map_eq_some_iff.mp happens
    obtain ⟨hget, hreporting⟩ := Option.filter_eq_some_iff.mp hc
    exact ⟨c, now, hget, rfl, .inr ⟨hreporting, rfl⟩⟩
  | _ => cases h

/-- Who is live after the move of one cycle: the others, one of which may have been handed a permit, and that cycle
in its place. -/
lemma Passes.mem_live (h : s.Passes now id c place t) (hs : s.Seated) (hc : s.get? id = some c)
    (hplace : ∀ d ∈ place, d.id = id) (hd : d ∈ t.live) :
    (d ∈ s.live ∧ d.id ≠ id) ∨ place = some d ∨
      ∃ e ∈ s.live, e.id ≠ id ∧ e.isQueued = true ∧ d = e.probeFrom now := by
  have hmoved {m : Scheduler} (moved : s.Moved id place m) {e : Cycle} (he : e ∈ m.live) :
      (e ∈ s.live ∧ e.id ≠ id) ∨ place = some e := (moved.mem_live_iff hs hc e).mp he
  cases h with
  | idle moved =>
    obtain hold | hnew := hmoved moved hd
    · exact .inl hold
    · exact .inr (.inl hnew)
  | takes moved =>
    obtain hold | hnew := hmoved moved hd
    · exact .inl hold
    · exact .inr (.inl hnew)
  | gives moved _ _ _ leaves =>
    have hseated := moved.seated hs hc hplace
    obtain ⟨-, heq⟩ | ⟨next, e, -, he, hqueued, handed, -⟩ := hseated.returnPermit_cases now
    · rw [heq] at hd
      obtain hold | hnew := hmoved moved hd
      · exact .inl hold
      · exact .inr (.inl hnew)
    · obtain ⟨hkept, -⟩ | hprobes := (handed.mem_live_iff hseated he d).mp hd
      · obtain hold | hnew := hmoved moved hkept
        · exact .inl hold
        · exact .inr (.inl hnew)
      · cases hprobes
        obtain ⟨hold, hother⟩ | hnew := hmoved moved (mem_of_get? he).1
        · exact .inr (.inr ⟨e, hold, hother, hqueued, rfl⟩)
        · rw [leaves e hnew] at hqueued
          cases hqueued

/-- The one cycle that a change was made to. -/
lemma Seated.eq_of_mem_modify (hs : s.Seated) (hc : s.get? id = some c) {f : Cycle → Cycle}
    (hd : d ∈ (s.modify id f).live) (hown : d.id = id) : d = f c := by
  obtain ⟨hmem, rfl⟩ := mem_of_get? hc
  obtain ⟨e, he, rfl⟩ := List.mem_map.mp hd
  split at hown
  · rename_i heq
    rw [if_pos heq, hs.eq_of_id he hmem heq]
  · rename_i hne
    exact absurd hown hne

/-- What an event does to the pace of a cycle that is live after it. -/
inductive Paces (s : Scheduler) (event : SchedulerEvent) (d : Cycle) : Prop where
  | starts (stage : d.stage = .starting) (new : d.id = s.nextId) (silent : s.mark? d.id event = none)
  /-- It stays where it is, or its attempt goes on. -/
  | keeps {c : Cycle} (hc : c ∈ s.live) (own : c.id = d.id) (pause : c.pause = d.pause)
    (stage : c.stage = d.stage ∨ c.isUnderWay = true ∧ d.isUnderWay = true) (silent : s.mark? d.id event = none)
  | begins {now : Moment} (at_ : event.moment? = some now) (mark : s.mark? d.id event = some .begins)
    (stage : d.stage = .sleeping (now + d.pause.nanos))
    (delay : initialDelay? s.settings.interval s.settings.jitterRatio (s.chance s.drawn) = some d.pause)
  | attempts {now : Moment} (at_ : event.moment? = some now) (mark : s.mark? d.id event = some .attempts)
    (underWay : d.isUnderWay = true)
    (delay : jitteredInterval? s.settings.interval s.settings.jitterRatio (s.chance s.drawn) = some d.pause)
  /-- It sleeps for the pause that was drawn when its last sleep ended. -/
  | ends {now : Moment} {c : Cycle} (at_ : event.moment? = some now) (mark : s.mark? d.id event = some .ends)
    (hc : c ∈ s.live) (own : c.id = d.id) (underWay : c.isUnderWay = true) (pause : c.pause = d.pause)
    (stage : d.stage = .sleeping (now + d.pause.nanos))

namespace Paces

lemma of_told (htold : s.Told d) (silent : s.mark? d.id event = none) : s.Paces event d := by
  obtain ⟨c, hc, stopping, rfl⟩ := htold
  exact .keeps hc rfl rfl (.inl rfl) silent

/-- A cycle that did not move itself keeps its pace. -/
lemma of_other (h : s.Passes now id c place t) (hs : s.Seated) (hc : s.get? id = some c)
    (hplace : ∀ d ∈ place, d.id = id) (hmover : event.mover? = some id) (hd : d ∈ t.live) (hother : d.id ≠ id) :
    s.Paces event d := by
  have silent : s.mark? d.id event = none := by
    apply mark?_of_other
    rw [hmover]
    exact fun heq => hother (Option.some.inj heq).symm
  obtain ⟨hold, -⟩ | hown | ⟨e, he, -, hqueued, rfl⟩ := h.mem_live hs hc hplace hd
  · exact .keeps hold rfl rfl (.inl rfl) silent
  · exact absurd (hplace d hown) hother
  · exact .keeps he rfl rfl (.inr ⟨Cycle.isUnderWay_of_isQueued hqueued, rfl⟩) silent

/-- How the own move of a cycle changes its pace. -/
lemma of_goOn (hs : s.Seated) (hc : s.get? id = some c) (hd : d ∈ (s.goOn now c).1.live) (hown : d.id = id) :
    s.Paces (.move now id .advance) d := by
  obtain ⟨hmem, rfl⟩ := mem_of_get? hc
  have hgone (hd : d ∈ (s.remove now c).live) : False := by
    obtain ⟨-, hother⟩ | hnew | ⟨e, -, hother, -, rfl⟩ := (passes_remove hc now).mem_live hs hc (by simp) hd
    · exact hother hown
    · cases hnew
    · exact hother hown
  have hmark {mark : Option Mark} (hstage : c.stage.mark? = mark) :
      s.mark? d.id (.move now c.id .advance) = mark := by
    rw [mark?, if_pos hown.symm, hown, hc, Option.bind_some, hstage]
  unfold goOn at hd
  cases hstage : c.stage with
  | starting =>
    rw [hstage] at hd
    dsimp only at hd
    unfold begin draw at hd
    dsimp only at hd
    cases hdelay : initialDelay? s.settings.interval s.settings.jitterRatio (s.chance s.drawn) with
    | none =>
      rw [hdelay] at hd
      exact (hgone hd).elim
    | some pause =>
      rw [hdelay] at hd
      obtain rfl := hs.eq_of_mem_modify hc hd hown
      exact .begins rfl (hmark (by rw [hstage]; rfl)) rfl hdelay
  | sleeping wakeAt =>
    rw [hstage] at hd
    dsimp only at hd
    unfold wake draw at hd
    dsimp only at hd
    cases hdelay : jitteredInterval? s.settings.interval s.settings.jitterRatio (s.chance s.drawn) with
    | none =>
      rw [hdelay] at hd
      exact (hgone hd).elim
    | some pause =>
      rw [hdelay] at hd
      dsimp only at hd
      split at hd
      · obtain rfl := hs.eq_of_mem_modify hc hd hown
        exact .attempts rfl (hmark (by rw [hstage]; rfl)) rfl hdelay
      · obtain rfl := hs.eq_of_mem_modify hc hd hown
        exact .attempts rfl (hmark (by rw [hstage]; rfl)) rfl hdelay
  | queued giveUpAt =>
    rw [hstage] at hd
    obtain rfl := hs.eq_of_mem_modify hc hd hown
    exact .ends rfl (hmark (by rw [hstage]; rfl)) hmem rfl (by rw [Cycle.isUnderWay, hstage]) rfl rfl
  | probing trip startedAt =>
    rw [hstage] at hd
    have hplace : ∀ d ∈ some (c.finishTrip s.settings now trip).1, d.id = c.id := by simp [Cycle.finishTrip]
    have hpasses : s.Passes now _ c _ _ := hs.passes_complete hc hstage
    obtain ⟨-, hother⟩ | hnew | ⟨e, -, hother, -, rfl⟩ := hpasses.mem_live hs hc hplace hd
    · exact absurd hown hother
    · cases hnew
      exact .keeps hmem rfl rfl (.inr ⟨by rw [Cycle.isUnderWay, hstage], rfl⟩) (hmark (by rw [hstage]; rfl))
    · exact absurd hown hother
  | reporting status =>
    rw [hstage] at hd
    exact .keeps hd rfl rfl (.inl rfl) (hmark (by rw [hstage]; rfl))

end Paces

/-- What an event does to the pace of any cycle. -/
theorem paces_perform? (hs : s.Seated) (happens : s.perform? event = some t) (hd : d ∈ t.live) :
    s.Paces event d := by
  obtain ⟨hcall, -⟩ | ⟨now, id, c, place, hmover, hc, hplace, hpasses, hleaves⟩ := perform?_cases hs happens
  · have silent : s.mark? d.id event = none := mark?_of_other (by simp [hcall])
    obtain htold | ⟨hstage, hnew⟩ := told_perform? hcall happens hd
    · exact .of_told htold silent
    · exact .starts hstage hnew silent
  · by_cases hown : d.id = id
    · have hgone : event.leaver? ≠ some id := by
        intro hleaver
        have hnone := hpasses.get?_none hc hplace hs (hleaves hleaver)
        exact absurd hown (by simpa using List.find?_eq_none.mp hnone d hd)
      cases event with
      | move now mover move =>
        cases hmover
        obtain ⟨⟨after, records⟩, hmove, rfl⟩ := Option.map_eq_some_iff.mp happens
        cases move with
        | advance =>
          obtain ⟨e, he, heq⟩ := Option.map_eq_some_iff.mp hmove
          apply Paces.of_goOn hs he _ hown
          rw [heq]
          exact hd
        | quit => exact absurd rfl hgone
      | accept now mover =>
        cases hmover
        obtain ⟨e, he, rfl⟩ := Option.map_eq_some_iff.mp happens
        obtain ⟨he, hreporting⟩ := Option.filter_eq_some_iff.mp he
        obtain ⟨hmem, hid⟩ := mem_of_get? he
        have hmodified : d ∈ (s.modify id (·.sleepFrom now)).live := hid ▸ hd
        obtain rfl := hs.eq_of_mem_modify he hmodified hown
        exact .ends rfl (if_pos hown.symm) hmem rfl (Cycle.isUnderWay_of_isReporting hreporting) rfl rfl
      | refuse now mover => exact absurd hmover hgone
      | _ => cases hmover
    · exact .of_other hpasses hs hc hplace hmover hd hown

lemma nextId_foldl_requestStop (told : List RunningCycle) (s : Scheduler) :
    (told.foldl (fun acc current => acc.requestStop current.id) s).nextId = s.nextId := by
  induction told generalizing s with
  | nil => rfl
  | cons current rest ih => exact ih (s.requestStop current.id)

/-- Ids are handed out in ascending order. -/
lemma nextId_le_perform? (happens : s.perform? event = some t) : s.nextId ≤ t.nextId := by
  cases event with
  | spawn tag generation target =>
    cases happens
    exact Nat.le_succ _
  | cancel tag =>
    cases happens
    obtain ⟨-, heq⟩ | ⟨current, -, heq⟩ := s.cancel_cases tag <;> rw [heq]
    exact le_refl _
  | signal =>
    cases happens
    exact le_refl _
  | join =>
    cases happens
    exact (nextId_foldl_requestStop _ s).ge
  | move now id move =>
    obtain ⟨⟨after, records⟩, hmove, rfl⟩ := Option.map_eq_some_iff.mp happens
    exact (kept_move? hmove).nextId.ge
  | accept now id =>
    obtain ⟨c, -, rfl⟩ := Option.map_eq_some_iff.mp happens
    exact le_refl _
  | refuse now id =>
    obtain ⟨c, -, rfl⟩ := Option.map_eq_some_iff.mp happens
    exact (s.kept_remove now c).nextId.ge

end Scheduler

/-- The window over which an interval is spread is no longer than the interval, and no part of it that is drawn is
longer than itself. -/
structure CycleSettings.HasWindow (settings : CycleSettings) (window : Span) : Prop where
  jitter : jitterWindow? settings.interval settings.jitterRatio = some window
  le : window ≤ settings.interval
  scales : ∀ draw : Binary64, draw.inUnitInterval = true → ∃ offset, window.scale? draw = some offset ∧ offset ≤ window

namespace CycleSettings.HasWindow

variable {settings : CycleSettings} {window pause : Span} {draw : Binary64}

lemma exists_initialDelay? (h : settings.HasWindow window) (hdraw : draw.inUnitInterval = true) :
    ∃ pause, initialDelay? settings.interval settings.jitterRatio draw = some pause ∧
      pause.nanos ≤ window.nanos := by
  rw [initialDelay?_of_window h.jitter]
  split
  · exact ⟨Span.zero, rfl, Nat.zero_le _⟩
  · exact h.scales draw hdraw

/-- A later pause is an interval, less half the window, and a part of the window. -/
lemma bounds_of_jitteredInterval? (h : settings.HasWindow window) (hdraw : draw.inUnitInterval = true)
    (hpause : jitteredInterval? settings.interval settings.jitterRatio draw = some pause) :
    settings.interval.nanos - window.nanos / 2 ≤ pause.nanos ∧
      pause.nanos ≤ settings.interval.nanos + (window.nanos + 1) / 2 := by
  rw [jitteredInterval?_of_window h.jitter] at hpause
  split at hpause
  · cases hpause
    omega
  · obtain ⟨offset, hoffset, hshort⟩ := h.scales draw hdraw
    rw [hoffset, Option.bind_some, Span.add?, Span.ofNanos?] at hpause
    split at hpause
    · cases hpause
      have hle : window.nanos ≤ settings.interval.nanos := h.le
      have hpart : offset.nanos ≤ window.nanos := hshort
      simp only [Span.minus, Span.half]
      omega
    · cases hpause

/-- An interval in milliseconds leaves room for the window. -/
lemma exists_jitteredInterval? (h : settings.HasWindow window) {ms : UInt64}
    (hinterval : settings.interval = Span.ofMillis ms) (hdraw : draw.inUnitInterval = true) :
    ∃ pause, jitteredInterval? settings.interval settings.jitterRatio draw = some pause := by
  rw [jitteredInterval?_of_window h.jitter]
  split
  · exact ⟨settings.interval, rfl⟩
  · obtain ⟨offset, hoffset, hshort⟩ := h.scales draw hdraw
    have hbound : settings.interval.nanos ≤ 2 ^ 55 * nanosPerSecond := hinterval ▸ Span.nanos_ofMillis_le ms
    have hle : window.nanos ≤ settings.interval.nanos := h.le
    have hpart : offset.nanos ≤ window.nanos := hshort
    have hroom : 2 ^ 55 * nanosPerSecond + 2 ^ 55 * nanosPerSecond < Span.limit := by decide
    have hsum : (settings.interval.minus window.half).nanos + offset.nanos < Span.limit := by
      simp only [Span.minus]
      omega
    refine ⟨⟨_, hsum⟩, ?_⟩
    rw [hoffset, Option.bind_some, Span.add?, Span.ofNanos?, dif_pos hsum]

end CycleSettings.HasWindow

/-- How far apart two marks of a cycle are that follow one another, and which ones can. -/
def Spaced (interval window : Span) (x y : Moment × Mark) : Prop :=
  match x.2, y.2 with
  | .begins, .attempts => x.1 ≤ y.1 ∧ y.1 ≤ x.1 + window.nanos
  | .attempts, .ends => x.1 ≤ y.1
  | .ends, .attempts =>
    x.1 + (interval.nanos - window.nanos / 2) ≤ y.1 ∧ y.1 ≤ x.1 + (interval.nanos + (window.nanos + 1) / 2)
  | _, _ => False

/-- The marks of a cycle from its start on. -/
structure Rhythm (interval window : Span) (marks : List (Moment × Mark)) : Prop where
  spaced : marks.IsChain (Spaced interval window)
  begins : ∀ x ∈ marks.head?, x.2 = .begins

/-- The marks of the cycle with this id in a run. -/
def marksOf (id : Nat) (steps : List ScheduleStep) : List (Moment × Mark) :=
  steps.filterMap fun x => (x.before.mark? id x.event).map fun mark => (x.moment, mark)

/-- Where a cycle is after its marks. -/
inductive Cycle.AtPace (interval window : Span) (marks : List (Moment × Mark)) (c : Cycle) : Prop where
  | starting (stage : c.stage = .starting) (none : marks = [])
  /-- It wakes up when the next attempt is due. -/
  | sleeping {x : Moment × Mark} {wakeAt : Moment} (stage : c.stage = .sleeping wakeAt)
    (last : marks.getLast? = some x) (spaced : Spaced interval window x (wakeAt, .attempts))
  /-- Its attempt has started, and the pause after it is drawn. -/
  | underWay {started : Moment} (stage : c.isUnderWay = true) (last : marks.getLast? = some (started, .attempts))
    (lower : interval.nanos - window.nanos / 2 ≤ c.pause.nanos)
    (upper : c.pause.nanos ≤ interval.nanos + (window.nanos + 1) / 2)

section Rhythm

variable {interval window : Span} {marks : List (Moment × Mark)} {mark : Mark} {now : Moment} {c d : Cycle}

lemma Rhythm.nil : Rhythm interval window [] := ⟨.nil, by simp⟩

lemma Rhythm.append (h : Rhythm interval window marks) (hfirst : marks = [] → mark = .begins)
    (hlast : ∀ x ∈ marks.getLast?, Spaced interval window x (now, mark)) :
    Rhythm interval window (marks ++ [(now, mark)]) where
  spaced := h.spaced.append (.singleton _) (by simpa using hlast)
  begins := by
    cases marks with
    | nil => simpa using hfirst rfl
    | cons x rest => simpa using h.begins

namespace Cycle.AtPace

/-- The end of a stage, or the report of an attempt, comes in time after the marks before it. -/
lemma rhythm (h : c.AtPace interval window marks) (hrhythm : Rhythm interval window marks)
    (hpast : ∀ x ∈ marks, x.1 ≤ now)
    (hmark : (∀ wakeAt, c.stage = .sleeping wakeAt → now = wakeAt) ∧ c.stage.mark? = some mark ∨
      c.isReporting = true ∧ mark = .ends) : Rhythm interval window (marks ++ [(now, mark)]) := by
  cases h with
  | starting stage none =>
    obtain ⟨-, hmark⟩ | ⟨hreporting, -⟩ := hmark
    · rw [stage] at hmark
      cases hmark
      exact hrhythm.append (fun _ => rfl) (by simp [none])
    · simpa [isUnderWay, stage] using isUnderWay_of_isReporting hreporting
  | sleeping stage last spaced =>
    obtain ⟨hdue, hmark⟩ | ⟨hreporting, -⟩ := hmark
    · rw [stage] at hmark
      cases hmark
      obtain rfl := hdue _ stage
      refine hrhythm.append (fun hnone => by simp [hnone] at last) fun x hx => ?_
      rw [last] at hx
      cases hx
      exact spaced
    · simpa [isUnderWay, stage] using isUnderWay_of_isReporting hreporting
  | @underWay started stage last lower upper =>
    have hends : mark = .ends := by
      obtain ⟨-, hmark⟩ | ⟨-, hends⟩ := hmark
      · unfold isUnderWay at stage
        cases hstage : c.stage <;> rw [hstage] at stage hmark <;> cases stage <;> cases hmark
        rfl
      · exact hends
    subst hends
    refine hrhythm.append (fun hnone => by simp [hnone] at last) fun x hx => ?_
    rw [last] at hx
    cases hx
    exact hpast _ (List.mem_of_getLast? last)

lemma of_same (h : c.AtPace interval window marks) (hpause : c.pause = d.pause)
    (hstage : c.stage = d.stage ∨ c.isUnderWay = true ∧ d.isUnderWay = true) : d.AtPace interval window marks := by
  cases h with
  | starting stage none =>
    obtain hsame | ⟨hgoes, -⟩ := hstage
    · exact .starting (hsame ▸ stage) none
    · simp [isUnderWay, stage] at hgoes
  | sleeping stage last spaced =>
    obtain hsame | ⟨hgoes, -⟩ := hstage
    · exact .sleeping (hsame ▸ stage) last spaced
    · simp [isUnderWay, stage] at hgoes
  | underWay stage last lower upper =>
    refine .underWay ?_ last (hpause ▸ lower) (hpause ▸ upper)
    obtain hsame | ⟨-, hgoes⟩ := hstage
    · unfold isUnderWay at stage ⊢
      rwa [← hsame]
    · exact hgoes

/-- At the end of an attempt a cycle goes to sleep for its pause. -/
lemma ends (h : c.AtPace interval window marks) (hgoes : c.isUnderWay = true) (hpause : c.pause = d.pause)
    (hstage : d.stage = .sleeping (now + d.pause.nanos)) :
    d.AtPace interval window (marks ++ [(now, .ends)]) := by
  cases h with
  | starting stage => simp [isUnderWay, stage] at hgoes
  | sleeping stage => simp [isUnderWay, stage] at hgoes
  | underWay _ _ lower upper =>
    rw [hpause] at lower upper
    exact .sleeping hstage List.getLast?_concat
      ⟨Nat.add_le_add_left lower now, Nat.add_le_add_left upper now⟩

end Cycle.AtPace

end Rhythm

section Runs

variable {settings : CycleSettings} {window : Span} {concurrency : Nat} {chance : Nat → Binary64}
  {steps : List ScheduleStep} {now : Moment} {s t : Scheduler} {event : SchedulerEvent} {id : Nat}

lemma marksOf_append (id : Nat) (steps : List ScheduleStep) (x : ScheduleStep) :
    marksOf id (steps ++ [x]) =
      marksOf id steps ++ ((x.before.mark? id x.event).map fun mark => (x.moment, mark)).toList := by
  rw [marksOf, List.filterMap_append]
  cases hmark : x.before.mark? id x.event <;> simp [marksOf, hmark]

lemma marksOf_append_none {x : ScheduleStep} (h : x.before.mark? id x.event = none) (steps : List ScheduleStep) :
    marksOf id (steps ++ [x]) = marksOf id steps := by
  rw [marksOf_append, h]
  exact List.append_nil _

lemma marksOf_append_some {x : ScheduleStep} {mark : Mark} (h : x.before.mark? id x.event = some mark)
    (steps : List ScheduleStep) : marksOf id (steps ++ [x]) = marksOf id steps ++ [(x.moment, mark)] := by
  rw [marksOf_append, h]
  rfl

/-- All cycles are in time after the steps of a run. -/
structure Paced (interval window : Span) (steps : List ScheduleStep) (now : Moment) (s : Scheduler) : Prop where
  rhythm : ∀ id, Rhythm interval window (marksOf id steps)
  past : ∀ id, ∀ x ∈ marksOf id steps, x.1 ≤ now
  unused : ∀ id, s.nextId ≤ id → marksOf id steps = []
  places : ∀ c ∈ s.live, c.AtPace interval window (marksOf c.id steps)

namespace Paced

lemma create (settings : CycleSettings) (concurrency : Nat) (chance : Nat → Binary64) (interval window : Span) :
    Paced interval window [] 0 (.create settings concurrency chance) where
  rhythm _ := .nil
  past _ _ hx := by cases hx
  unused _ _ := rfl
  places _ hc := by cases hc

/-- What an event means for the attempts of a cycle comes in time. -/
lemma rhythm_step (h : Paced settings.interval window steps now s) (hregular : s.Regular settings
    (max concurrency 1) chance now) (hontime : s.OnTime now event) (happens : s.perform? event = some t) (id : Nat) :
    Rhythm settings.interval window (marksOf id (steps ++ [⟨now, s, event, t⟩])) := by
  cases hmark : s.mark? id event with
  | none =>
    rw [marksOf_append_none hmark]
    exact h.rhythm id
  | some mark =>
    rw [marksOf_append_some hmark]
    obtain ⟨c, moment, hc, -, hcase⟩ := Scheduler.cases_of_mark? happens hmark
    obtain ⟨hmem, rfl⟩ := Scheduler.mem_of_get? hc
    refine (h.places c hmem).rhythm (h.rhythm c.id) (h.past c.id) ?_
    obtain ⟨rfl, hstage⟩ | hreports := hcase
    · obtain ⟨rfl, hover⟩ := hontime
      refine .inl ⟨fun wakeAt hsleeps => ?_, hstage⟩
      have hdue := Cycle.mem_dueAt_of_sleeping hsleeps s.settings
      exact Nat.le_antisymm (hregular.punctual c hmem _ hdue) (hover c hc _ hdue)
    · exact .inr hreports

lemma places_step (h : Paced settings.interval window steps now s) (hwindow : settings.HasWindow window)
    (hregular : s.Regular settings (max concurrency 1) chance now) (hchance : ∀ n, (chance n).inUnitInterval = true)
    (hontime : s.OnTime now event) (happens : s.perform? event = some t) {d : Cycle} (hd : d ∈ t.live) :
    d.AtPace settings.interval window (marksOf d.id (steps ++ [⟨now, s, event, t⟩])) := by
  have hdraw : (s.chance s.drawn).inUnitInterval = true := hregular.chance ▸ hchance _
  cases Scheduler.paces_perform? hregular.balanced.toSeated happens hd with
  | starts stage new silent =>
    rw [marksOf_append_none silent]
    exact .starting stage (h.unused d.id (Nat.le_of_eq new.symm))
  | keeps hc own pause stage silent =>
    rw [marksOf_append_none silent, ← own]
    exact (h.places _ hc).of_same pause stage
  | begins at_ mark stage delay =>
    obtain rfl := hontime.moment at_
    rw [hregular.settings] at delay
    obtain ⟨pause, hpause, hshort⟩ := hwindow.exists_initialDelay? hdraw
    rw [delay] at hpause
    cases hpause
    rw [marksOf_append_some mark]
    exact .sleeping stage List.getLast?_concat ⟨Nat.le_add_right _ _, Nat.add_le_add_left hshort _⟩
  | attempts at_ mark underWay delay =>
    rw [hregular.settings] at delay
    obtain ⟨hlower, hupper⟩ := hwindow.bounds_of_jitteredInterval? hdraw delay
    rw [marksOf_append_some mark]
    exact .underWay underWay List.getLast?_concat hlower hupper
  | ends at_ mark hc own underWay pause stage =>
    obtain rfl := hontime.moment at_
    rw [marksOf_append_some mark, ← own]
    exact (h.places _ hc).ends underWay pause stage

lemma step (h : Paced settings.interval window steps now s) (hwindow : settings.HasWindow window)
    (hregular : s.Regular settings (max concurrency 1) chance now) (hchance : ∀ n, (chance n).inUnitInterval = true)
    (hontime : s.OnTime now event) (happens : s.perform? event = some t) :
    Paced settings.interval window (steps ++ [⟨now, s, event, t⟩]) now t where
  rhythm := h.rhythm_step hregular hontime happens
  past id x hx := by
    rw [marksOf_append, List.mem_append] at hx
    obtain hold | hnew := hx
    · exact h.past id x hold
    · obtain ⟨mark, -, rfl⟩ := Option.map_eq_some_iff.mp (Option.mem_toList.mp hnew)
      exact le_refl now
  unused id hid := by
    have hunborn : s.nextId ≤ id := (Scheduler.nextId_le_perform? happens).trans hid
    cases hmark : s.mark? id event with
    | none =>
      rw [marksOf_append_none hmark]
      exact h.unused id hunborn
    | some mark =>
      obtain ⟨c, -, hc, -⟩ := Scheduler.cases_of_mark? happens hmark
      obtain ⟨hmem, rfl⟩ := Scheduler.mem_of_get? hc
      exact absurd (hregular.balanced.fresh c hmem) (Nat.not_lt.mpr hunborn)
  places _ hd := h.places_step hwindow hregular hchance hontime happens hd

end Paced

/-- All cycles are in time at the end of every run. -/
theorem Scheduled.paced (hwindow : settings.HasWindow window) (hchance : ∀ n, (chance n).inUnitInterval = true)
    (scheduled : Scheduled 0 (.create settings concurrency chance) steps now t) :
    Paced settings.interval window steps now t := by
  induction scheduled with
  | refl => exact .create settings concurrency chance _ _
  | step scheduled hontime happens ih =>
    exact ih.step hwindow (scheduled.regular (Scheduler.regular_create ..)) hchance hontime happens
  | pass _ hlater _ ih =>
    exact ⟨ih.rhythm, fun id x hx => (ih.past id x hx).trans hlater, ih.unused, ih.places⟩

/-- Without half of a window that is no longer than an interval, at least half of the interval is left. -/
lemma half_le_of_le {interval window ended started : Nat} (hle : window ≤ interval)
    (h : ended + (interval - window / 2) ≤ started) :
    interval ≤ 2 * (started - ended) ∧ (0 < interval → ended < started) := by
  omega

/-- Of the entries with one key, at most one is counted if each key occurs once. -/
lemma countP_le_one {α : Type} {l : List α} {key : α → Nat} (h : (l.map key).Nodup) (k : Nat) (p : α → Bool) :
    l.countP (fun a => key a == k && p a) ≤ 1 :=
  calc l.countP (fun a => key a == k && p a) ≤ l.countP fun a => key a == k :=
        List.countP_mono_left fun a _ ha => (Bool.and_eq_true_iff.mp ha).1
    _ = (l.map key).count k := by rw [List.count, List.countP_map, Function.comp_def]
    _ ≤ 1 := List.nodup_iff_count_le_one.mp h k

/-- No registration is probed twice at the same time. -/
lemma Reachable.probes_le_one {o : Observatory} (ho : Reachable o) (generation : Nat) :
    o.scheduler.live.countP (fun c => c.generation == generation && c.holdsPermit) ≤ 1 := by
  apply countP_le_one
  simpa [Scheduler.faces, Function.comp_def, Cycle.face] using ho.ordered.sound.generations

/-- The first attempt of a cycle starts within one jitter window of its beginning, and each later one follows the end
of the attempt before, reported or skipped, by an interval, less half the window, and at most one window. So half an
interval always lies between them. Every pause can be computed if the interval is a number of milliseconds, and no
cycle and no registration is ever probed twice at the same time. -/
theorem attempts_spaced (hwindow : settings.HasWindow window) (hchance : ∀ n, (chance n).inUnitInterval = true)
    (scheduled : Scheduled 0 (.create settings concurrency chance) steps now t) :
    (∀ id, Rhythm settings.interval window (marksOf id steps)) ∧
    (∀ id ended started, [(ended, .ends), (started, .attempts)] <:+: marksOf id steps →
      settings.interval.nanos ≤ 2 * (started - ended) ∧ (0 < settings.interval.nanos → ended < started)) ∧
    (∀ ms, settings.interval = Span.ofMillis ms → settings.CanPause) ∧
    (∀ id, t.live.countP (fun c => c.id == id && c.holdsPermit) ≤ 1) ∧
    ∀ o, Reachable o → ∀ generation,
      o.scheduler.live.countP (fun c => c.generation == generation && c.holdsPermit) ≤ 1 := by
  have hpaced := scheduled.paced hwindow hchance
  refine ⟨hpaced.rhythm, fun id ended started hnext => ?_, fun ms hms draw hdraw => ⟨?_, ?_⟩, fun id => ?_,
    fun o ho generation => ho.probes_le_one generation⟩
  · have hpair := List.IsChain.infix (hpaced.rhythm id).spaced hnext
    have hspaced : Spaced settings.interval window (ended, .ends) (started, .attempts) := List.isChain_pair.mp hpair
    exact half_le_of_le hwindow.le hspaced.1
  · obtain ⟨pause, hpause, -⟩ := hwindow.exists_initialDelay? hdraw
    exact ⟨pause, hpause⟩
  · exact hwindow.exists_jitteredInterval? hms hdraw
  · exact countP_le_one (scheduled.regular (Scheduler.regular_create ..)).balanced.ids id _

/-- An interval of two seconds is spread over one second, and the number drawn is always the half of one. So a cycle
attempts its first probe after half a second and the next one two seconds after the report of the first. -/
theorem attempts_spaced_two_seconds :
    let half := Binary64.ofDecimal false 5 (-1)
    let settings : CycleSettings :=
      { Observatory.cycleSettings Config.bare 0 with interval := Span.ofMillis 2000, jitterRatio := half }
    let second := Span.ofSeconds 1
    settings.HasWindow second ∧ half.inUnitInterval = true ∧ ∃ steps now t,
      Scheduled 0 (.create settings 1 fun _ => half) steps now t ∧
        marksOf 0 steps = [(0, .begins), (500000000, .attempts), (500000000, .ends), (2500000000, .attempts)] ∧
        Rhythm settings.interval second (marksOf 0 steps) := by
  intro half settings second
  have hhalf : half.inUnitInterval = true := by decide +kernel
  have hone : second.inSeconds.Within 0 := by constructor <;> decide +kernel
  have hwindow : settings.HasWindow second := by
    refine ⟨by decide +kernel, by decide, fun draw hdraw => ?_⟩
    have hproduct := (Binary64.within_of_inUnitInterval hdraw).mul hone (by decide)
    obtain ⟨offset, hoffset, hshort⟩ := Span.ofSecondsNearest?_of_within hproduct (by decide)
    have hsecond : 2 ^ (0 + 0) * nanosPerSecond = second.nanos := by decide
    exact ⟨offset, hoffset, Span.le_def.mpr (hsecond ▸ hshort)⟩
  have hplayed : ((Scheduler.create settings 1 fun _ => half).playClock? 0
      [(0, .spawn "a" 1 ⟨"a", fun _ => .instant⟩), (0, .move 0 0 .advance),
        (500000000, .move 500000000 0 .advance), (500000000, .move 500000000 0 .advance),
        (500000000, .accept 500000000 0), (2500000000, .move 2500000000 0 .advance)]).map
          (fun played => marksOf 0 played.1) =
        some [(0, .begins), (500000000, .attempts), (500000000, .ends), (2500000000, .attempts)] := by
    decide +kernel
  obtain ⟨⟨steps, now, t⟩, hsteps, hmarks⟩ := Option.map_eq_some_iff.mp hplayed
  have scheduled := Scheduled.of_playClock? hsteps
  exact ⟨hwindow, hhalf, steps, now, t, scheduled, hmarks, (attempts_spaced hwindow (fun _ => hhalf) scheduled).1 0⟩

end Runs

end OutboundWatch
