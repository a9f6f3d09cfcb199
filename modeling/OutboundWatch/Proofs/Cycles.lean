import OutboundWatch.Proofs.Operations

/-!
# What cycles show

Between two reports a cycle passes through stages that nobody else depends on. Its face is what remains: who
it is, what it knows, and what it has still to report. A move of a cycle leaves all faces as they are, takes
one away, or puts the result of a round trip into one.
-/

namespace OutboundWatch

/-- A cycle as the other parts depend on it. -/
structure Face where
  id : Nat
  tag : String
  generation : Nat
  stopping : Bool
  health : Health
  /-- What it has to report. -/
  unsent : Option Status

/-- The status that is to be reported in a stage. -/
def CycleStage.unsent : CycleStage → Option Status
  | .reporting status => some status
  | _ => none

def Cycle.face (c : Cycle) : Face := ⟨c.id, c.tag, c.generation, c.stopping, c.health, c.stage.unsent⟩

/-- The result with which the stage of a cycle ends at a moment, and its time: only round trips have one. -/
def Cycle.result? (c : Cycle) (settings : CycleSettings) (now : Moment) : Option (WallTime × ProbeResult) :=
  match c.stage with
  | .probing trip _ => some (settings.epoch + now, trip.judge settings.timeout)
  | _ => none

/-- The face after a result was classified. -/
def Face.classify (f : Face) (classifier : Classifier) (result : WallTime × ProbeResult) : Face :=
  let health := classifier.observe result.1 f.health result.2
  { f with health := health, unsent := some ⟨f.tag, f.generation, health⟩ }

namespace Scheduler

def faces (s : Scheduler) : List Face := s.live.map Cycle.face

/-- The result that a move of a cycle completes, with the generation of the cycle. -/
def completion? (s : Scheduler) (now : Moment) (id : Nat) : CycleMove → Option (Nat × WallTime × ProbeResult)
  | .advance => (s.get? id).bind fun c => (c.result? s.settings now).map fun r => (c.generation, r)
  | .quit => none

/-- Cycles have ids and generations of their own, those that wait for a permit are queued once, and what is
to be reported is what the cycle knows. -/
structure Sound (s : Scheduler) : Prop where
  ids : (s.faces.map Face.id).Nodup
  generations : (s.faces.map Face.generation).Nodup
  fresh : ∀ f ∈ s.faces, f.id < s.nextId
  reports : ∀ f ∈ s.faces, ∀ status, f.unsent = some status → status = ⟨f.tag, f.generation, f.health⟩
  waits : s.waiting.Nodup
  queued : ∀ id ∈ s.waiting, ∃ c ∈ s.live, c.id = id ∧ ∃ giveUpAt, c.stage = .queued giveUpAt

variable {s t : Scheduler} {now : Moment} {id : Nat} {c : Cycle}

lemma mem_of_get? (hc : s.get? id = some c) : c ∈ s.live ∧ c.id = id :=
  ⟨List.mem_of_find?_eq_some hc, by simpa using List.find?_some hc⟩

/-- A cycle with an id of its own is the one that is found. -/
lemma get?_eq_of_nodup (hids : (s.live.map Cycle.id).Nodup) (hc : c ∈ s.live) : s.get? c.id = some c := by
  cases hget : s.get? c.id with
  | none =>
    have hnot := List.find?_eq_none.mp hget c hc
    simp at hnot
  | some d =>
    obtain ⟨hd, hid⟩ := mem_of_get? hget
    rw [List.inj_on_of_nodup_map hids hd hc hid]

lemma face_mem (hc : c ∈ s.live) : c.face ∈ s.faces := List.mem_map_of_mem hc

lemma faces_modify {f : Cycle → Cycle} {g : Face → Face}
    (hface : ∀ d ∈ s.live, d.id = id → (f d).face = g d.face) :
    (s.modify id f).faces = s.faces.map fun e => if e.id = id then g e else e := by
  simp only [faces, modify, List.map_map]
  refine List.map_congr_left ?_
  intro d hd
  have hsame : d.face.id = d.id := rfl
  rw [Function.comp_apply, Function.comp_apply, hsame]
  split
  · rename_i hid
    exact hface d hd hid
  · rfl

lemma faces_modify_same {f : Cycle → Cycle} (hface : ∀ d ∈ s.live, d.id = id → (f d).face = d.face) :
    (s.modify id f).faces = s.faces := by
  rw [faces_modify (g := fun e => e) hface]
  simp

namespace Sound

lemma create (settings : CycleSettings) (concurrency : Nat) (chance : Nat → Binary64) :
    (Scheduler.create settings concurrency chance).Sound := by
  refine ⟨.nil, .nil, ?_, ?_, .nil, ?_⟩ <;> intro _ h <;> cases h

lemma live_ids (h : s.Sound) : (s.live.map Cycle.id).Nodup := by
  simpa [faces, Function.comp_def, Cycle.face] using h.ids

lemma eq_of_id (h : s.Sound) {c d : Cycle} (hc : c ∈ s.live) (hd : d ∈ s.live) (hid : c.id = d.id) :
    c = d :=
  List.inj_on_of_nodup_map h.live_ids hc hd hid

lemma get?_eq (h : s.Sound) (hc : c ∈ s.live) : s.get? c.id = some c := get?_eq_of_nodup h.live_ids hc

lemma id_of_generation (h : s.Sound) {f e : Face} (hf : f ∈ s.faces) (he : e ∈ s.faces)
    (hgeneration : f.generation = e.generation) : f = e :=
  List.inj_on_of_nodup_map h.generations hf he hgeneration

lemma eq_of_face_id (h : s.Sound) {f e : Face} (hf : f ∈ s.faces) (he : e ∈ s.faces) (hid : f.id = e.id) :
    f = e :=
  List.inj_on_of_nodup_map h.ids hf he hid

lemma stage_of_waiting (h : s.Sound) (hc : c ∈ s.live) (hwaits : c.id ∈ s.waiting) :
    ∃ giveUpAt, c.stage = .queued giveUpAt := by
  obtain ⟨d, hd, hid, hstage⟩ := h.queued c.id hwaits
  rwa [h.eq_of_id hd hc hid] at hstage

lemma congr (h : s.Sound) (hlive : t.live = s.live) (hwaiting : t.waiting = s.waiting)
    (hnext : t.nextId = s.nextId) : t.Sound := by
  have hfaces : t.faces = s.faces := by rw [faces, faces, hlive]
  refine ⟨?_, ?_, ?_, ?_, ?_, ?_⟩
  · rw [hfaces]; exact h.ids
  · rw [hfaces]; exact h.generations
  · rw [hfaces, hnext]; exact h.fresh
  · rw [hfaces]; exact h.reports
  · rw [hwaiting]; exact h.waits
  · rw [hlive, hwaiting]; exact h.queued

lemma shorten (h : s.Sound) {waiting : List Nat} (hfewer : waiting.Sublist s.waiting) :
    ({ s with waiting := waiting } : Scheduler).Sound :=
  ⟨h.ids, h.generations, h.fresh, h.reports, h.waits.sublist hfewer,
    fun id hwaits => h.queued id (hfewer.subset hwaits)⟩

/-- A cycle that does not wait may change its stage, its health and what it was told. -/
lemma modify (h : s.Sound) (hc : s.get? id = some c) (hidle : id ∉ s.waiting) {f : Cycle → Cycle}
    (hid : (f c).id = c.id) (hgeneration : (f c).generation = c.generation)
    (hreports : ∀ status, (f c).stage.unsent = some status → status = (f c).status) :
    (s.modify id f).Sound := by
  obtain ⟨hmem, rfl⟩ := mem_of_get? hc
  have hone : ∀ d ∈ s.live, d.id = c.id → d = c := fun d hd heq => h.eq_of_id hd hmem heq
  have hfaces : (s.modify c.id f).faces = s.faces.map fun e => if e.id = c.id then (f c).face else e :=
    faces_modify fun d hd heq => by rw [hone d hd heq]
  have hface : ∀ e ∈ s.faces, e.id = c.id → e = c.face := fun e he heq =>
    h.eq_of_face_id he (face_mem hmem) heq
  have hids : (s.modify c.id f).faces.map Face.id = s.faces.map Face.id := by
    rw [hfaces, List.map_map]
    refine List.map_congr_left fun e _ => ?_
    by_cases heq : e.id = c.id <;> simp [heq, Cycle.face, hid]
  have hgenerations : (s.modify c.id f).faces.map Face.generation = s.faces.map Face.generation := by
    rw [hfaces, List.map_map]
    refine List.map_congr_left fun e he => ?_
    by_cases heq : e.id = c.id
    · rw [hface e he heq]
      simp [Cycle.face, hgeneration]
    · simp [heq]
  refine ⟨by rw [hids]; exact h.ids, by rw [hgenerations]; exact h.generations, ?_, ?_, h.waits, ?_⟩
  · intro e he
    have hmemid : e.id ∈ s.faces.map Face.id := hids ▸ List.mem_map_of_mem he
    obtain ⟨d, hd, heq⟩ := List.mem_map.mp hmemid
    rw [← heq]
    exact h.fresh d hd
  · intro e he
    rw [hfaces] at he
    obtain ⟨d, hd, rfl⟩ := List.mem_map.mp he
    split
    · exact hreports
    · exact h.reports d hd
  · intro other hwaits
    obtain ⟨d, hd, rfl, hstage⟩ := h.queued other hwaits
    have hother : d.id ≠ c.id := fun heq => hidle (heq ▸ hwaits)
    exact ⟨d, List.mem_map.mpr ⟨d, hd, if_neg hother⟩, rfl, hstage⟩

lemma enqueue (h : s.Sound) (hnew : id ∉ s.waiting)
    (hqueued : ∃ c ∈ s.live, c.id = id ∧ ∃ giveUpAt, c.stage = .queued giveUpAt) :
    ({ s with waiting := s.waiting ++ [id] } : Scheduler).Sound := by
  refine ⟨h.ids, h.generations, h.fresh, h.reports, ?_, ?_⟩
  · have hapart : ∀ a ∈ s.waiting, ∀ b ∈ [id], a ≠ b := by
      intro a ha b hb heq
      rw [List.mem_singleton.mp hb] at heq
      exact hnew (heq ▸ ha)
    exact List.nodup_append.mpr ⟨h.waits, by simp, hapart⟩
  · intro other hwaits
    rcases List.mem_append.mp hwaits with hold | hlast
    · exact h.queued other hold
    · rw [List.mem_singleton.mp hlast]
      exact hqueued

lemma faces_returnPermit (h : s.Sound) (now : Moment) : (s.returnPermit now).faces = s.faces := by
  unfold returnPermit
  split
  · rfl
  · rename_i next others hwaiting
    refine faces_modify_same ?_
    intro d hd hid
    obtain ⟨giveUpAt, hstage⟩ := h.stage_of_waiting hd (by simp [hwaiting, hid])
    simp [Cycle.face, Cycle.probeFrom, hstage, CycleStage.unsent]

lemma returnPermit (h : s.Sound) (now : Moment) : (s.returnPermit now).Sound := by
  have hfaces := h.faces_returnPermit now
  unfold Scheduler.returnPermit at hfaces ⊢
  split
  · exact h.congr rfl rfl rfl
  · rename_i next others hwaiting
    simp only [hwaiting] at hfaces
    have hwaits : (next :: others).Nodup := hwaiting ▸ h.waits
    refine ⟨hfaces ▸ h.ids, hfaces ▸ h.generations, ?_, ?_, hwaits.tail, ?_⟩
    · intro f hf
      exact h.fresh f (hfaces ▸ hf)
    · intro f hf
      exact h.reports f (hfaces ▸ hf)
    · intro other hother
      obtain ⟨d, hd, rfl, hstage⟩ := h.queued other (by rw [hwaiting]; exact List.mem_cons_of_mem _ hother)
      have hlater : d.id ≠ next := fun heq => (List.nodup_cons.mp hwaits).1 (heq ▸ hother)
      exact ⟨d, List.mem_map.mpr ⟨d, hd, if_neg hlater⟩, rfl, hstage⟩

lemma without (h : s.Sound) (id : Nat) :
    ({ s with
      live := s.live.filter fun other => other.id != id
      waiting := s.waiting.filter (· != id) } : Scheduler).Sound := by
  have hfaces :
      (s.live.filter fun other => other.id != id).map Cycle.face = s.faces.filter fun f => f.id != id := by
    simp [faces, List.filter_map, Function.comp_def, Cycle.face]
  have hfewer : (s.faces.filter fun f => f.id != id).Sublist s.faces := List.filter_sublist
  refine ⟨?_, ?_, ?_, ?_, h.waits.filter _, ?_⟩
  · rw [faces, hfaces]
    exact h.ids.sublist (hfewer.map _)
  · rw [faces, hfaces]
    exact h.generations.sublist (hfewer.map _)
  · intro f hf
    rw [faces, hfaces] at hf
    exact h.fresh f (hfewer.subset hf)
  · intro f hf
    rw [faces, hfaces] at hf
    exact h.reports f (hfewer.subset hf)
  · intro other hwaits
    obtain ⟨hold, hother⟩ := List.mem_filter.mp hwaits
    obtain ⟨d, hd, rfl, hstage⟩ := h.queued other hold
    exact ⟨d, List.mem_filter.mpr ⟨hd, hother⟩, rfl, hstage⟩

lemma remove (h : s.Sound) (now : Moment) (c : Cycle) : (s.remove now c).Sound := by
  unfold Scheduler.remove
  split
  · exact (h.without c.id).returnPermit now
  · exact h.without c.id

lemma faces_remove (h : s.Sound) (now : Moment) (c : Cycle) :
    (s.remove now c).faces = s.faces.filter fun f => f.id != c.id := by
  have hfilter : ((s.live.filter fun other => other.id != c.id).map Cycle.face) =
      s.faces.filter fun f => f.id != c.id := by
    simp [faces, List.filter_map, Function.comp_def, Cycle.face]
  rw [← hfilter]
  unfold Scheduler.remove
  split
  · exact (h.without c.id).faces_returnPermit now
  · rfl

lemma not_waiting (h : s.Sound) (hc : s.get? id = some c) (hstage : ∀ giveUpAt, c.stage ≠ .queued giveUpAt) :
    id ∉ s.waiting := by
  obtain ⟨hmem, rfl⟩ := mem_of_get? hc
  intro hwaits
  obtain ⟨giveUpAt, hqueued⟩ := h.stage_of_waiting hmem hwaits
  exact hstage giveUpAt hqueued

lemma faces_modify (h : s.Sound) (hc : s.get? id = some c) {f : Cycle → Cycle} (hface : (f c).face = c.face) :
    (s.modify id f).faces = s.faces := by
  obtain ⟨hmem, rfl⟩ := mem_of_get? hc
  refine faces_modify_same fun d hd hid => ?_
  rw [h.eq_of_id hd hmem hid, hface]

/-- A cycle that begins goes to sleep unseen or comes to nothing. -/
lemma begin (h : s.Sound) (hc : s.get? id = some c) (hstage : c.stage = .starting) :
    (s.begin now c).1.Sound ∧
      ((s.begin now c).1.faces = s.faces ∨ (s.begin now c).1.faces = s.faces.filter fun f => f.id != id) := by
  have hidle := h.not_waiting hc (by simp [hstage])
  obtain ⟨-, hid⟩ := mem_of_get? hc
  unfold Scheduler.begin draw
  dsimp only
  generalize initialDelay? s.settings.interval s.settings.jitterRatio (s.chance s.drawn) = delay
  cases delay with
  | none => exact ⟨h.remove now c, .inr (hid ▸ h.faces_remove now c)⟩
  | some pause =>
    rw [hid]
    refine ⟨?_, .inl (h.faces_modify hc ?_)⟩
    · exact (h.modify hc hidle rfl rfl (by simp [Cycle.sleepFrom, CycleStage.unsent])).congr rfl rfl rfl
    · simp [Cycle.face, Cycle.sleepFrom, hstage, CycleStage.unsent]

/-- A cycle that wakes up takes a permit or waits for one unseen, or it comes to nothing. -/
lemma wake (h : s.Sound) (hc : s.get? id = some c) {wakeAt : Moment} (hstage : c.stage = .sleeping wakeAt) :
    (s.wake now c).1.Sound ∧
      ((s.wake now c).1.faces = s.faces ∨ (s.wake now c).1.faces = s.faces.filter fun f => f.id != id) := by
  have hidle := h.not_waiting hc (by simp [hstage])
  obtain ⟨hmem, hid⟩ := mem_of_get? hc
  unfold Scheduler.wake draw
  dsimp only
  generalize jitteredInterval? s.settings.interval s.settings.jitterRatio (s.chance s.drawn) = delay
  cases delay with
  | none => exact ⟨h.remove now c, .inr (hid ▸ h.faces_remove now c)⟩
  | some pause =>
    dsimp only
    rw [hid]
    split
    · refine ⟨?_, .inl (h.faces_modify hc ?_)⟩
      · have hmoved : (s.modify id fun c =>
            { c with pause := pause, stage := .queued (now + s.settings.interval.nanos) }).Sound :=
          h.modify hc hidle rfl rfl (by simp [CycleStage.unsent])
        have hwaits := hmoved.enqueue hidle ⟨_, List.mem_map.mpr ⟨c, hmem, if_pos hid⟩, hid, _, rfl⟩
        exact hwaits.congr rfl rfl rfl
      · simp [Cycle.face, hstage, CycleStage.unsent]
    · refine ⟨?_, .inl (h.faces_modify hc ?_)⟩
      · exact (h.modify hc hidle rfl rfl (by simp [Cycle.probeFrom, CycleStage.unsent])).congr rfl rfl rfl
      · simp [Cycle.face, Cycle.probeFrom, hstage, CycleStage.unsent]

lemma skip (h : s.Sound) (hc : s.get? id = some c) {giveUpAt : Moment} (hstage : c.stage = .queued giveUpAt) :
    (s.skip now c).1.Sound ∧ (s.skip now c).1.faces = s.faces := by
  obtain ⟨hmem, hid⟩ := mem_of_get? hc
  unfold Scheduler.skip
  rw [hid]
  refine ⟨?_, h.faces_modify hc ?_⟩
  · have hleft : ({ s with waiting := s.waiting.filter (· != id) } : Scheduler).Sound :=
      h.shorten List.filter_sublist
    have hidle : id ∉ s.waiting.filter (· != id) := by simp
    exact (hleft.modify (c := c) hc hidle rfl rfl (by simp [Cycle.sleepFrom, CycleStage.unsent])).congr rfl
      rfl rfl
  · simp [Cycle.face, Cycle.sleepFrom, hstage, CycleStage.unsent]

/-- A cycle whose round trip is over shows the classified result. -/
lemma complete (h : s.Sound) (hc : s.get? id = some c) {trip : RoundTrip} {startedAt : Moment}
    (hstage : c.stage = .probing trip startedAt) :
    (s.complete now trip c).1.Sound ∧
      (s.complete now trip c).1.faces = s.faces.map fun f =>
        if f.id = id then f.classify s.settings.classifier
          (s.settings.epoch + now, trip.judge s.settings.timeout) else f := by
  have hidle := h.not_waiting hc (by simp [hstage])
  obtain ⟨hmem, hid⟩ := mem_of_get? hc
  have hmoved : (s.modify id fun _ => (c.finishTrip s.settings now trip).1).Sound := by
    refine h.modify hc hidle rfl rfl ?_
    intro status hstatus
    cases hstatus
    rfl
  unfold Scheduler.complete
  dsimp only
  rw [hid]
  refine ⟨hmoved.returnPermit now, (hmoved.faces_returnPermit now).trans (Scheduler.faces_modify ?_)⟩
  intro d hd hdid
  rw [h.eq_of_id hd hmem (hdid.trans hid.symm)]
  simp [Cycle.finishTrip, Cycle.face, Face.classify, Cycle.status, CycleStage.unsent]

lemma reported (h : s.Sound) (now : Moment) (hc : s.get? id = some c) {status : Status}
    (hstage : c.stage = .reporting status) :
    (s.reported now c).Sound ∧
      (s.reported now c).faces = s.faces.map fun f => if f.id = id then { f with unsent := none } else f := by
  have hidle := h.not_waiting hc (by simp [hstage])
  obtain ⟨hmem, hid⟩ := mem_of_get? hc
  unfold Scheduler.reported
  rw [hid]
  refine ⟨h.modify hc hidle rfl rfl (by simp [Cycle.sleepFrom, CycleStage.unsent]), Scheduler.faces_modify ?_⟩
  intro d _ _
  simp [Cycle.face, Cycle.sleepFrom, CycleStage.unsent]

lemma tell (h : s.Sound) {f : Cycle → Cycle}
    (htold : ∀ c, ∃ stopping, f c = { c with stopping := stopping }) :
    ({ s with live := s.live.map f } : Scheduler).Sound := by
  have hids : (s.live.map f).map (fun c => c.face.id) = s.faces.map Face.id := by
    rw [List.map_map, faces, List.map_map]
    refine List.map_congr_left fun c _ => ?_
    obtain ⟨stopping, hc⟩ := htold c
    simp [hc, Cycle.face]
  have hgenerations : (s.live.map f).map (fun c => c.face.generation) = s.faces.map Face.generation := by
    rw [List.map_map, faces, List.map_map]
    refine List.map_congr_left fun c _ => ?_
    obtain ⟨stopping, hc⟩ := htold c
    simp [hc, Cycle.face]
  refine ⟨?_, ?_, ?_, ?_, h.waits, ?_⟩
  · rw [faces, List.map_map]
    exact hids ▸ h.ids
  · rw [faces, List.map_map]
    exact hgenerations ▸ h.generations
  · intro e he
    obtain ⟨d, hd, rfl⟩ := List.mem_map.mp he
    obtain ⟨c, hc, rfl⟩ := List.mem_map.mp hd
    obtain ⟨stopping, htold⟩ := htold c
    simpa [htold, Cycle.face] using h.fresh c.face (face_mem hc)
  · intro e he
    obtain ⟨d, hd, rfl⟩ := List.mem_map.mp he
    obtain ⟨c, hc, rfl⟩ := List.mem_map.mp hd
    obtain ⟨stopping, htold⟩ := htold c
    simpa [htold, Cycle.face] using h.reports c.face (face_mem hc)
  · intro id hwaits
    obtain ⟨c, hc, hid, hstage⟩ := h.queued id hwaits
    obtain ⟨stopping, htold⟩ := htold c
    exact ⟨f c, List.mem_map_of_mem hc, by simpa [htold] using hid, by simpa [htold] using hstage⟩

lemma requestStop (h : s.Sound) (id : Nat) : (s.requestStop id).Sound := by
  refine h.tell fun c => ?_
  split
  · exact ⟨true, rfl⟩
  · exact ⟨c.stopping, rfl⟩

lemma spawn (h : s.Sound) {tag : String} {generation : Nat} (hnone : s.running.get? tag = none)
    (hnew : ∀ f ∈ s.faces, f.generation ≠ generation) (target : ProbeTarget) :
    (s.spawn tag generation target).Sound := by
  have hfaces : (s.spawn tag generation target).faces =
      s.faces ++ [(Cycle.create s.nextId tag generation target).face] := by
    simp [Scheduler.spawn, hnone, faces]
  have hnext : (s.spawn tag generation target).nextId = s.nextId + 1 := rfl
  refine ⟨?_, ?_, ?_, ?_, ?_, ?_⟩
  · rw [hfaces, List.map_append, List.nodup_append]
    refine ⟨h.ids, by simp, ?_⟩
    intro a ha b hb heq
    obtain ⟨f, hf, rfl⟩ := List.mem_map.mp ha
    have hlast : b = s.nextId := by simpa [Cycle.face, Cycle.create] using hb
    have hless := h.fresh f hf
    omega
  · rw [hfaces, List.map_append, List.nodup_append]
    refine ⟨h.generations, by simp, ?_⟩
    intro a ha b hb heq
    obtain ⟨f, hf, rfl⟩ := List.mem_map.mp ha
    have hlast : b = generation := by simpa [Cycle.face, Cycle.create] using hb
    exact hnew f hf (heq.trans hlast)
  · intro f hf
    rw [hfaces] at hf
    rw [hnext]
    rcases List.mem_append.mp hf with hold | hlast
    · exact Nat.lt_succ_of_lt (h.fresh f hold)
    · rw [List.mem_singleton.mp hlast]
      exact Nat.lt_succ_self _
  · intro f hf
    rw [hfaces] at hf
    rcases List.mem_append.mp hf with hold | hlast
    · exact h.reports f hold
    · rw [List.mem_singleton.mp hlast]
      intro status hstatus
      cases hstatus
  · simpa [Scheduler.spawn, hnone] using h.waits
  · intro id hwaits
    have hold : id ∈ s.waiting := by simpa [Scheduler.spawn, hnone] using hwaits
    obtain ⟨c, hc, hid, hstage⟩ := h.queued id hold
    exact ⟨c, by simp [Scheduler.spawn, hnone, hc], hid, hstage⟩

end Sound

lemma faces_spawn {tag : String} {generation : Nat} (hnone : s.running.get? tag = none)
    (target : ProbeTarget) :
    (s.spawn tag generation target).faces =
      s.faces ++ [⟨s.nextId, tag, generation, false, Health.fresh, none⟩] := by
  simp [spawn, hnone, faces, Cycle.face, Cycle.create, CycleStage.unsent]

lemma faces_requestStop (s : Scheduler) (id : Nat) :
    (s.requestStop id).faces = s.faces.map fun f => if f.id = id then { f with stopping := true } else f :=
  faces_modify fun _ _ _ => rfl

lemma cancel_cases (s : Scheduler) (tag : String) :
    (s.running.get? tag = none ∧ (s.cancel tag).1 = s) ∨
      ∃ current, s.running.get? tag = some current ∧
        (s.cancel tag).1 = { s.requestStop current.id with running := s.running.erase tag } := by
  unfold cancel
  cases hget : s.running.get? tag with
  | none => exact .inl ⟨rfl, rfl⟩
  | some current => exact .inr ⟨current, rfl, rfl⟩

lemma faces_foldl_requestStop {ids : List RunningCycle} (htold : ∀ f ∈ s.faces, f.stopping = true) :
    (ids.foldl (fun acc current => acc.requestStop current.id) s).faces = s.faces := by
  induction ids generalizing s with
  | nil => rfl
  | cons current rest ih =>
    have hsame : (s.requestStop current.id).faces = s.faces := by
      rw [faces_requestStop]
      refine (List.map_congr_left fun f hf => ?_).trans (List.map_id _)
      split
      · rw [← htold f hf]
        rfl
      · rfl
    rw [List.foldl_cons, ih (by rw [hsame]; exact htold), hsame]

lemma faces_stopAll (s : Scheduler) :
    s.requestStopAll.dismissAll.faces = s.faces.map fun f => { f with stopping := true } := by
  have htold : s.requestStopAll.faces = s.faces.map fun f => { f with stopping := true } := by
    simp only [faces, requestStopAll, List.map_map]
    rfl
  have hall : ∀ f ∈ s.requestStopAll.faces, f.stopping = true := by
    intro f hf
    rw [htold] at hf
    obtain ⟨e, -, rfl⟩ := List.mem_map.mp hf
    rfl
  rw [← htold]
  exact faces_foldl_requestStop hall

lemma Sound.stopAll (h : s.Sound) : s.requestStopAll.dismissAll.Sound := by
  have hfold : ∀ (told : List RunningCycle) (t : Scheduler), t.Sound →
      (told.foldl (fun acc current => acc.requestStop current.id) t).Sound := by
    intro told
    induction told with
    | nil => exact fun t ht => ht
    | cons current rest ih => exact fun t ht => ih _ (ht.requestStop current.id)
  have hall : s.requestStopAll.Sound := h.tell fun c => ⟨true, rfl⟩
  exact (hfold s.running.values _ hall).congr rfl rfl rfl

/-- What a cycle does by itself: it completes a round trip and shows the classified result, or it completes
nothing and either shows no difference or ends. It ends with a report that was not sent only if it was told
to stop. -/
theorem move?_cases (h : s.Sound) {move : CycleMove} {records : List Record}
    (happens : s.move? now id move = some (t, records)) :
    t.Sound ∧ ∃ c, s.get? id = some c ∧
      ((∃ r, s.completion? now id move = some (c.generation, r) ∧ c.stage.unsent = none ∧
          t.faces = s.faces.map fun f => if f.id = id then f.classify s.settings.classifier r else f) ∨
        (s.completion? now id move = none ∧
          (t.faces = s.faces ∨
            (t.faces = s.faces.filter (fun f => f.id != id) ∧
              (c.stopping = true ∨ c.stage.unsent = none))))) := by
  cases move with
  | quit =>
    obtain ⟨c, hc, heq⟩ := Option.map_eq_some_iff.mp happens
    cases heq
    obtain ⟨hc, hstopping⟩ := Option.filter_eq_some_iff.mp hc
    obtain ⟨-, hid⟩ := mem_of_get? hc
    exact ⟨h.remove now c, c, hc, .inr ⟨rfl, .inr ⟨hid ▸ h.faces_remove now c, .inl hstopping⟩⟩⟩
  | advance =>
    obtain ⟨c, hc, heq⟩ := Option.map_eq_some_iff.mp happens
    have ht : t = (s.goOn now c).1 := by rw [heq]
    subst ht
    have hcompletion : s.completion? now id .advance =
        (c.result? s.settings now).map fun r => (c.generation, r) := by
      simp [completion?, hc]
    rw [hcompletion]
    unfold goOn
    cases hstage : c.stage with
    | starting =>
      obtain ⟨hsound, hfaces⟩ := h.begin hc hstage
      refine ⟨hsound, c, hc, .inr ⟨by simp [Cycle.result?, hstage], ?_⟩⟩
      exact hfaces.imp (fun hsame => hsame) fun hgone => ⟨hgone, .inr (by simp [hstage, CycleStage.unsent])⟩
    | sleeping wakeAt =>
      obtain ⟨hsound, hfaces⟩ := h.wake hc hstage
      refine ⟨hsound, c, hc, .inr ⟨by simp [Cycle.result?, hstage], ?_⟩⟩
      exact hfaces.imp (fun hsame => hsame) fun hgone => ⟨hgone, .inr (by simp [hstage, CycleStage.unsent])⟩
    | queued giveUpAt =>
      obtain ⟨hsound, hfaces⟩ := h.skip hc hstage
      exact ⟨hsound, c, hc, .inr ⟨by simp [Cycle.result?, hstage], .inl hfaces⟩⟩
    | probing trip startedAt =>
      obtain ⟨hsound, hfaces⟩ := h.complete hc hstage
      refine ⟨hsound, c, hc, .inl ⟨_, ?_, by simp [hstage, CycleStage.unsent], hfaces⟩⟩
      simp only [Cycle.result?, hstage, Option.map_some]
    | reporting status => exact ⟨h, c, hc, .inr ⟨by simp [Cycle.result?, hstage], .inl rfl⟩⟩

end Scheduler

end OutboundWatch
