import OutboundWatch.Config.Reload
import OutboundWatch.Proofs.Starting

/-!
# Hot reload

A watched file is loaded whenever it is saved, and a set of candidates that differs from the last accepted one is
passed on to the observatory. The gate compares with what it accepted last and not with what is registered, so that
the argument runs along the queue of sets between them: its last set is always the accepted one.
-/

namespace OutboundWatch

/-- The same candidates, in whatever order. -/
def SameCandidates (a b : List CandidateConfig) : Prop := ∀ candidate, candidate ∈ a ↔ candidate ∈ b

/-- A watched file, the observatory that follows it, and the sets of candidates on the way between them. -/
structure HotReload where
  gate : ReloadGate
  forwarded : List (List CandidateConfig)
  observatory : Observatory

inductive ReloadEvent where
  /-- The file is saved with some content. -/
  | save (file : StoredFile)
  /-- The observatory is brought in line with the oldest set that was passed on. -/
  | reconcile
  /-- Anything else happens to the observatory. -/
  | other (event : Event)

def Reload.forwarded : Reload → List (List CandidateConfig)
  | rejected _ => []
  | admitted diff => diff.candidates.toList

/-- The configuration that counts after some saved contents: the last one that was accepted. -/
def lastAccepted (config : Config) (files : List StoredFile) : Config :=
  files.foldl (fun last file => match Config.load file with | .ok next => next | .error _ => last) config

namespace HotReload

def create (config : Config) (started : Observatory) : HotReload := ⟨⟨config⟩, [], started⟩

def perform? (r : HotReload) : ReloadEvent → Option HotReload
  | .save file =>
    let (gate, reload) := r.gate.reload file
    some { r with gate := gate, forwarded := r.forwarded ++ reload.forwarded }
  | .reconcile =>
    match r.forwarded with
    | [] => none
    | desired :: rest => some { r with forwarded := rest, observatory := (r.observatory.reconcile desired).after }
  | .other event => (r.observatory.perform? event).map fun (o, _) => { r with observatory := o }

/-- Saved contents name no other tags, sets are passed on while the observatory runs, and nothing else changes the
registration of a named tag. -/
def Respects (named : List String) (p q : HotReload) : ReloadEvent → Prop
  | .save file => ∀ next, Config.load file = .ok next → ∀ candidate ∈ next.candidates, candidate.tag ∈ named
  | .reconcile => p.observatory.isStopped = false
  | .other _ => ∀ tag ∈ named, q.observatory.registry.get? tag = p.observatory.registry.get? tag

end HotReload

structure ReloadStep where
  before : HotReload
  event : ReloadEvent
  after : HotReload

/-- The contents that were saved, the first one first. -/
def savedFiles (steps : List ReloadStep) : List StoredFile :=
  steps.filterMap fun s => match s.event with
    | .save file => some file
    | _ => none

namespace HotReload

inductive Run (named : List String) (r : HotReload) : List ReloadStep → HotReload → Prop where
  | refl : Run named r [] r
  | step {steps : List ReloadStep} {p q : HotReload} {event : ReloadEvent} : Run named r steps p →
    p.perform? event = some q → p.Respects named q event → Run named r (steps ++ [⟨p, event, q⟩]) q

end HotReload

/-- Something else than a passed on set has registered this candidate. -/
def RegisteredApart (steps : List ReloadStep) (tag : String) (c : Candidate) : Prop :=
  ∃ s ∈ steps, (∃ event, s.event = .other event) ∧ s.before.observatory.registry.get? tag ≠ some c ∧
    s.after.observatory.registry.get? tag = some c

namespace SameCandidates

variable {a b c : List CandidateConfig}

lemma refl (a : List CandidateConfig) : SameCandidates a a := fun _ => .rfl

lemma trans (first : SameCandidates a b) (second : SameCandidates b c) : SameCandidates a c :=
  fun candidate => (first candidate).trans (second candidate)

lemma symm (h : SameCandidates a b) : SameCandidates b a := fun candidate => (h candidate).symm

end SameCandidates

namespace Config

/-- Sorted by their distinct tags, two lists of candidates are equal exactly if they have the same members. -/
theorem sortedCandidates_eq_iff {a b : Config} (ha : WellFormed a.candidates) (hb : WellFormed b.candidates) :
    a.sortedCandidates = b.sortedCandidates ↔ SameCandidates a.candidates b.candidates := by
  have hperm : ∀ c : Config, c.sortedCandidates.Perm c.candidates := fun c => List.mergeSort_perm _ _
  constructor
  · intro heq candidate
    rw [← (hperm a).mem_iff, heq, (hperm b).mem_iff]
  · intro hsame
    have hsorted : ∀ c : Config, c.sortedCandidates.Pairwise fun x y => decide (x.tag ≤ y.tag) = true := by
      intro c
      refine List.pairwise_mergeSort (fun x y z => ?_) (fun x y => ?_) _
      · simpa using String.le_trans
      · simpa using String.le_total x.tag y.tag
    have hboth : a.sortedCandidates.Perm b.sortedCandidates := by
      refine (hperm a).trans (List.Perm.trans ?_ (hperm b).symm)
      exact (List.perm_ext_iff_of_nodup ha.distinct.of_map hb.distinct.of_map).mpr hsame
    refine hboth.eq_of_pairwise (fun x y hx hy hxy hyx => ?_) (hsorted a) (hsorted b)
    have htag : x.tag = y.tag := String.le_antisymm (of_decide_eq_true hxy) (of_decide_eq_true hyx)
    have hmem : y ∈ a.candidates := (hsame y).mpr ((hperm b).mem_iff.mp hy)
    exact List.inj_on_of_nodup_map ha.distinct ((hperm a).mem_iff.mp hx) hmem htag

lemma valid_of_load {file : StoredFile} {c : Config} (hload : load file = .ok c) : c.Valid := by
  have haccept : ∀ d : Config, d.accept = .ok c → c.Valid := by
    intro d hd
    unfold accept at hd
    split at hd <;> cases hd
    rename_i hvalid
    exact c.errors_eq_nil_iff.mp (List.isEmpty_iff.mp hvalid)
  unfold load at hload
  split at hload
  · cases hload
  · unfold parse at hload
    split at hload
    · cases hload
    · split at hload
      · cases hload
      · exact haccept _ hload

end Config

def StoredFile.ofText (text : String) : StoredFile := .content text.toUTF8.data.toList

lemma Config.load_ofText (text : String) : load (.ofText text) = parse text := by
  have hread : (StoredFile.ofText text).read = .ok text := by
    simp only [StoredFile.ofText, StoredFile.read, String.fromUTF8?, String.toUTF8_eq_toByteArray,
      dif_pos text.isValidUTF8]
    rfl
  rw [load, hread]

lemma lastAccepted_append_singleton (config : Config) (files : List StoredFile) (file : StoredFile) :
    lastAccepted config (files ++ [file]) =
      match Config.load file with
      | .ok next => next
      | .error _ => lastAccepted config files := by
  simp [lastAccepted]

lemma RegisteredApart.mono {steps : List ReloadStep} {tag : String} {c : Candidate}
    (h : RegisteredApart steps tag c) (last : ReloadStep) : RegisteredApart (steps ++ [last]) tag c := by
  obtain ⟨s, hs, hrest⟩ := h
  exact ⟨s, List.mem_append_left _ hs, hrest⟩

namespace HotReload

variable {p q : HotReload} {file : StoredFile}

/-- A content that cannot be loaded changes nothing. One that is loaded is remembered, and its candidates are passed
on if they are others than before. -/
lemma perform?_save (hbefore : WellFormed p.gate.accepted.candidates) (happens : p.perform? (.save file) = some q) :
    (∃ reason, Config.load file = .error reason ∧ q = p) ∨
      ∃ next, Config.load file = .ok next ∧
        ((SameCandidates next.candidates p.gate.accepted.candidates ∧ q = { p with gate := ⟨next⟩ }) ∨
          (¬SameCandidates next.candidates p.gate.accepted.candidates ∧
            q = { p with gate := ⟨next⟩, forwarded := p.forwarded ++ [next.candidates] })) := by
  cases hload : Config.load file with
  | error reason =>
    simp only [perform?, ReloadGate.reload, hload, Reload.forwarded, List.append_nil, Option.some.injEq] at happens
    exact .inl ⟨reason, rfl, happens.symm⟩
  | ok next =>
    refine .inr ⟨next, rfl, ?_⟩
    have hiff := Config.sortedCandidates_eq_iff (Config.valid_of_load hload).candidates hbefore
    simp only [perform?, ReloadGate.reload, hload, ReloadGate.admit, Reload.forwarded, Option.some.injEq] at happens
    subst happens
    by_cases hsame : SameCandidates next.candidates p.gate.accepted.candidates
    · exact .inl ⟨hsame, by simp [hiff.mpr hsame]⟩
    · have hdiffers : next.sortedCandidates ≠ p.gate.accepted.sortedCandidates := fun heq => hsame (hiff.mp heq)
      exact .inr ⟨hsame, by simp [hdiffers]⟩

lemma perform?_reconcile (happens : p.perform? .reconcile = some q) :
    ∃ desired rest, p.forwarded = desired :: rest ∧
      q = { p with forwarded := rest, observatory := (p.observatory.reconcile desired).after } := by
  cases hqueue : p.forwarded with
  | nil => simp [perform?, hqueue] at happens
  | cons desired rest =>
    simp only [perform?, hqueue, Option.some.injEq] at happens
    exact ⟨desired, rest, rfl, happens.symm⟩

lemma perform?_other {event : Event} (happens : p.perform? (.other event) = some q) :
    ∃ o records, p.observatory.perform? event = some (o, records) ∧ q = { p with observatory := o } := by
  obtain ⟨⟨o, records⟩, hstep, heq⟩ := Option.map_eq_some_iff.mp happens
  exact ⟨o, records, hstep, heq.symm⟩

end HotReload

namespace Observatory

/-- Of the named tags, exactly those of `base` are registered from a configuration, each with its definition. -/
structure Conforms (o : Observatory) (named : List String) (base : List CandidateConfig) : Prop where
  registered : ∀ candidate ∈ base, ∃ c, o.registry.get? candidate.tag = some c ∧ c.source = some candidate.target
  only : ∀ tag ∈ named, ∀ c, o.registry.get? tag = some c → c.source ≠ none →
    tag ∈ base.map CandidateConfig.tag

variable {o p : Observatory} {named : List String} {base desired : List CandidateConfig}

lemma Conforms.frame (hconforms : o.Conforms named base) (hbase : ∀ candidate ∈ base, candidate.tag ∈ named)
    (hsame : ∀ tag ∈ named, p.registry.get? tag = o.registry.get? tag) : p.Conforms named base where
  registered candidate hmem := by
    rw [hsame _ (hbase candidate hmem)]
    exact hconforms.registered candidate hmem
  only tag htag c hc hsource := hconforms.only tag htag c (hsame tag htag ▸ hc) hsource

/-- What a configuration has registered is wanted after a reconciliation, whoever registered it. -/
lemma mem_of_reconcile (hordered : Ordered o) (hgoing : o.isStopped = false) (hdesired : WellFormed desired)
    {tag : String} {c : Candidate} (hc : (o.reconcile desired).after.registry.get? tag = some c)
    (hsource : c.source ≠ none) : tag ∈ desired.map CandidateConfig.tag := by
  by_contra hunwanted
  have hview := (reconcile_eq hordered hgoing hdesired).1 tag
  have hwanted := (wantedFor_eq_none_iff desired tag).mpr hunwanted
  have hafter : ((o.reconcile desired).after.view tag).candidate = some c := hc
  cases hbefore : (o.view tag).candidate with
  | none =>
    rw [hview.absent hbefore hwanted, hbefore] at hafter
    cases hafter
  | some d =>
    by_cases hd : d.source = none
    · rw [hview.untouched hbefore hwanted hd, hbefore] at hafter
      cases hafter
      exact hsource hd
    · rw [(hview.ended hbefore hwanted hd).candidate] at hafter
      cases hafter

lemma conforms_of_reconcile (hordered : Ordered o) (hgoing : o.isStopped = false) (hdesired : WellFormed desired) :
    (o.reconcile desired).after.Conforms named desired where
  registered candidate hmem :=
    ((reconcile_eq hordered hgoing hdesired).1 candidate.tag).registered
      ((wantedFor_eq_some_iff hdesired.distinct _ _).mpr ⟨hmem, rfl⟩)
  only _ _ _ hc hsource := mem_of_reconcile hordered hgoing hdesired hc hsource

/-- Who is registered as it is wanted stays as it is. -/
lemma get?_reconcile_of_kept (hordered : Ordered o) (hgoing : o.isStopped = false) (hdesired : WellFormed desired)
    {candidate : CandidateConfig} (hmem : candidate ∈ desired) {c : Candidate}
    (hc : o.registry.get? candidate.tag = some c) (hsource : c.source = some candidate.target) :
    (o.reconcile desired).after.registry.get? candidate.tag = some c := by
  have hview := ((reconcile_eq hordered hgoing hdesired).1 candidate.tag).kept hc
    ((wantedFor_eq_some_iff hdesired.distinct _ _).mpr ⟨hmem, rfl⟩) hsource
  exact (congrArg TagView.candidate hview).trans hc

end Observatory

lemma Populated.conforms {network : Network} {wanted : List CandidateConfig} {o : Observatory}
    (h : Populated network wanted o) (named : List String) : o.Conforms named wanted where
  registered candidate hmem := by
    obtain ⟨i, hi⟩ := List.mem_iff_getElem?.mp hmem
    obtain ⟨built, -, hregistered⟩ := h.registered i candidate hi
    exact ⟨_, hregistered, rfl⟩
  only tag _ c hc _ := h.named tag c hc

/-- Where a run has come to. What is registered follows some `base`, the sets on the way lead from there to the last
accepted configuration, and what is registered from elsewhere was registered apart. -/
structure Following (config : Config) (named : List String) (steps : List ReloadStep) (p : HotReload) : Prop where
  reachable : Reachable p.observatory
  gate : p.gate.accepted = lastAccepted config (savedFiles steps)
  formed : ∀ wanted ∈ p.gate.accepted.candidates :: p.forwarded,
    WellFormed wanted ∧ ∀ candidate ∈ wanted, candidate.tag ∈ named
  leads : ∃ base, (∀ candidate ∈ base, candidate.tag ∈ named) ∧ p.observatory.Conforms named base ∧
    SameCandidates (p.forwarded.getLastD base) p.gate.accepted.candidates
  apart : ∀ tag c, tag ∉ named → p.observatory.registry.get? tag = some c → c.source ≠ none →
    RegisteredApart steps tag c

lemma savedFiles_append (steps : List ReloadStep) (p : HotReload) (event : ReloadEvent) (q : HotReload) :
    savedFiles (steps ++ [⟨p, event, q⟩]) = savedFiles steps ++ savedFiles [⟨p, event, q⟩] := by
  simp [savedFiles]

namespace Following

variable {config : Config} {named : List String} {steps : List ReloadStep} {p q : HotReload}

lemma create {world : World} {started : Observatory} {records : List Record}
    (hstart : Observatory.start config world = .ok (started, records))
    (hnamed : ∀ candidate ∈ config.candidates, candidate.tag ∈ named) :
    Following config named [] (.create config started) := by
  have hpopulated := Observatory.populated_of_start hstart
  refine ⟨⟨config, world, started, records, [], hstart, .refl⟩, rfl, ?_,
    ⟨config.candidates, hnamed, hpopulated.conforms named, .refl _⟩, ?_⟩
  · intro wanted hwanted
    obtain rfl := List.mem_singleton.mp hwanted
    exact ⟨(Observatory.valid_of_start hstart).1.candidates, hnamed⟩
  · intro tag c htag hc _
    obtain ⟨candidate, hmem, rfl⟩ := List.mem_map.mp (hpopulated.named tag c hc)
    exact absurd (hnamed candidate hmem) htag

lemma save (hfollowing : Following config named steps p) {file : StoredFile}
    (happens : p.perform? (.save file) = some q) (hrespects : p.Respects named q (.save file)) :
    Following config named (steps ++ [⟨p, .save file, q⟩]) q := by
  have hlast : lastAccepted config (savedFiles (steps ++ [⟨p, .save file, q⟩])) =
      lastAccepted config (savedFiles steps ++ [file]) := congrArg _ (savedFiles_append _ _ _ _)
  rw [lastAccepted_append_singleton] at hlast
  have hapart : ∀ tag c, tag ∉ named → p.observatory.registry.get? tag = some c → c.source ≠ none →
      RegisteredApart (steps ++ [⟨p, .save file, q⟩]) tag c :=
    fun tag c htag hc hsource => (hfollowing.apart tag c htag hc hsource).mono _
  obtain ⟨base, hbase, hconforms, hleads⟩ := hfollowing.leads
  have hbefore := (hfollowing.formed _ List.mem_cons_self).1
  -- The base stays, and the queue still leads from it to what is accepted last.
  rcases HotReload.perform?_save hbefore happens with ⟨reason, hload, rfl⟩ | ⟨next, hload, hnext⟩
  · rw [hload] at hlast
    exact ⟨hfollowing.reachable, hfollowing.gate.trans hlast.symm, hfollowing.formed, hfollowing.leads, hapart⟩
  · rw [hload] at hlast
    have hformed : WellFormed next.candidates ∧ ∀ candidate ∈ next.candidates, candidate.tag ∈ named :=
      ⟨(Config.valid_of_load hload).candidates, hrespects next hload⟩
    rcases hnext with ⟨hsame, rfl⟩ | ⟨-, rfl⟩
    · refine ⟨hfollowing.reachable, hlast.symm, ?_, ⟨base, hbase, hconforms, hleads.trans hsame.symm⟩, hapart⟩
      exact List.forall_mem_cons.mpr ⟨hformed, (List.forall_mem_cons.mp hfollowing.formed).2⟩
    · refine ⟨hfollowing.reachable, hlast.symm, ?_, ⟨base, hbase, hconforms, ?_⟩, hapart⟩
      · refine List.forall_mem_cons.mpr ⟨hformed, List.forall_mem_append.mpr ⟨?_, ?_⟩⟩
        · exact (List.forall_mem_cons.mp hfollowing.formed).2
        · exact List.forall_mem_singleton.mpr hformed
      · simpa using SameCandidates.refl next.candidates

lemma reconcile (hfollowing : Following config named steps p) (happens : p.perform? .reconcile = some q)
    (hgoing : p.observatory.isStopped = false) : Following config named (steps ++ [⟨p, .reconcile, q⟩]) q := by
  have hsaved : savedFiles (steps ++ [⟨p, .reconcile, q⟩]) = savedFiles steps := by simp [savedFiles]
  obtain ⟨base, hbase, hconforms, hleads⟩ := hfollowing.leads
  obtain ⟨desired, rest, hqueue, rfl⟩ := HotReload.perform?_reconcile happens
  have hordered := hfollowing.reachable.ordered
  have hstep : p.observatory.perform? (.reconcile desired) = some (p.observatory.reconcile desired).outcome := rfl
  obtain ⟨hformed, hnamed⟩ := hfollowing.formed desired (by simp [hqueue])
  -- The oldest set becomes the base.
  rw [hqueue, List.getLastD_cons] at hleads
  refine ⟨hfollowing.reachable.step hstep, ?_, ?_,
    ⟨desired, hnamed, Observatory.conforms_of_reconcile hordered hgoing hformed, hleads⟩, ?_⟩
  · rw [hsaved]
    exact hfollowing.gate
  · intro wanted hwanted
    refine hfollowing.formed wanted ?_
    rw [hqueue]
    rcases List.mem_cons.mp hwanted with rfl | hqueued
    · exact List.mem_cons_self
    · exact List.mem_cons_of_mem _ (List.mem_cons_of_mem _ hqueued)
  · -- A reconciliation leaves nothing registered from a configuration but what it was told.
    intro tag c htag hc hsource
    obtain ⟨candidate, hmem, rfl⟩ :=
      List.mem_map.mp (Observatory.mem_of_reconcile hordered hgoing hformed hc hsource)
    exact absurd (hnamed candidate hmem) htag

lemma other (hfollowing : Following config named steps p) {event : Event}
    (happens : p.perform? (.other event) = some q) (hrespects : p.Respects named q (.other event)) :
    Following config named (steps ++ [⟨p, .other event, q⟩]) q := by
  have hsaved : savedFiles (steps ++ [⟨p, .other event, q⟩]) = savedFiles steps := by simp [savedFiles]
  obtain ⟨base, hbase, hconforms, hleads⟩ := hfollowing.leads
  have hafter : ∀ tag ∈ named, q.observatory.registry.get? tag = p.observatory.registry.get? tag := hrespects
  obtain ⟨o, records, hstep, rfl⟩ := HotReload.perform?_other happens
  refine ⟨hfollowing.reachable.step hstep, ?_, hfollowing.formed,
    ⟨base, hbase, hconforms.frame hbase hafter, hleads⟩, ?_⟩
  · rw [hsaved]
    exact hfollowing.gate
  · intro tag c htag hc hsource
    by_cases hbefore : p.observatory.registry.get? tag = some c
    · exact (hfollowing.apart tag c htag hbefore hsource).mono _
    · exact ⟨_, List.mem_append_right _ List.mem_cons_self, ⟨event, rfl⟩, hbefore, hc⟩

theorem perform? (hfollowing : Following config named steps p) {event : ReloadEvent}
    (happens : p.perform? event = some q) (hrespects : p.Respects named q event) :
    Following config named (steps ++ [⟨p, event, q⟩]) q := by
  cases event with
  | save file => exact hfollowing.save happens hrespects
  | reconcile => exact hfollowing.reconcile happens hrespects
  | other event => exact hfollowing.other happens hrespects

theorem run (hfollowing : Following config named [] p) (run : HotReload.Run named p steps q) :
    Following config named steps q := by
  induction run with
  | refl => exact hfollowing
  | step _ happens hrespects ih => exact ih.perform? happens hrespects

/-- As long as every accepted configuration has the same entry for it, a candidate is not touched. -/
theorem kept_of_run (hfollowing : Following config named [] p) (run : HotReload.Run named p steps q)
    {candidate : CandidateConfig} {c : Candidate} (hnamed : candidate.tag ∈ named)
    (hsource : c.source = some candidate.target) (hbegun : p.observatory.registry.get? candidate.tag = some c)
    (hidle : p.forwarded = [])
    (hwanted : ∀ file ∈ savedFiles steps, ∀ next, Config.load file = .ok next → candidate ∈ next.candidates) :
    q.observatory.registry.get? candidate.tag = some c ∧ ∀ wanted ∈ q.forwarded, candidate ∈ wanted := by
  induction run with
  | refl => exact ⟨hbegun, by simp [hidle]⟩
  | @step steps m q event earlier happens hrespects ih =>
    have hreached := hfollowing.run earlier
    rw [savedFiles_append] at hwanted
    obtain ⟨hc, hqueued⟩ := ih fun file hfile => hwanted file (List.mem_append_left _ hfile)
    cases event with
    | save file =>
      have hbefore := (hreached.formed _ List.mem_cons_self).1
      rcases HotReload.perform?_save hbefore happens with ⟨_, -, rfl⟩ | ⟨next, hload, ⟨-, rfl⟩ | ⟨-, rfl⟩⟩
      · exact ⟨hc, hqueued⟩
      · exact ⟨hc, hqueued⟩
      · have hnext := hwanted file (by simp [savedFiles]) next hload
        exact ⟨hc, List.forall_mem_append.mpr ⟨hqueued, List.forall_mem_singleton.mpr hnext⟩⟩
    | reconcile =>
      obtain ⟨desired, rest, hqueue, rfl⟩ := HotReload.perform?_reconcile happens
      have hgoing : m.observatory.isStopped = false := hrespects
      have hformed := (hreached.formed desired (by simp [hqueue])).1
      rw [hqueue, List.forall_mem_cons] at hqueued
      exact ⟨Observatory.get?_reconcile_of_kept hreached.reachable.ordered hgoing hformed hqueued.1 hc hsource,
        hqueued.2⟩
    | other event =>
      have hafter := hrespects candidate.tag hnamed
      obtain ⟨o, records, -, rfl⟩ := HotReload.perform?_other happens
      exact ⟨hafter.trans hc, hqueued⟩

end Following

/-- Registered from a configuration are exactly the `wanted` candidates, and what was registered apart. -/
structure HotReload.Converged (p : HotReload) (named : List String) (steps : List ReloadStep)
    (wanted : List CandidateConfig) : Prop where
  registered : ∀ candidate ∈ wanted, ∃ c, p.observatory.registry.get? candidate.tag = some c ∧
    c.source = some candidate.target
  only : ∀ tag c target, p.observatory.registry.get? tag = some c → c.source = some target →
    ⟨tag, target⟩ ∈ wanted ∨ tag ∉ named ∧ RegisteredApart steps tag c

lemma Following.converged {config : Config} {named : List String} {steps : List ReloadStep} {p : HotReload}
    (hfollowing : Following config named steps p) (hidle : p.forwarded = []) :
    p.Converged named steps (lastAccepted config (savedFiles steps)).candidates := by
  obtain ⟨base, hbase, hconforms, hleads⟩ := hfollowing.leads
  rw [hidle, List.getLastD_nil, hfollowing.gate] at hleads
  refine ⟨fun candidate hmem => hconforms.registered candidate ((hleads candidate).mpr hmem), ?_⟩
  intro tag c target hc hsource
  have hconfigured : c.source ≠ none := by simp [hsource]
  by_cases htag : tag ∈ named
  · obtain ⟨candidate, hmem, rfl⟩ := List.mem_map.mp (hconforms.only tag htag c hc hconfigured)
    obtain ⟨d, hd, htarget⟩ := hconforms.registered candidate hmem
    obtain rfl := Option.some.inj (hc.symm.trans hd)
    have heq : candidate.target = target := Option.some.inj (htarget.symm.trans hsource)
    exact .inl (heq ▸ (hleads candidate).mp hmem)
  · exact .inr ⟨htag, hfollowing.apart tag c htag hc hconfigured⟩

/-- An observatory that follows its file comes to have the candidates of the last content that was accepted, whenever
nothing is on the way. Saving passes on a set exactly if it differs from the last accepted one, and touches no
registration. A candidate that stands in all accepted contents keeps its registration and its cycle. -/
theorem hot_reload_converges {config : Config} {world : World} {started : Observatory} {records : List Record}
    (hstart : Observatory.start config world = .ok (started, records)) {named : List String}
    (hnamed : ∀ candidate ∈ config.candidates, candidate.tag ∈ named) {steps : List ReloadStep} {p : HotReload}
    (run : HotReload.Run named (.create config started) steps p) :
    let current := lastAccepted config (savedFiles steps)
    (p.forwarded = [] → p.Converged named steps current.candidates) ∧
      (∀ file reason, Config.load file = .error reason → p.perform? (.save file) = some p) ∧
      (∀ file next, Config.load file = .ok next → ∃ q, p.perform? (.save file) = some q ∧
        q.observatory = p.observatory ∧
        (SameCandidates next.candidates current.candidates → q.forwarded = p.forwarded) ∧
        (¬SameCandidates next.candidates current.candidates →
          q.forwarded = p.forwarded ++ [next.candidates])) ∧
      (∀ candidate ∈ config.candidates,
        (∀ file ∈ savedFiles steps, ∀ next, Config.load file = .ok next → candidate ∈ next.candidates) →
        ∃ c, started.registry.get? candidate.tag = some c ∧ p.observatory.registry.get? candidate.tag = some c ∧
          (p.observatory.isStopped = false →
            (p.observatory.scheduler.running.get? candidate.tag).map RunningCycle.generation =
              some c.generation)) := by
  intro current
  have hcreate := Following.create hstart hnamed
  have hfollowing := hcreate.run run
  have hbefore := (hfollowing.formed _ List.mem_cons_self).1
  have hsave : ∀ file, ∃ q, p.perform? (.save file) = some q := fun _ => ⟨_, rfl⟩
  refine ⟨hfollowing.converged, ?_, ?_, ?_⟩
  · intro file reason hload
    obtain ⟨q, hq⟩ := hsave file
    rcases HotReload.perform?_save hbefore hq with ⟨_, -, rfl⟩ | ⟨next, hnext, -⟩
    · exact hq
    · cases hload.symm.trans hnext
  · intro file next hload
    obtain ⟨q, hq⟩ := hsave file
    refine ⟨q, hq, ?_⟩
    rcases HotReload.perform?_save hbefore hq with ⟨_, herror, -⟩ | ⟨loaded, hloaded, hcases⟩
    · cases hload.symm.trans herror
    · obtain rfl := Except.ok.inj (hload.symm.trans hloaded)
      rw [hfollowing.gate] at hcases
      rcases hcases with ⟨hsame, rfl⟩ | ⟨hother, rfl⟩
      · exact ⟨rfl, fun _ => rfl, fun hnot => absurd hsame hnot⟩
      · exact ⟨rfl, fun hsame => absurd hsame hother, fun _ => rfl⟩
  · intro candidate hmem hwanted
    obtain ⟨c, hc, hsource⟩ := ((Observatory.populated_of_start hstart).conforms named).registered candidate hmem
    obtain ⟨hkept, -⟩ := hcreate.kept_of_run run (hnamed candidate hmem) hsource hc rfl hwanted
    refine ⟨c, hc, hkept, fun hgoing => ?_⟩
    rw [hfollowing.reachable.agreement.probed hgoing candidate.tag, hkept]
    rfl

namespace Config

def local9 (tag : String) : CandidateConfig := ⟨tag, .tcp "127.0.0.1:9"⟩

def single : Config := { bare with candidates := [local9 "a"] }

/-- A text with the same candidate and another one, line by line. -/
def pairLines : List String := [
  "[classifier]\n", "failure_threshold = 3\n", "quality_ceiling_ms = 400\n",
  "[selector.switch_margin]\n", "absolute_ms = 50\n",
  "[[candidates]]\n", "tag = \"b\"\n", "target.kind = \"tcp\"\n", "target.address = \"127.0.0.1:9\"\n",
  "[[candidates]]\n", "tag = \"a\"\n", "target.kind = \"tcp\"\n", "target.address = \"127.0.0.1:9\"\n"]

lemma exists_load_pair :
    ∃ file next, load file = .ok next ∧ next.candidates = [local9 "b", local9 "a"] := by
  -- The text is a variable here, so that only its lines are evaluated.
  have hparse : ∀ text : String, text.toList = pairLines.flatMap String.toList →
      (parse text).toOption.map candidates = some [local9 "b", local9 "a"] := by
    intro text htext
    unfold parse Toml.parse?
    rw [htext]
    decide +kernel
  obtain ⟨text, htext⟩ : ∃ text : String, text.toList = pairLines.flatMap String.toList := ⟨_, String.toList_ofList⟩
  obtain ⟨next, hnext, hcandidates⟩ := Option.map_eq_some_iff.mp (hparse text htext)
  refine ⟨.ofText text, next, ?_, hcandidates⟩
  rw [load_ofText]
  cases hparsed : parse text with
  | error reason => simp [hparsed, Except.toOption] at hnext
  | ok loaded => simpa [hparsed, Except.toOption] using hnext

end Config

/-- A candidate that is written into the file is added, and the one that stood there before is left as it is. -/
theorem hot_reload_adds_one :
    ∃ file next started records steps p, Config.load file = .ok next ∧
      next.candidates = [Config.local9 "b", Config.local9 "a"] ∧
      Observatory.start Config.single World.desert = .ok (started, records) ∧
      HotReload.Run ["a", "b"] (.create Config.single started) steps p ∧ savedFiles steps = [file] ∧
      (∃ c, p.observatory.registry.get? "b" = some c ∧ c.source = some (.tcp "127.0.0.1:9")) ∧
      ∃ c, started.registry.get? "a" = some c ∧ p.observatory.registry.get? "a" = some c := by
  obtain ⟨file, next, hload, hcandidates⟩ := Config.exists_load_pair
  have hvalid : Config.single.Valid := by
    rw [← Config.errors_eq_nil_iff]
    decide +kernel
  have hpermits : Config.single.probe.concurrency.toNat ≤ Observatory.maxPermits := by decide +kernel
  obtain ⟨started, records, hstart, hpopulated⟩ := Observatory.start_of_valid _ World.desert hvalid hpermits
  have hnamed : ∀ candidate ∈ Config.single.candidates, candidate.tag ∈ ["a", "b"] := by decide
  have hother : ¬SameCandidates next.candidates Config.single.candidates := by
    intro hsame
    have hb : Config.local9 "b" ∈ Config.single.candidates := (hsame _).mp (by simp [hcandidates])
    exact absurd hb (by decide)
  let middle : HotReload := ⟨⟨next⟩, [next.candidates], started⟩
  let last : HotReload := ⟨⟨next⟩, [], (started.reconcile next.candidates).after⟩
  have hsave : (HotReload.create Config.single started).perform? (.save file) = some middle := by
    obtain ⟨q, hq⟩ : ∃ q, (HotReload.create Config.single started).perform? (.save file) = some q := ⟨_, rfl⟩
    rcases HotReload.perform?_save hvalid.candidates hq with ⟨_, herror, -⟩ | ⟨loaded, hloaded, hcases⟩
    · cases hload.symm.trans herror
    · obtain rfl := Except.ok.inj (hload.symm.trans hloaded)
      rcases hcases with ⟨hsame, -⟩ | ⟨-, rfl⟩
      · exact absurd hsame hother
      · exact hq
  have hrespects : (HotReload.create Config.single started).Respects ["a", "b"] middle (.save file) := by
    intro loaded hloaded candidate hmem
    obtain rfl := Except.ok.inj (hload.symm.trans hloaded)
    rw [hcandidates] at hmem
    revert candidate
    decide
  let steps : List ReloadStep := [⟨.create Config.single started, .save file, middle⟩, ⟨middle, .reconcile, last⟩]
  have run : HotReload.Run ["a", "b"] (.create Config.single started) steps last :=
    .step (.step .refl hsave hrespects) rfl hpopulated.going
  have hfiles : savedFiles steps = [file] := rfl
  have hlast : lastAccepted Config.single [file] = next := by simp [lastAccepted, hload]
  obtain ⟨hconverged, -, -, hkept⟩ := hot_reload_converges hstart hnamed run
  rw [hfiles, hlast, hcandidates] at hconverged
  refine ⟨file, next, started, records, steps, last, hload, hcandidates, hstart, run, hfiles,
    (hconverged rfl).registered (Config.local9 "b") (by decide), ?_⟩
  obtain ⟨c, hc, hsame, -⟩ := hkept (Config.local9 "a") (by decide) (by
    intro saved hmem loaded hloaded
    rw [hfiles, List.mem_singleton] at hmem
    subst hmem
    obtain rfl := Except.ok.inj (hload.symm.trans hloaded)
    rw [hcandidates]
    decide)
  exact ⟨c, hc, hsame⟩

/-- What a call registers from an entry that no file names stays beside the candidates of the file. -/
theorem registered_beside_the_file :
    ∃ started records steps p c, Observatory.start Config.bare World.desert = .ok (started, records) ∧
      HotReload.Run [] (.create Config.bare started) steps p ∧ savedFiles steps = [.missing] ∧
      p.forwarded = [] ∧ (lastAccepted Config.bare (savedFiles steps)).candidates = [] ∧
      p.observatory.registry.get? "z" = some c ∧ c.source = some (.tcp "127.0.0.1:9") := by
  obtain ⟨records, hstart⟩ := start_bare
  let started := HotReload.create Config.bare (.create Config.bare World.desert)
  obtain ⟨p, hregistered⟩ : ∃ p, started.perform? (.other (.registerConfigured (Config.local9 "z"))) = some p :=
    ⟨_, rfl⟩
  have hmissing : p.perform? (.save .missing) = some p := by
    simp [HotReload.perform?, ReloadGate.reload, Config.load, StoredFile.read, Reload.forwarded]
  have run : HotReload.Run [] started _ p := .step (.step .refl hregistered (by simp [HotReload.Respects])) hmissing
    (by simp [HotReload.Respects, Config.load, StoredFile.read])
  have hsource : (p.observatory.registry.get? "z").map Candidate.source = some (some (.tcp "127.0.0.1:9")) := by
    cases hregistered
    decide +kernel
  obtain ⟨c, hc, hc'⟩ := Option.map_eq_some_iff.mp hsource
  refine ⟨_, records, _, p, c, hstart, run, rfl, ?_, rfl, hc, hc'⟩
  cases hregistered
  rfl

end OutboundWatch
