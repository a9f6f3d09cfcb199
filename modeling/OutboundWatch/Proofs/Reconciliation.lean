import OutboundWatch.Proofs.Connections
import OutboundWatch.Proofs.Order

/-!
# What a reconciliation does

Everything that belongs to one tag is gathered in a view of the observatory. A registration or an
unregistration changes the view of its own tag only, so that a reconciliation can be followed tag by tag:
some views stay as they are, some registrations end, some are renewed, and the missing ones are added.
-/

namespace OutboundWatch

/-- All that an observatory keeps for one tag. -/
structure TagView where
  candidate : Option Candidate
  /-- What the published ranking says. -/
  status : Option Status
  running : Option RunningCycle
  cycles : List Cycle
  isHeld : Bool
  connections : List Connection

/-- The registration has ended: nothing of the tag is left but its connections, which are retired. -/
structure TagView.Ended (before after : TagView) : Prop where
  candidate : after.candidate = none
  status : after.status = none
  running : after.running = none
  isHeld : after.isHeld = false
  connections : after.connections = before.connections.map (·.advance .retired)

/-- A registration with the given definition has just begun, under a generation that is not below `next`. -/
structure TagView.Begun (after : TagView) (candidate : CandidateConfig) (next : Nat) : Prop where
  registered : ∃ c, after.candidate = some c ∧ c.source = some candidate.target ∧ next ≤ c.generation ∧
    after.status = some (Status.untested candidate.tag c.generation) ∧
    ∃ id, after.running = some ⟨id, c.generation⟩ ∧
      Cycle.create id candidate.tag c.generation c.target ∈ after.cycles
  isHeld : after.isHeld = false

/-- A target that passes its check can be built. -/
lemma TargetConfig.build_of_check {target : TargetConfig} (hcheck : target.check = .ok ()) :
    ∃ built, target.build = .ok built := by
  cases target with
  | tcp address =>
    refine ⟨.tcp address, ?_⟩
    simp only [TargetConfig.check] at hcheck
    simp [TargetConfig.build, hcheck]
  | http url =>
    simp only [TargetConfig.check] at hcheck
    cases hpage : readUrl url pageSchemes with
    | error e => simp [hpage, bind, Except.bind] at hcheck
    | ok page => exact ⟨.http page none, by simp [TargetConfig.build, hpage]⟩
  | proxy endpoint url =>
    simp only [TargetConfig.check] at hcheck
    cases hpage : readUrl url pageSchemes with
    | error e => simp [hpage, bind, Except.bind] at hcheck
    | ok page =>
      cases hproxy : readUrl endpoint proxySchemes with
      | error e => simp [hpage, hproxy, bind, Except.bind] at hcheck
      | ok proxy =>
        refine ⟨.http page (some proxy), ?_⟩
        simp [TargetConfig.build, hpage, hproxy, bind, Except.bind, pure, Except.pure]

lemma Registry.contains_iff (r : Registry) (tag : String) :
    r.contains tag = true ↔ ∃ c, r.get? tag = some c := r.candidates.contains_iff tag

lemma Registry.mem_tags_iff (r : Registry) (tag : String) : tag ∈ r.tags ↔ ∃ c, r.get? tag = some c :=
  r.candidates.mem_sortedTags_iff tag

lemma Registry.nodup_tags (r : Registry) : r.tags.Nodup := by
  refine r.candidates.sortedTags_ascending.imp fun {a b} hless heq => ?_
  rw [heq] at hless
  exact String.lt_irrefl b hless

/-- A list of candidates with names of their own and targets that pass their checks. -/
structure WellFormed (desired : List CandidateConfig) : Prop where
  distinct : (desired.map CandidateConfig.tag).Nodup
  named : ∀ candidate ∈ desired, isBlankText candidate.tag = false
  checked : ∀ candidate ∈ desired, candidate.target.check = .ok ()

/-- A list of candidates with names and with targets that pass their checks. Names may be repeated. -/
structure Admissible (desired : List CandidateConfig) : Prop where
  named : ∀ candidate ∈ desired, isBlankText candidate.tag = false
  checked : ∀ candidate ∈ desired, candidate.target.check = .ok ()

lemma WellFormed.admissible {desired : List CandidateConfig} (h : WellFormed desired) : Admissible desired :=
  ⟨h.named, h.checked⟩

namespace Observatory

def view (o : Observatory) (tag : String) : TagView where
  candidate := o.registry.get? tag
  status := o.ranking.get? tag
  running := o.scheduler.running.get? tag
  cycles := o.scheduler.live.filter fun c => decide (c.tag = tag)
  isHeld := decide (o.heldBest = some tag)
  connections := o.routing.drains.opened.filter fun c => decide (c.tag = tag)

variable {o : Observatory} {tag key : String}

lemma contains_eq_of_view {p : Observatory} (h : p.view key = o.view key) :
    p.registry.contains key = o.registry.contains key := congrArg (fun view => view.candidate.isSome) h

lemma ranking_enroll (h : Ordered o) (tag : String) (target : ProbeTarget) (source : Option TargetConfig)
    (key : String) :
    (o.enroll tag target source).ranking.get? key =
      if key = tag then some (Status.untested tag o.registry.nextGeneration) else o.ranking.get? key := by
  have hafter := (h.agreement.enroll tag target source).faithful.get?_snapshot key
  have hbefore := h.agreement.faithful.get?_snapshot key
  refine hafter.trans ?_
  simp only [enroll, Routing.apply, RankingTable.members_apply, List.foldl_cons, List.foldl_nil,
    RankingTable.step_register, TagMap.get?_insert]
  rw [← hbefore]
  rfl

lemma ranking_dismiss (h : Ordered o) {c : Candidate} (hc : o.registry.get? tag = some c) (key : String) :
    (o.dismiss tag c.generation).ranking.get? key = if key = tag then none else o.ranking.get? key := by
  have hafter := (h.agreement.dismiss hc).faithful.get?_snapshot key
  have hbefore := h.agreement.faithful.get?_snapshot key
  refine hafter.trans ?_
  simp only [dismiss, RankingTable.members_apply, List.foldl_cons, List.foldl_nil,
    RankingTable.get?_step_remove]
  by_cases hkey : key = tag
  · subst hkey
    have hranked := h.agreement.ranked key
    rw [hc] at hranked
    obtain ⟨s, hs, hgeneration⟩ := Option.map_eq_some_iff.mp hranked
    simp [hs, hgeneration, Option.filter]
  · rw [if_neg hkey]
    refine Eq.trans ?_ hbefore.symm
    cases o.routing.table.members.get? key <;> simp [hkey, Option.filter]

lemma view_enroll_of_ne (h : Ordered o) (hgoing : o.isStopped = false) (hnone : o.registry.get? tag = none)
    (target : ProbeTarget) (source : Option TargetConfig) (hkey : key ≠ tag) :
    (o.enroll tag target source).view key = o.view key := by
  have hidle := h.not_running hgoing hnone
  have hranking := ranking_enroll h tag target source key
  rw [if_neg hkey] at hranking
  have hregistry : (o.enroll tag target source).registry.get? key = o.registry.get? key :=
    (get?_registry_enroll _ _ _ _ _).trans (if_neg hkey)
  have hrunning : (o.enroll tag target source).scheduler.running.get? key = o.scheduler.running.get? key :=
    (Scheduler.get?_running_spawn _ _ _ _ _).trans (if_neg hkey)
  have hcycles : (o.enroll tag target source).scheduler.live.filter (fun c => decide (c.tag = key)) =
      o.scheduler.live.filter fun c => decide (c.tag = key) := by
    have hother : ¬tag = key := fun heq => hkey heq.symm
    simp [enroll, Scheduler.spawn, hidle, Cycle.create, hother]
  have hheld : (o.enroll tag target source).heldBest = o.heldBest := rfl
  have hconnections : (o.enroll tag target source).routing.drains = o.routing.drains := rfl
  simp only [view, hranking, hregistry, hrunning, hcycles, hheld, hconnections]

lemma view_dismiss_of_ne (h : Ordered o) {c : Candidate} (hc : o.registry.get? tag = some c)
    (hkey : key ≠ tag) :
    (o.dismiss tag c.generation).view key = o.view key := by
  have hranking := ranking_dismiss h hc key
  rw [if_neg hkey] at hranking
  have hregistry : (o.dismiss tag c.generation).registry.get? key = o.registry.get? key :=
    (get?_registry_dismiss _ _ _ _).trans (if_neg hkey)
  have hrunning : (o.dismiss tag c.generation).scheduler.running.get? key = o.scheduler.running.get? key :=
    (Scheduler.get?_running_cancel _ _ _).trans (if_neg hkey)
  have hcycles : (o.dismiss tag c.generation).scheduler.live.filter (fun d => decide (d.tag = key)) =
      o.scheduler.live.filter fun d => decide (d.tag = key) := by
    change (o.scheduler.cancel tag).1.live.filter _ = _
    rcases o.scheduler.cancel_cases tag with ⟨-, hsame⟩ | ⟨current, hcurrent, hcancelled⟩
    · rw [hsame]
    · rw [hcancelled]
      simp only [Scheduler.requestStop, Scheduler.modify, List.filter_map]
      have hfilter : (fun d : Cycle => decide (d.tag = key)) ∘
          (fun d => if d.id = current.id then { d with stopping := true } else d) =
          fun d => decide (d.tag = key) := by
        funext d
        rw [Function.comp_apply]
        split <;> rfl
      rw [hfilter]
      refine (List.map_congr_left fun d hd => ?_).trans (List.map_id _)
      obtain ⟨hmem, htag⟩ := List.mem_filter.mp hd
      have hid : d.id ≠ current.id := fun heq => hkey <|
        (of_decide_eq_true htag).symm.trans
          ((h.running tag current hcurrent).2 d.face (Scheduler.face_mem hmem) heq)
      rw [if_neg hid]
      rfl
  have hheld : (o.dismiss tag c.generation).heldBest = some key ↔ o.heldBest = some key := by
    simp only [dismiss, heldBest, Routing.held, Selector.release]
    split
    · rename_i hsame
      simp [hsame, Ne.symm hkey]
    · rfl
  have hconnections :
      (o.dismiss tag c.generation).routing.drains.opened.filter (fun d => decide (d.tag = key)) =
      o.routing.drains.opened.filter fun d => decide (d.tag = key) := by
    refine (o.routing.drains.filter_advanceAll tag .retired key).trans ?_
    simp only [if_neg hkey, List.map_id']
  simp only [view, hranking, hregistry, hrunning, hcycles, hconnections, hheld]

lemma view_dismiss_self (h : Ordered o) {c : Candidate} (hc : o.registry.get? tag = some c) :
    (o.view tag).Ended ((o.dismiss tag c.generation).view tag) where
  candidate := (get?_registry_dismiss _ _ _ _).trans (if_pos rfl)
  status := (ranking_dismiss h hc tag).trans (if_pos rfl)
  running := (Scheduler.get?_running_cancel _ _ _).trans (if_pos rfl)
  isHeld := by
    refine decide_eq_false ?_
    simp only [dismiss, heldBest, Routing.held, Selector.release]
    split
    · simp
    · assumption
  connections := by
    refine (o.routing.drains.filter_advanceAll tag .retired tag).trans ?_
    simp only [if_true]
    rfl

lemma view_enroll_self (h : Ordered o) (hgoing : o.isStopped = false) {candidate : CandidateConfig}
    (hnone : o.registry.get? candidate.tag = none) (target : ProbeTarget) :
    let after := (o.enroll candidate.tag target (some candidate.target)).view candidate.tag
    after.Begun candidate o.registry.nextGeneration ∧
      after.connections = (o.view candidate.tag).connections := by
  have hidle := h.not_running hgoing hnone
  have hfree : o.heldBest ≠ some candidate.tag := by
    intro hheld
    have hregistered := h.agreement.held _ hheld
    obtain ⟨c, hc⟩ := (TagMap.contains_iff _ _).mp hregistered
    rw [Registry.get?, hc] at hnone
    cases hnone
  refine ⟨⟨⟨⟨candidate.tag, o.registry.nextGeneration, target, some candidate.target⟩, ?_, rfl,
    Nat.le_refl _, ?_, o.scheduler.nextId, ?_, ?_⟩, ?_⟩, rfl⟩
  · exact (get?_registry_enroll _ _ _ _ _).trans (if_pos rfl)
  · exact (ranking_enroll h _ _ _ _).trans (if_pos rfl)
  · exact (Scheduler.get?_running_spawn _ _ _ _ _).trans (if_pos rfl)
  · simp [view, enroll, Scheduler.spawn, hidle, Cycle.create]
  · exact decide_eq_false hfree

/-- A definition that can be built is registered if its tag is free. -/
lemma registerConfigured_of_build (hgoing : o.isStopped = false) {candidate : CandidateConfig}
    (hnamed : isBlankText candidate.tag = false) {built : BuiltTarget} (hbuilt : candidate.target.build = .ok built)
    (hnone : o.registry.get? candidate.tag = none) :
    (o.registerConfigured candidate).after = o.enroll candidate.tag
        (o.network.probeTarget built o.registry.nextGeneration) (some candidate.target) ∧
      (o.registerConfigured candidate).result = .ok o.registry.nextGeneration := by
  have habsent : o.registry.contains candidate.tag = false := by
    simpa [Registry.contains, TagMap.contains, Registry.get?] using hnone
  simp [registerConfigured, hbuilt, register, hgoing, Registry.insertWith, hnamed, habsent, enroll, Followers.enter]

lemma registerConfigured_eq (hgoing : o.isStopped = false) {candidate : CandidateConfig}
    (hnamed : isBlankText candidate.tag = false) (hchecked : candidate.target.check = .ok ())
    (hnone : o.registry.get? candidate.tag = none) :
    ∃ target, (o.registerConfigured candidate).after = o.enroll candidate.tag target (some candidate.target) ∧
      (o.registerConfigured candidate).result = .ok o.registry.nextGeneration := by
  obtain ⟨built, hbuilt⟩ := TargetConfig.build_of_check hchecked
  exact ⟨_, registerConfigured_of_build hgoing hnamed hbuilt hnone⟩

lemma unregister_eq {c : Candidate} (hc : o.registry.get? tag = some c) :
    (o.unregister tag).after = o.dismiss tag c.generation := by
  rcases o.unregister_cases tag with ⟨hnone, -⟩ | ⟨d, hd, hdismissed, -⟩
  · rw [hc] at hnone
    cases hnone
  · rw [hc] at hd
    cases hd
    exact hdismissed

lemma wantedFor_eq_none_iff (desired : List CandidateConfig) (tag : String) :
    wantedFor desired tag = none ↔ tag ∉ desired.map CandidateConfig.tag := by
  simp [wantedFor, List.find?_eq_none]

lemma mem_of_wantedFor {desired : List CandidateConfig} {tag : String} {candidate : CandidateConfig}
    (h : wantedFor desired tag = some candidate) : candidate ∈ desired ∧ candidate.tag = tag :=
  ⟨List.mem_reverse.mp (List.mem_of_find?_eq_some h), by simpa using List.find?_some h⟩

lemma wantedFor_eq_some_iff {desired : List CandidateConfig}
    (hdistinct : (desired.map CandidateConfig.tag).Nodup) (tag : String) (candidate : CandidateConfig) :
    wantedFor desired tag = some candidate ↔ candidate ∈ desired ∧ candidate.tag = tag := by
  constructor
  · exact mem_of_wantedFor
  · rintro ⟨hmem, rfl⟩
    cases hfound : wantedFor desired candidate.tag with
    | none => exact absurd (List.mem_map_of_mem hmem) ((wantedFor_eq_none_iff _ _).mp hfound)
    | some other =>
      obtain ⟨hother, htag⟩ := mem_of_wantedFor hfound
      rw [List.inj_on_of_nodup_map hdistinct hother hmem htag]

lemma firstInvalid?_eq_none {desired : List CandidateConfig}
    (hchecked : ∀ candidate ∈ desired, candidate.target.check = .ok ()) : firstInvalid? desired = none := by
  induction desired with
  | nil => rfl
  | cons candidate rest ih =>
    have hfirst := hchecked candidate List.mem_cons_self
    have hrest := ih fun other hother => hchecked other (List.mem_cons_of_mem _ hother)
    simp [firstInvalid?, hfirst, hrest]

/-- Whether a tag is configured and no longer wanted. -/
def isDropped (o : Observatory) (desired : List CandidateConfig) (tag : String) : Bool :=
  match o.registry.get? tag, wantedFor desired tag with
  | some c, none => c.source.isSome
  | _, _ => false

/-- Whether a registered tag is wanted with another definition. -/
def isReplaced (o : Observatory) (desired : List CandidateConfig) (tag : String) : Bool :=
  match o.registry.get? tag, wantedFor desired tag with
  | some c, some candidate => decide (c.source ≠ some candidate.target)
  | _, _ => false

end Observatory

/-- What becomes of a tag when the candidates are brought in line with `desired`. -/
def TagView.Reconciled (desired : List CandidateConfig) (tag : String) (next : Nat)
    (before after : TagView) : Prop :=
  match before.candidate, Observatory.wantedFor desired tag with
  | some c, none => if c.source.isSome then before.Ended after else after = before
  | some c, some candidate =>
    if c.source = some candidate.target then after = before
    else after.Begun candidate next ∧ after.connections = before.connections.map (·.advance .retired)
  | none, some candidate => after.Begun candidate next ∧ after.connections = before.connections
  | none, none => after = before

lemma TagView.Begun.mono {after : TagView} {candidate : CandidateConfig} {first next : Nat}
    (h : after.Begun candidate next) (hle : first ≤ next) : after.Begun candidate first := by
  obtain ⟨⟨c, hc, hsource, hnext, hrest⟩, hfree⟩ := h
  exact ⟨⟨c, hc, hsource, Nat.le_trans hle hnext, hrest⟩, hfree⟩

namespace TagView.Reconciled

variable {desired : List CandidateConfig} {tag : String} {first next : Nat} {before after : TagView}
  {c : Candidate} {candidate : CandidateConfig}

lemma mono (h : before.Reconciled desired tag next after) (hle : first ≤ next) :
    before.Reconciled desired tag first after := by
  unfold Reconciled at h ⊢
  split at h
  · exact h
  · split at h
    · rename_i hsame
      rw [if_pos hsame]
      exact h
    · rename_i hdiffers
      rw [if_neg hdiffers]
      exact ⟨h.1.mono hle, h.2⟩
  · exact ⟨h.1.mono hle, h.2⟩
  · exact h

lemma kept (h : before.Reconciled desired tag next after) (hc : before.candidate = some c)
    (hwanted : Observatory.wantedFor desired tag = some candidate)
    (hsource : c.source = some candidate.target) :
    after = before := by
  simpa only [Reconciled, hc, hwanted, hsource, if_true] using h

lemma renewed (h : before.Reconciled desired tag next after) (hc : before.candidate = some c)
    (hwanted : Observatory.wantedFor desired tag = some candidate)
    (hsource : c.source ≠ some candidate.target) :
    after.Begun candidate next ∧ after.connections = before.connections.map (·.advance .retired) := by
  simpa only [Reconciled, hc, hwanted, hsource, if_false] using h

lemma untouched (h : before.Reconciled desired tag next after) (hc : before.candidate = some c)
    (hwanted : Observatory.wantedFor desired tag = none) (hsource : c.source = none) : after = before := by
  simpa [Reconciled, hc, hwanted, hsource] using h

lemma ended (h : before.Reconciled desired tag next after) (hc : before.candidate = some c)
    (hwanted : Observatory.wantedFor desired tag = none) (hsource : c.source ≠ none) :
    before.Ended after := by
  simpa only [Reconciled, hc, hwanted, Option.isSome_iff_ne_none.mpr hsource, if_true] using h

lemma begun (h : before.Reconciled desired tag next after) (hc : before.candidate = none)
    (hwanted : Observatory.wantedFor desired tag = some candidate) :
    after.Begun candidate next ∧ after.connections = before.connections := by
  simpa only [Reconciled, hc, hwanted] using h

lemma absent (h : before.Reconciled desired tag next after) (hc : before.candidate = none)
    (hwanted : Observatory.wantedFor desired tag = none) : after = before := by
  simpa only [Reconciled, hc, hwanted] using h

lemma registered (h : before.Reconciled desired tag next after)
    (hwanted : Observatory.wantedFor desired tag = some candidate) :
    ∃ c, after.candidate = some c ∧ c.source = some candidate.target := by
  cases hc : before.candidate with
  | none =>
    obtain ⟨d, hd, hsource, -⟩ := (h.begun hc hwanted).1.registered
    exact ⟨d, hd, hsource⟩
  | some c =>
    by_cases hsource : c.source = some candidate.target
    · rw [h.kept hc hwanted hsource]
      exact ⟨c, hc, hsource⟩
    · obtain ⟨d, hd, hsource, -⟩ := (h.renewed hc hwanted hsource).1.registered
      exact ⟨d, hd, hsource⟩

end TagView.Reconciled

namespace Observatory

/-- A state that a reconciliation can pass through: in order, running, and with no generation taken back. -/
structure Follows (o p : Observatory) : Prop where
  ordered : Ordered p
  going : p.isStopped = false
  later : o.registry.nextGeneration ≤ p.registry.nextGeneration

variable {o : Observatory} {desired : List CandidateConfig}

/-- The turn of one tag: it is brought in line, the views of all other tags stay, and the report names it if
it was removed or replaced. -/
lemma reconcileTags_cons (h : Ordered o) (hgoing : o.isStopped = false) (hdesired : Admissible desired)
    {tag : String} {c : Candidate} (hc : o.registry.get? tag = some c) (report : ReconcileReport)
    (rest : List String) :
    ∃ p, o.Follows p ∧ (∀ key, key ≠ tag → p.view key = o.view key) ∧
      (o.view tag).Reconciled desired tag o.registry.nextGeneration (p.view tag) ∧
      let others := p.reconcileTags desired { report with
        removed := report.removed ++ [tag].filter (o.isDropped desired)
        replaced := report.replaced ++ [tag].filter (o.isReplaced desired) } rest
      (o.reconcileTags desired report (tag :: rest)).after = others.after ∧
        (o.reconcileTags desired report (tag :: rest)).result = others.result := by
  have hstay : o.Follows o := ⟨h, hgoing, Nat.le_refl _⟩
  have hview : (o.view tag).candidate = some c := hc
  cases hwanted : wantedFor desired tag with
  | none =>
    by_cases hsource : c.source.isSome = true
    · have hdismissed := unregister_eq hc
      refine ⟨o.dismiss tag c.generation, ⟨h.dismiss hc, hgoing, Nat.le_refl _⟩,
        fun key hkey => view_dismiss_of_ne h hc hkey, ?_, ?_⟩
      · simp only [TagView.Reconciled, hview, hwanted, hsource, if_true]
        exact view_dismiss_self h hc
      · simp [reconcileTags, hc, hwanted, hsource, hdismissed, isDropped, isReplaced]
    · refine ⟨o, hstay, fun _ _ => rfl, ?_, ?_⟩
      · simp [TagView.Reconciled, hview, hwanted, hsource]
      · simp [reconcileTags, hc, hwanted, hsource, isDropped, isReplaced]
  | some candidate =>
    by_cases hsource : c.source = some candidate.target
    · refine ⟨o, hstay, fun _ _ => rfl, ?_, ?_⟩
      · simp [TagView.Reconciled, hview, hwanted, hsource]
      · simp [reconcileTags, hc, hwanted, hsource, isDropped, isReplaced]
    · -- The old registration ends, and a new one begins in the state without it.
      obtain ⟨hmem, rfl⟩ := mem_of_wantedFor hwanted
      have hdismissed := unregister_eq hc
      have hordered := h.dismiss hc
      have hnone : (o.dismiss candidate.tag c.generation).registry.get? candidate.tag = none :=
        (get?_registry_dismiss _ _ _ _).trans (if_pos rfl)
      obtain ⟨target, henrolled, hresult⟩ := registerConfigured_eq (o := o.dismiss candidate.tag c.generation)
        hgoing (hdesired.named candidate hmem) (hdesired.checked candidate hmem) hnone
      obtain ⟨hbegun, hconnections⟩ := view_enroll_self hordered hgoing hnone target
      refine ⟨_, ⟨hordered.enroll hgoing hnone target (some candidate.target), hgoing, Nat.le_succ _⟩, ?_,
        ?_, ?_⟩
      · intro key hkey
        rw [view_enroll_of_ne hordered hgoing hnone target _ hkey, view_dismiss_of_ne h hc hkey]
      · simp only [TagView.Reconciled, hview, hwanted, hsource, if_false]
        exact ⟨hbegun, hconnections.trans (view_dismiss_self h hc).connections⟩
      · simp [reconcileTags, hc, hwanted, hsource, hdismissed, henrolled, hresult, isDropped, isReplaced]

lemma reconcileTags_eq (hdesired : Admissible desired) {tags : List String} (hdistinct : tags.Nodup)
    (hregistered : ∀ tag ∈ tags, ∃ c, o.registry.get? tag = some c) (h : Ordered o)
    (hgoing : o.isStopped = false) (report : ReconcileReport) :
    let after := (o.reconcileTags desired report tags).after
    o.Follows after ∧ (∀ key, key ∉ tags → after.view key = o.view key) ∧
      (∀ tag ∈ tags, (o.view tag).Reconciled desired tag o.registry.nextGeneration (after.view tag)) ∧
      (o.reconcileTags desired report tags).result = .ok { report with
        removed := report.removed ++ tags.filter (o.isDropped desired)
        replaced := report.replaced ++ tags.filter (o.isReplaced desired) } := by
  -- Over the tags that the loop still has to visit: their views are as at the start until their turn.
  induction tags generalizing o report with
  | nil =>
    refine ⟨⟨h, hgoing, Nat.le_refl _⟩, fun _ _ => rfl, ?_, ?_⟩
    · intro tag htag
      cases htag
    · simp [reconcileTags]
  | cons tag rest ih =>
    obtain ⟨hnew, hdistinct⟩ := List.nodup_cons.mp hdistinct
    obtain ⟨c, hc⟩ := hregistered tag List.mem_cons_self
    obtain ⟨p, hp, hothers, hself, hafter, hresult⟩ := reconcileTags_cons h hgoing hdesired hc report rest
    have hlater : ∀ key ∈ rest, p.view key = o.view key := fun key hkey =>
      hothers key fun heq => hnew (heq ▸ hkey)
    have hcandidate : ∀ key ∈ rest, p.registry.get? key = o.registry.get? key := fun key hkey =>
      congrArg TagView.candidate (hlater key hkey)
    have hleft : ∀ key ∈ rest, ∃ c, p.registry.get? key = some c := fun key hkey => by
      rw [hcandidate key hkey]
      exact hregistered key (List.mem_cons_of_mem _ hkey)
    obtain ⟨hq, houtside, hinside, hreport⟩ := ih hdistinct hleft hp.ordered hp.going { report with
      removed := report.removed ++ [tag].filter (o.isDropped desired)
      replaced := report.replaced ++ [tag].filter (o.isReplaced desired) }
    dsimp only
    rw [hafter, hresult, hreport]
    refine ⟨⟨hq.ordered, hq.going, Nat.le_trans hp.later hq.later⟩, ?_, ?_, ?_⟩
    · intro key hkey
      have hne : key ≠ tag := fun heq => hkey (heq ▸ List.mem_cons_self)
      rw [houtside key fun hin => hkey (List.mem_cons_of_mem _ hin), hothers key hne]
    · intro key hkey
      rcases List.mem_cons.mp hkey with rfl | hrest
      · rw [houtside key hnew]
        exact hself
      · rw [← hlater key hrest]
        exact (hinside key hrest).mono hp.later
    · have hdropped : rest.filter (p.isDropped desired) = rest.filter (o.isDropped desired) :=
        List.filter_congr fun key hkey => by rw [isDropped, isDropped, hcandidate key hkey]
      have hreplaced : rest.filter (p.isReplaced desired) = rest.filter (o.isReplaced desired) :=
        List.filter_congr fun key hkey => by rw [isReplaced, isReplaced, hcandidate key hkey]
      rw [hdropped, hreplaced, List.append_assoc, List.append_assoc, ← List.filter_append,
        ← List.filter_append]
      rfl

/-- The turn of one candidate that is to be there: it is registered if its tag is free, the views of all other
tags stay, and the report names it if it was added. -/
lemma addMissing_cons (h : Ordered o) (hgoing : o.isStopped = false) {candidate : CandidateConfig}
    (hnamed : isBlankText candidate.tag = false) (hchecked : candidate.target.check = .ok ())
    (report : ReconcileReport) (rest : List CandidateConfig) :
    ∃ p, o.Follows p ∧
      (∀ key, key ≠ candidate.tag ∨ o.registry.contains key = true → p.view key = o.view key) ∧
      (o.registry.contains candidate.tag = false →
        (p.view candidate.tag).Begun candidate o.registry.nextGeneration ∧
          (p.view candidate.tag).connections = (o.view candidate.tag).connections) ∧
      let others := p.addMissing { report with
        added := report.added ++ [candidate.tag].filter fun tag => !o.registry.contains tag } rest
      (o.addMissing report (candidate :: rest)).after = others.after ∧
        (o.addMissing report (candidate :: rest)).result = others.result := by
  cases hpresent : o.registry.contains candidate.tag with
  | true =>
    refine ⟨o, ⟨h, hgoing, Nat.le_refl _⟩, fun _ _ => rfl, ?_, ?_⟩
    · intro hmissing
      cases hmissing
    · simp [addMissing, hpresent]
  | false =>
    have hnone : o.registry.get? candidate.tag = none :=
      TagMap.get?_eq_none_of_not_contains (Bool.eq_false_iff.mp hpresent)
    obtain ⟨target, henrolled, hresult⟩ := registerConfigured_eq hgoing hnamed hchecked hnone
    refine ⟨_, ⟨h.enroll hgoing hnone target (some candidate.target), hgoing, Nat.le_succ _⟩, ?_,
      fun _ => view_enroll_self h hgoing hnone target, ?_⟩
    · intro key hkey
      refine view_enroll_of_ne h hgoing hnone target _ ?_
      rintro rfl
      exact hkey.elim (fun hne => hne rfl) fun hin => Bool.false_ne_true (hpresent.symm.trans hin)
    · simp [addMissing, hpresent, henrolled, hresult]

/-- What becomes of a wanted tag when the missing ones are added. -/
lemma addMissing_eq (hdesired : WellFormed desired) (h : Ordered o) (hgoing : o.isStopped = false)
    (report : ReconcileReport) :
    let after := (o.addMissing report desired).after
    (∀ key, key ∉ desired.map CandidateConfig.tag ∨ o.registry.contains key = true →
      after.view key = o.view key) ∧
      (∀ candidate ∈ desired, o.registry.contains candidate.tag = false →
        (after.view candidate.tag).Begun candidate o.registry.nextGeneration ∧
          (after.view candidate.tag).connections = (o.view candidate.tag).connections) ∧
      (o.addMissing report desired).result = .ok { report with
        added := report.added ++ (desired.map CandidateConfig.tag).filter fun tag =>
          !o.registry.contains tag } := by
  induction desired generalizing o report with
  | nil =>
    refine ⟨fun _ _ => rfl, ?_, ?_⟩
    · intro candidate hcandidate
      cases hcandidate
    · simp [addMissing]
  | cons candidate rest ih =>
    obtain ⟨hnew, hdistinct⟩ := List.nodup_cons.mp hdesired.distinct
    obtain ⟨hnamed, hnamed'⟩ := List.forall_mem_cons.mp hdesired.named
    obtain ⟨hchecked, hchecked'⟩ := List.forall_mem_cons.mp hdesired.checked
    obtain ⟨p, hp, hothers, hself, hafter, hresult⟩ := addMissing_cons h hgoing hnamed hchecked report rest
    have hcontains : ∀ tag ∈ rest.map CandidateConfig.tag,
        p.registry.contains tag = o.registry.contains tag := fun tag htag =>
      contains_eq_of_view (hothers tag (.inl fun heq => hnew (heq ▸ htag)))
    obtain ⟨hstays, hadded, hreport⟩ := ih ⟨hdistinct, hnamed', hchecked'⟩ hp.ordered hp.going { report with
      added := report.added ++ [candidate.tag].filter fun tag => !o.registry.contains tag }
    dsimp only
    rw [hafter, hresult, hreport]
    refine ⟨?_, ?_, ?_⟩
    · intro key hkey
      have hsame := hothers key (hkey.imp_left List.ne_of_not_mem_cons)
      rw [hstays key ?_, hsame]
      exact hkey.imp List.not_mem_of_not_mem_cons fun hin => (contains_eq_of_view hsame).trans hin
    · intro other hother hmissing
      rcases List.mem_cons.mp hother with rfl | hother
      · rw [hstays other.tag (.inl hnew)]
        exact hself hmissing
      · have htag : other.tag ∈ rest.map CandidateConfig.tag := List.mem_map_of_mem hother
        obtain ⟨hbegun, hconnections⟩ := hadded other hother ((hcontains _ htag).trans hmissing)
        rw [hothers other.tag (.inl fun heq => hnew (heq ▸ htag))] at hconnections
        exact ⟨hbegun.mono hp.later, hconnections⟩
    · have hfilter : (rest.map CandidateConfig.tag).filter (fun tag => !p.registry.contains tag) =
          (rest.map CandidateConfig.tag).filter fun tag => !o.registry.contains tag :=
        List.filter_congr fun tag htag => by rw [hcontains tag htag]
      rw [hfilter, List.append_assoc, ← List.filter_append]
      rfl

lemma isDropped_iff (o : Observatory) (desired : List CandidateConfig) (tag : String) :
    o.isDropped desired tag = true ↔ tag ∉ desired.map CandidateConfig.tag ∧
      ∃ c, o.registry.get? tag = some c ∧ c.source ≠ none := by
  rw [← wantedFor_eq_none_iff]
  unfold isDropped
  cases o.registry.get? tag <;> cases wantedFor desired tag <;> simp [Option.isSome_iff_ne_none]

lemma isReplaced_iff (o : Observatory) (hdesired : WellFormed desired) (tag : String) :
    o.isReplaced desired tag = true ↔ ∃ candidate ∈ desired, candidate.tag = tag ∧
      ∃ c, o.registry.get? tag = some c ∧ c.source ≠ some candidate.target := by
  have hiff : o.isReplaced desired tag = true ↔ ∃ candidate, wantedFor desired tag = some candidate ∧
      ∃ c, o.registry.get? tag = some c ∧ c.source ≠ some candidate.target := by
    unfold isReplaced
    cases o.registry.get? tag <;> cases wantedFor desired tag <;> simp
  rw [hiff]
  simp only [wantedFor_eq_some_iff hdesired.distinct, and_assoc]

end Observatory

/-- The candidates of an observatory `o` were brought in line with `desired`, which has led to `after`. -/
structure InLine (o : Observatory) (desired : List CandidateConfig) (after : Observatory)
    (report : ReconcileReport) : Prop where
  /-- Whoever is wanted is registered with the wanted definition. -/
  wanted : ∀ candidate ∈ desired, ∃ c, after.registry.get? candidate.tag = some c ∧
    c.source = some candidate.target
  /-- Whoever else is registered was so before, and not by a configuration. -/
  others : ∀ tag c, after.registry.get? tag = some c → tag ∉ desired.map CandidateConfig.tag →
    o.registry.get? tag = some c ∧ c.source = none
  /-- What was not configured and is not named, or has its wanted definition already, is not touched. -/
  kept : ∀ tag c, o.registry.get? tag = some c →
    (tag ∉ desired.map CandidateConfig.tag ∧ c.source = none ∨
      ∃ candidate ∈ desired, candidate.tag = tag ∧ c.source = some candidate.target) →
    after.view tag = o.view tag
  removed_ascending : report.removed.Pairwise (· < ·)
  mem_removed_iff : ∀ tag, tag ∈ report.removed ↔ tag ∉ desired.map CandidateConfig.tag ∧
    ∃ c, o.registry.get? tag = some c ∧ c.source ≠ none
  replaced_ascending : report.replaced.Pairwise (· < ·)
  mem_replaced_iff : ∀ tag, tag ∈ report.replaced ↔ ∃ candidate ∈ desired, candidate.tag = tag ∧
    ∃ c, o.registry.get? tag = some c ∧ c.source ≠ some candidate.target
  added_eq : report.added =
    (desired.map CandidateConfig.tag).filter fun tag => !o.registry.contains tag
  ended : ∀ tag ∈ report.removed, (o.view tag).Ended (after.view tag)
  renewed : ∀ candidate ∈ desired, candidate.tag ∈ report.replaced →
    (after.view candidate.tag).Begun candidate o.registry.nextGeneration ∧
      (after.view candidate.tag).connections = (o.view candidate.tag).connections.map (·.advance .retired)
  begun : ∀ candidate ∈ desired, candidate.tag ∈ report.added →
    (after.view candidate.tag).Begun candidate o.registry.nextGeneration ∧
      (after.view candidate.tag).connections = (o.view candidate.tag).connections

lemma Observatory.reconcile_of_ok {o p : Observatory} (hgoing : o.isStopped = false)
    {desired : List CandidateConfig} (hchecked : firstInvalid? desired = none)
    {middle report : ReconcileReport}
    (hp : (o.reconcileTags desired ReconcileReport.empty o.registry.tags).after = p)
    (hkept : (o.reconcileTags desired ReconcileReport.empty o.registry.tags).result = .ok middle)
    (hfilled : (p.addMissing middle desired).result = .ok report) :
    (o.reconcile desired).after = (p.addMissing middle desired).after ∧
      (o.reconcile desired).result = .ok report := by
  simp [reconcile, hgoing, hchecked, hkept, hp, hfilled]

/-- A reconciliation with a well-formed list succeeds, and every tag becomes what it should. -/
lemma Observatory.reconcile_eq {o : Observatory} (h : Ordered o) (hgoing : o.isStopped = false)
    {desired : List CandidateConfig} (hdesired : WellFormed desired) :
    (∀ tag, (o.view tag).Reconciled desired tag o.registry.nextGeneration
        ((o.reconcile desired).after.view tag)) ∧
      (o.reconcile desired).result = .ok
        { added := (desired.map CandidateConfig.tag).filter fun tag => !o.registry.contains tag
          removed := o.registry.tags.filter (o.isDropped desired)
          replaced := o.registry.tags.filter (o.isReplaced desired) } := by
  have hregistered := o.registry.mem_tags_iff
  have hdistinct := o.registry.nodup_tags
  obtain ⟨hp, houtside, hinside, hkept⟩ := reconcileTags_eq hdesired.admissible hdistinct
    (fun tag htag => (hregistered tag).mp htag) h hgoing ReconcileReport.empty
  generalize hpdef : (o.reconcileTags desired ReconcileReport.empty o.registry.tags).after = p
    at hp houtside hinside
  have hpresent :
      ∀ candidate ∈ desired, p.registry.contains candidate.tag = o.registry.contains candidate.tag := by
    intro candidate hmem
    have hwanted := (wantedFor_eq_some_iff hdesired.distinct _ candidate).mpr ⟨hmem, rfl⟩
    by_cases htag : candidate.tag ∈ o.registry.tags
    · obtain ⟨c, hc, -⟩ := (hinside _ htag).registered hwanted
      rw [(Registry.contains_iff _ _).mpr ⟨c, hc⟩, (Registry.contains_iff _ _).mpr ((hregistered _).mp htag)]
    · exact contains_eq_of_view (houtside _ htag)
  obtain ⟨hstays, hadded, hfilled⟩ := addMissing_eq hdesired hp.ordered hp.going
    { ReconcileReport.empty with
      removed := ReconcileReport.empty.removed ++ o.registry.tags.filter (o.isDropped desired)
      replaced := ReconcileReport.empty.replaced ++ o.registry.tags.filter (o.isReplaced desired) }
  obtain ⟨hafter, hresult⟩ :=
    reconcile_of_ok hgoing (firstInvalid?_eq_none hdesired.checked) hpdef hkept hfilled
  rw [hafter, hresult]
  refine ⟨fun tag => ?_, ?_⟩
  · by_cases htag : tag ∈ o.registry.tags
    · -- What is registered has become what it should before the missing ones are added.
      rw [hstays tag]
      · exact hinside tag htag
      · by_cases hnamed : tag ∈ desired.map CandidateConfig.tag
        · obtain ⟨candidate, hmem, rfl⟩ := List.mem_map.mp hnamed
          exact .inr
            ((hpresent candidate hmem).trans ((Registry.contains_iff _ _).mpr ((hregistered _).mp htag)))
        · exact .inl hnamed
    · have hnone : (o.view tag).candidate = none := by
        cases hc : o.registry.get? tag with
        | none => exact hc
        | some c => exact absurd ((hregistered tag).mpr ⟨c, hc⟩) htag
      simp only [TagView.Reconciled, hnone]
      cases hwanted : wantedFor desired tag with
      | none => rw [hstays tag (.inl ((wantedFor_eq_none_iff _ _).mp hwanted)), houtside tag htag]
      | some candidate =>
        obtain ⟨hmem, rfl⟩ := (wantedFor_eq_some_iff hdesired.distinct _ _).mp hwanted
        have hmissing : o.registry.contains candidate.tag = false := congrArg Option.isSome hnone
        obtain ⟨hbegun, hconnections⟩ := hadded candidate hmem ((hpresent candidate hmem).trans hmissing)
        rw [houtside _ htag] at hconnections
        exact ⟨hbegun.mono hp.later, hconnections⟩
  · have hfilter : (desired.map CandidateConfig.tag).filter (fun tag => !p.registry.contains tag) =
        (desired.map CandidateConfig.tag).filter fun tag => !o.registry.contains tag := by
      refine List.filter_congr fun tag htag => ?_
      obtain ⟨candidate, hmem, rfl⟩ := List.mem_map.mp htag
      rw [hpresent candidate hmem]
    rw [hfilter]
    rfl

/-- A reconciliation of a running observatory with a well-formed list succeeds and brings the candidates in
line with the list. -/
theorem reconcile_brings_in_line {o : Observatory} (ho : Reachable o) (hgoing : o.isStopped = false)
    {desired : List CandidateConfig} (hdesired : WellFormed desired) :
    ∃ report, (o.reconcile desired).result = .ok report ∧
      InLine o desired (o.reconcile desired).after report := by
  obtain ⟨hviews, hresult⟩ := Observatory.reconcile_eq ho.ordered hgoing hdesired
  have hascending : o.registry.tags.Pairwise (· < ·) := o.registry.candidates.sortedTags_ascending
  have hregistered := o.registry.mem_tags_iff
  have hwanted : ∀ candidate ∈ desired, Observatory.wantedFor desired candidate.tag = some candidate :=
    fun candidate hmem => (Observatory.wantedFor_eq_some_iff hdesired.distinct _ _).mpr ⟨hmem, rfl⟩
  have hunwanted : ∀ tag, tag ∉ desired.map CandidateConfig.tag → Observatory.wantedFor desired tag = none :=
    fun tag => (Observatory.wantedFor_eq_none_iff _ _).mpr
  have hremoved : ∀ tag, tag ∈ o.registry.tags.filter (o.isDropped desired) ↔
      tag ∉ desired.map CandidateConfig.tag ∧ ∃ c, o.registry.get? tag = some c ∧ c.source ≠ none := by
    intro tag
    rw [List.mem_filter, hregistered, Observatory.isDropped_iff]
    exact ⟨fun h => h.2, fun h => ⟨h.2.imp fun _ hc => hc.1, h⟩⟩
  have hreplaced : ∀ tag, tag ∈ o.registry.tags.filter (o.isReplaced desired) ↔
      ∃ candidate ∈ desired, candidate.tag = tag ∧
        ∃ c, o.registry.get? tag = some c ∧ c.source ≠ some candidate.target := by
    intro tag
    rw [List.mem_filter, hregistered, Observatory.isReplaced_iff o hdesired]
    exact ⟨fun h => h.2, fun h => ⟨h.elim fun _ hc => hc.2.2.imp fun _ hd => hd.1, h⟩⟩
  refine ⟨_, hresult,
    ⟨?_, ?_, ?_, hascending.filter _, hremoved, hascending.filter _, hreplaced, rfl, ?_, ?_, ?_⟩⟩
  · exact fun candidate hmem => (hviews candidate.tag).registered (hwanted candidate hmem)
  · intro tag d hd htag
    have hafter : ((o.reconcile desired).after.view tag).candidate = some d := hd
    cases hc : o.registry.get? tag with
    | none =>
      rw [(hviews tag).absent hc (hunwanted tag htag)] at hafter
      cases hc.symm.trans hafter
    | some c =>
      by_cases hsource : c.source = none
      · rw [(hviews tag).untouched hc (hunwanted tag htag) hsource] at hafter
        cases hc.symm.trans hafter
        exact ⟨rfl, hsource⟩
      · rw [((hviews tag).ended hc (hunwanted tag htag) hsource).candidate] at hafter
        cases hafter
  · rintro tag c hc (⟨htag, hsource⟩ | ⟨candidate, hmem, rfl, hsource⟩)
    · exact (hviews tag).untouched hc (hunwanted tag htag) hsource
    · exact (hviews _).kept hc (hwanted candidate hmem) hsource
  · intro tag htag
    obtain ⟨hunnamed, c, hc, hsource⟩ := (hremoved tag).mp htag
    exact (hviews tag).ended hc (hunwanted tag hunnamed) hsource
  · intro candidate hmem htag
    obtain ⟨other, hother, heq, c, hc, hsource⟩ := (hreplaced _).mp htag
    have hsame : other = candidate := List.inj_on_of_nodup_map hdesired.distinct hother hmem heq
    rw [hsame] at hsource
    exact (hviews _).renewed hc (hwanted candidate hmem) hsource
  · intro candidate hmem htag
    have hmissing : o.registry.contains candidate.tag = false := by simpa using (List.mem_filter.mp htag).2
    have hnone : (o.view candidate.tag).candidate = none := by
      simpa [Registry.contains, TagMap.contains, Observatory.view, Registry.get?] using hmissing
    exact (hviews _).begun hnone (hwanted candidate hmem)

/-- Beside a candidate that was not configured, a missing one is added, and the other one is not touched. -/
theorem reconcile_adds_beside_others :
    let o := ((Observatory.create Config.bare World.desert).register "b" ⟨"b", fun _ => .hangs⟩ none).after
    let desired := [CandidateConfig.mk "a" (.tcp "127.0.0.1:9")]
    ∃ report, (o.reconcile desired).result = .ok report ∧ report.added = ["a"] ∧
      (o.reconcile desired).after.view "b" = o.view "b" := by
  intro o desired
  have happens :
      (Observatory.create Config.bare World.desert).perform? (.register "b" ⟨"b", fun _ => .hangs⟩) =
      some (o, _) := rfl
  have hdesired : WellFormed desired := by
    refine ⟨by decide, fun candidate hmem => ?_, fun candidate hmem => ?_⟩
    · rw [List.mem_singleton.mp hmem]
      decide
    · rw [List.mem_singleton.mp hmem]
      rfl
  have hgoing : o.isStopped = false := rfl
  obtain ⟨report, hresult, hline⟩ := reconcile_brings_in_line (reachable_bare.step happens) hgoing hdesired
  have hmissing : (desired.map CandidateConfig.tag).filter (fun tag => !o.registry.contains tag) = ["a"] := by
    decide +kernel
  have hother : (o.registry.get? "b").map Candidate.source = some none := by decide +kernel
  obtain ⟨c, hc, hsource⟩ := Option.map_eq_some_iff.mp hother
  exact ⟨report, hresult, hline.added_eq.trans hmissing, hline.kept "b" c hc (.inl ⟨by decide, hsource⟩)⟩

end OutboundWatch
