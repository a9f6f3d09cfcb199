import OutboundWatch.Proofs.Order
import OutboundWatch.Proofs.Verdicts

/-!
# From probe results to the ranking

A result is classified by its cycle, waits there as a report, passes through the queue, and reaches the
ranking in a batch. For each registration the ranked status is the verdict on the first results of its
cycle, and the verdicts on the others are queued or waiting in the cycle, in order and without a gap.
-/

namespace OutboundWatch

/-- The results that a step completes for a generation: one if a cycle of the generation ends a round trip. -/
def Step.completed (generation : Nat) (s : Step) : List (WallTime × ProbeResult) :=
  match s.event with
  | .cycle now id move =>
    match s.before.scheduler.completion? now id move with
    | some (owner, result) => if owner = generation then [result] else []
    | none => []
  | _ => []

/-- The observations of a generation that the publisher takes from its queue in a step. -/
def Step.published (generation : Nat) (s : Step) : List Status :=
  match s.event with
  | .publisher move =>
    observationsOf generation (s.before.publisher.feed.queued.take (s.before.publisher.taken move))
  | _ => []

/-- The results that the cycle of a generation completes in a run, in order. -/
def completed (generation : Nat) (steps : List Step) : List (WallTime × ProbeResult) :=
  steps.flatMap (Step.completed generation)

/-- How many observations of a generation reach the ranking in a run. -/
def publishedCount (generation : Nat) (steps : List Step) : Nat :=
  (steps.flatMap (Step.published generation)).length

/-- What the cycles of a generation know and have still to report. -/
def Scheduler.accounts (s : Scheduler) (generation : Nat) : List (Health × Option Status) :=
  (s.faces.filter fun f => decide (f.generation = generation)).map fun f => (f.health, f.unsent)

namespace Observatory

/-- The queued observations of a generation. -/
def observations (o : Observatory) (generation : Nat) : List Status :=
  observationsOf generation o.publisher.feed.queued

end Observatory

/-- The ranking stands at the verdict on `done`. The verdicts on `more` are under way: the queue holds the
next ones, and together with what the cycle has to report it holds all of them as long as nothing was lost
to a stop. -/
structure Pipeline (classifier : Classifier) (tag : String) (generation : Nat)
    (done more : List (WallTime × ProbeResult)) (o : Observatory) : Prop where
  ranked : o.routing.table.members.get? tag = some (classifier.verdict tag generation done)
  ahead : ∃ lost, o.observations generation ++ lost = classifier.verdicts tag generation done more
  live : ∀ account ∈ o.scheduler.accounts generation,
    account.1 = classifier.observeAll Health.fresh (done ++ more) ∧
      o.observations generation ++ account.2.toList = classifier.verdicts tag generation done more
  settled : o.isStopped = false → o.scheduler.accounts generation = [] →
    o.observations generation = classifier.verdicts tag generation done more

namespace Scheduler

variable {s t : Scheduler} {generation id : Nat} {c : Cycle}

lemma mem_accounts_iff (account : Health × Option Status) :
    account ∈ s.accounts generation ↔
      ∃ f ∈ s.faces, f.generation = generation ∧ (f.health, f.unsent) = account := by
  simp [accounts, and_assoc]

lemma accounts_eq_nil_iff : s.accounts generation = [] ↔ ∀ f ∈ s.faces, f.generation ≠ generation := by
  simp [accounts]

lemma accounts_map {u : Face → Face} (hfaces : t.faces = s.faces.map u)
    (hgeneration : ∀ f, (u f).generation = f.generation)
    (hsame : ∀ f ∈ s.faces, f.generation = generation → (u f).health = f.health ∧ (u f).unsent = f.unsent) :
    t.accounts generation = s.accounts generation := by
  rw [accounts, hfaces, List.filter_map, List.map_map]
  have hfilter : ((fun f => decide (f.generation = generation)) ∘ u) =
      fun f => decide (f.generation = generation) := by
    funext f
    simp [hgeneration]
  rw [hfilter]
  refine List.map_congr_left fun f hf => ?_
  obtain ⟨hmem, hown⟩ := List.mem_filter.mp hf
  obtain ⟨hhealth, hunsent⟩ := hsame f hmem (of_decide_eq_true hown)
  simp [hhealth, hunsent]

lemma accounts_filter (generation : Nat) (hsound : s.Sound) (hc : s.get? id = some c)
    (hfaces : t.faces = s.faces.filter fun f => f.id != id) :
    t.accounts generation = if c.generation = generation then [] else s.accounts generation := by
  obtain ⟨hmem, rfl⟩ := mem_of_get? hc
  split
  · rename_i howner
    refine accounts_eq_nil_iff.mpr fun f hf hgeneration => ?_
    rw [hfaces] at hf
    obtain ⟨hold, hid⟩ := List.mem_filter.mp hf
    have hsame := hsound.id_of_generation hold (face_mem hmem) (hgeneration.trans howner.symm)
    rw [hsame] at hid
    simp [Cycle.face] at hid
  · rename_i howner
    rw [accounts, hfaces, List.filter_filter]
    congr 1
    refine List.filter_congr fun f hf => ?_
    by_cases hgeneration : f.generation = generation
    · have hid : f.id ≠ c.id := by
        intro heq
        rw [hsound.eq_of_face_id hf (face_mem hmem) heq] at hgeneration
        exact howner hgeneration
      simp [hgeneration, hid]
    · simp [hgeneration]

lemma mem_accounts_of_get? (hsound : s.Sound) (hc : s.get? id = some c) (account : Health × Option Status) :
    account ∈ s.accounts c.generation ↔ account = (c.health, c.stage.unsent) := by
  obtain ⟨hmem, -⟩ := mem_of_get? hc
  rw [mem_accounts_iff]
  constructor
  · rintro ⟨f, hf, hgeneration, rfl⟩
    rw [hsound.id_of_generation hf (face_mem hmem) hgeneration]
    rfl
  · rintro rfl
    exact ⟨c.face, face_mem hmem, rfl, rfl⟩

end Scheduler

namespace Pipeline

variable {classifier : Classifier} {tag : String} {generation : Nat}
  {done more : List (WallTime × ProbeResult)}
  {o p : Observatory}

lemma frame (h : Pipeline classifier tag generation done more o)
    (hmember : p.routing.table.members.get? tag = o.routing.table.members.get? tag)
    (hqueued : p.observations generation = o.observations generation)
    (haccounts : p.scheduler.accounts generation = o.scheduler.accounts generation)
    (hstage : p.isStopped = false → o.isStopped = false) :
    Pipeline classifier tag generation done more p where
  ranked := hmember.trans h.ranked
  ahead := by rw [hqueued]; exact h.ahead
  live := by rw [haccounts, hqueued]; exact h.live
  settled hgoing := by rw [haccounts, hqueued]; exact h.settled (hstage hgoing)

lemma fresh (hmember : o.routing.table.members.get? tag = some (Status.untested tag generation))
    (hqueued : o.observations generation = [])
    (haccounts : ∀ account ∈ o.scheduler.accounts generation, account = (Health.fresh, none)) :
    Pipeline classifier tag generation [] [] o where
  ranked := hmember
  ahead := ⟨[], by simp [hqueued, Classifier.verdicts]⟩
  live account haccount := by
    rw [haccounts account haccount]
    exact ⟨rfl, by simp [hqueued, Classifier.verdicts]⟩
  settled _ _ := by simp [hqueued, Classifier.verdicts]

/-- A completed result is one more to come, and its verdict waits in the cycle. -/
lemma complete (h : Pipeline classifier tag generation done more o) {c : Cycle} {id : Nat}
    {r : WallTime × ProbeResult} {scheduler : Scheduler} (hsound : o.scheduler.Sound)
    (hc : o.scheduler.get? id = some c) (hgeneration : c.generation = generation) (htag : c.tag = tag)
    (hidle : c.stage.unsent = none)
    (hfaces : scheduler.faces = o.scheduler.faces.map fun f =>
      if f.id = id then f.classify classifier r else f) :
    Pipeline classifier tag generation done (more ++ [r]) { o with scheduler := scheduler } := by
  obtain ⟨hmem, hid⟩ := Scheduler.mem_of_get? hc
  obtain ⟨hhealth, hqueued⟩ := h.live (c.health, c.stage.unsent)
    (hgeneration ▸ (Scheduler.mem_accounts_of_get? hsound hc _).mpr rfl)
  simp only [hidle, Option.toList_none, List.append_nil] at hqueued
  have hverdict : classifier.verdicts tag generation done (more ++ [r]) =
      o.observations generation ++ [classifier.verdict tag generation (done ++ (more ++ [r]))] := by
    rw [Classifier.verdicts_append, ← hqueued, ← List.append_assoc done]
    rfl
  have hlater :
      classifier.observe r.1 c.health r.2 = classifier.observeAll Health.fresh (done ++ (more ++ [r])) := by
    rw [← List.append_assoc, Classifier.observeAll_append_singleton, ← hhealth]
  refine ⟨h.ranked, ⟨_, hverdict.symm⟩, ?_, ?_⟩
  · intro account haccount
    obtain ⟨f, hf, hown, rfl⟩ := (Scheduler.mem_accounts_iff account).mp haccount
    simp only [hfaces] at hf
    obtain ⟨e, he, rfl⟩ := List.mem_map.mp hf
    by_cases heid : e.id = id
    · have heq : e = c.face := hsound.eq_of_face_id he (Scheduler.face_mem hmem) (heid.trans hid.symm)
      rw [if_pos heid, heq, hverdict, ← hlater]
      refine ⟨rfl, ?_⟩
      rw [Classifier.verdict, ← hlater, ← hgeneration, ← htag]
      rfl
    · rw [if_neg heid] at hown
      have heq : e = c.face :=
        hsound.id_of_generation he (Scheduler.face_mem hmem) (hown.trans hgeneration.symm)
      exact absurd (by rw [heq]; exact hid) heid
  · intro _ hnone
    refine absurd ?_ (Scheduler.accounts_eq_nil_iff.mp hnone (c.face.classify classifier r) ?_)
    · exact hgeneration
    · simp only [hfaces]
      exact List.mem_map.mpr ⟨c.face, Scheduler.face_mem hmem, if_pos hid⟩

lemma deliver (h : Pipeline classifier tag generation done more o) {c : Cycle} {id : Nat} {status : Status}
    {scheduler : Scheduler} {publisher : Publisher} (hsound : o.scheduler.Sound)
    (hc : o.scheduler.get? id = some c) (hgeneration : c.generation = generation)
    (hstage : c.stage = .reporting status)
    (hfaces :
      scheduler.faces = o.scheduler.faces.map fun f => if f.id = id then { f with unsent := none } else f)
    (hqueued : observationsOf generation publisher.feed.queued = o.observations generation ++ [status]) :
    Pipeline classifier tag generation done more
      { o with publisher := publisher, scheduler := scheduler } := by
  obtain ⟨hmem, hid⟩ := Scheduler.mem_of_get? hc
  obtain ⟨hhealth, hall⟩ := h.live (c.health, c.stage.unsent)
    (hgeneration ▸ (Scheduler.mem_accounts_of_get? hsound hc _).mpr rfl)
  simp only [hstage, CycleStage.unsent, Option.toList_some] at hall
  refine ⟨h.ranked, ⟨[], ?_⟩, ?_, fun _ _ => hqueued.trans hall⟩
  · rw [List.append_nil]
    exact hqueued.trans hall
  · intro account haccount
    obtain ⟨f, hf, hown, rfl⟩ := (Scheduler.mem_accounts_iff account).mp haccount
    simp only [hfaces] at hf
    obtain ⟨e, he, rfl⟩ := List.mem_map.mp hf
    have heq : e = c.face := by
      refine hsound.id_of_generation he (Scheduler.face_mem hmem) (Eq.trans ?_ (hown.trans hgeneration.symm))
      split <;> rfl
    have heid : e.id = id := by rw [heq]; exact hid
    rw [if_pos heid, heq]
    refine ⟨hhealth, ?_⟩
    simpa [Observatory.observations, hqueued] using hall

/-- A batch moves the ranked status along the verdicts. -/
lemma publish (h : Pipeline classifier tag generation done more o) (count : Nat) {publisher : Publisher}
    {table : RankingTable} (hkeyed : o.routing.table.members.KeyedBy Status.tag)
    (honly : ∀ update ∈ o.publisher.feed.queued, update.IsObservation)
    (hown : ∀ later, TableUpdate.observe later ∈ o.publisher.feed.queued → later.generation = generation →
      later.tag = tag)
    (hqueued : publisher.feed.queued = o.publisher.feed.queued.drop count)
    (htable :
      table.members = (o.publisher.feed.queued.take count).foldl RankingTable.step o.routing.table.members) :
    let taken := (observationsOf generation (o.publisher.feed.queued.take count)).length
    Pipeline classifier tag generation (done ++ more.take taken) (more.drop taken)
      { o with publisher := publisher, routing := { o.routing with table := table } } := by
  intro taken
  have hsplit : o.observations generation = observationsOf generation (o.publisher.feed.queued.take count) ++
      observationsOf generation (o.publisher.feed.queued.drop count) := by
    rw [← observationsOf_append, List.take_append_drop]
    rfl
  have hleft : observationsOf generation publisher.feed.queued =
      observationsOf generation (o.publisher.feed.queued.drop count) := by rw [hqueued]
  -- The queue and what follows it are the verdicts to come, so a batch takes as many results as observations.
  have hmove : ∀ {rest : List Status},
      o.observations generation ++ rest = classifier.verdicts tag generation done more →
      observationsOf generation publisher.feed.queued ++ rest =
        classifier.verdicts tag generation (done ++ more.take taken) (more.drop taken) := by
    intro rest hrest
    rw [hsplit] at hrest
    rw [hleft]
    exact (Classifier.eq_verdicts_of_append hrest).2
  have hresults : done ++ more.take taken ++ more.drop taken = done ++ more := by
    rw [List.append_assoc, List.take_append_drop]
  obtain ⟨lost, hlost⟩ := h.ahead
  refine ⟨?_, ⟨lost, hmove hlost⟩, ?_, ?_⟩
  · have htaken : ∀ update ∈ o.publisher.feed.queued.take count, update.IsObservation := fun update hupdate =>
      honly update (List.mem_of_mem_take hupdate)
    have hfirst : observationsOf generation (o.publisher.feed.queued.take count) =
        classifier.verdicts tag generation done (more.take taken) := by
      rw [hsplit] at hlost
      exact (Classifier.eq_verdicts_of_append hlost).1
    have hlast : (o.publisher.feed.queued.take count).foldl Status.supersede
        (classifier.verdict tag generation done) =
          classifier.verdict tag generation (done ++ more.take taken) := by
      rw [← Classifier.foldl_verdicts, ← hfirst]
      exact foldl_supersede fun later hlater => hown later (List.mem_of_mem_take hlater)
    simp only [htable]
    rw [RankingTable.get?_foldl_observations hkeyed htaken, h.ranked, Option.map_some, hlast]
  · intro account haccount
    obtain ⟨hhealth, hall⟩ := h.live account haccount
    exact ⟨by rw [hresults]; exact hhealth, hmove hall⟩
  · intro hgoing hnone
    have hall := h.settled hgoing hnone
    rw [← List.append_nil (o.observations generation)] at hall
    exact (List.append_nil _).symm.trans (hmove hall)

/-- A cycle that ends leaves nothing to come that is not queued, unless a stop has cut off its report. -/
lemma finish (h : Pipeline classifier tag generation done more o) {c : Cycle} {id : Nat}
    {scheduler : Scheduler}
    (hsound : o.scheduler.Sound) (hc : o.scheduler.get? id = some c)
    (hfaces : scheduler.faces = o.scheduler.faces.filter fun f => f.id != id)
    (hsent : o.isStopped = false → c.generation = generation → c.stage.unsent = none) :
    Pipeline classifier tag generation done more { o with scheduler := scheduler } := by
  have haccounts := Scheduler.accounts_filter generation hsound hc hfaces
  by_cases hgeneration : c.generation = generation
  · rw [if_pos hgeneration] at haccounts
    refine ⟨h.ranked, h.ahead, ?_, ?_⟩
    · intro account haccount
      rw [haccounts] at haccount
      cases haccount
    · intro hgoing _
      obtain ⟨-, hall⟩ := h.live (c.health, c.stage.unsent)
        (hgeneration ▸ (Scheduler.mem_accounts_of_get? hsound hc _).mpr rfl)
      simp only [hsent hgoing hgeneration, Option.toList_none, List.append_nil] at hall
      exact hall
  · rw [if_neg hgeneration] at haccounts
    exact h.frame rfl rfl haccounts fun hgoing => hgoing

end Pipeline

/-- All registrations have their pipelines: `results` are the completed results of each generation, and
`count` says how many of them the ranking has seen. Generations that were not given out have neither. -/
structure Tracks (classifier : Classifier) (results : Nat → List (WallTime × ProbeResult)) (count : Nat → Nat)
    (o : Observatory) : Prop where
  ordered : Ordered o
  settings : o.scheduler.settings.classifier = classifier
  unused : ∀ generation, o.registry.nextGeneration ≤ generation →
    results generation = [] ∧ count generation = 0
  flows : ∀ tag c, o.registry.get? tag = some c → ∃ done more,
    results c.generation = done ++ more ∧ count c.generation = done.length ∧
      Pipeline classifier tag c.generation done more o

namespace Tracks

variable {classifier : Classifier} {results : Nat → List (WallTime × ProbeResult)} {count : Nat → Nat}
  {o p : Observatory}

lemma create (config : Config) (world : World) :
    Tracks (Observatory.cycleSettings config world.epoch).classifier (fun _ => []) (fun _ => 0)
      (.create config world) where
  ordered := .create config world
  settings := rfl
  unused _ _ := ⟨rfl, rfl⟩
  flows _ _ h := by cases h

lemma frame (h : Tracks classifier results count o) (hordered : Ordered p)
    (hregistry : p.registry = o.registry)
    (hsettings : p.scheduler.settings = o.scheduler.settings) (htable : p.routing.table = o.routing.table)
    (hqueued : p.publisher.feed.queued = o.publisher.feed.queued)
    (haccounts : ∀ generation, p.scheduler.accounts generation = o.scheduler.accounts generation)
    (hstage : p.isStopped = false → o.isStopped = false) : Tracks classifier results count p := by
  refine ⟨hordered, by rw [hsettings]; exact h.settings, by rw [hregistry]; exact h.unused, ?_⟩
  intro tag c hc
  rw [hregistry] at hc
  obtain ⟨done, more, hresults, hcount, hflow⟩ := h.flows tag c hc
  refine ⟨done, more, hresults, hcount, hflow.frame (by rw [htable]) ?_ (haccounts _) hstage⟩
  rw [Observatory.observations, Observatory.observations, hqueued]

/-- Nothing in the queue or in a cycle is of a generation that is still to be given out. -/
lemma nothing_next (h : Ordered o) : o.observations o.registry.nextGeneration = [] ∧
    o.scheduler.accounts o.registry.nextGeneration = [] := by
  constructor
  · refine List.filterMap_eq_nil_iff.mpr fun update hupdate => ?_
    have hless := h.given update.subject (List.mem_append_right _ (List.mem_map_of_mem hupdate))
    cases update with
    | register _ _ => rfl
    | remove _ _ => rfl
    | observe status => exact if_neg (Nat.ne_of_lt hless)
  · refine Scheduler.accounts_eq_nil_iff.mpr fun f hf => ?_
    exact Nat.ne_of_lt (h.given f.subject (List.mem_append_left _ (List.mem_map_of_mem hf)))

lemma enroll (h : Tracks classifier results count o) {tag : String} (hgoing : o.isStopped = false)
    (hnone : o.registry.get? tag = none) (target : ProbeTarget) (source : Option TargetConfig) :
    Tracks classifier results count (o.enroll tag target source) := by
  have hidle := h.ordered.not_running hgoing hnone
  obtain ⟨hqueued, hlive⟩ := nothing_next h.ordered
  have haccounts : ∀ generation, (o.enroll tag target source).scheduler.accounts generation =
      o.scheduler.accounts generation ++
        if o.registry.nextGeneration = generation then [(Health.fresh, none)] else [] := by
    intro generation
    have hfaces : (o.enroll tag target source).scheduler.faces = _ := Scheduler.faces_spawn hidle target
    rw [Scheduler.accounts, hfaces, List.filter_append, List.map_append]
    by_cases heq : o.registry.nextGeneration = generation <;> simp [Scheduler.accounts, heq]
  have hmember : ∀ key, (o.enroll tag target source).routing.table.members.get? key =
      if key = tag then some (Status.untested tag o.registry.nextGeneration)
      else o.routing.table.members.get? key := by
    intro key
    simp only [Observatory.enroll, Routing.apply, RankingTable.members_apply, List.foldl_cons, List.foldl_nil,
      RankingTable.step_register, TagMap.get?_insert]
  refine ⟨h.ordered.enroll hgoing hnone target source, ?_, ?_, ?_⟩
  · have hsettings :
        (o.scheduler.spawn tag o.registry.nextGeneration target).settings = o.scheduler.settings := by
      simp [Scheduler.spawn, hidle]
    rw [← h.settings, ← hsettings]
    rfl
  · intro generation hlater
    exact h.unused generation (Nat.le_of_succ_le hlater)
  · intro key c hc
    rw [Observatory.get?_registry_enroll] at hc
    split at hc <;> rename_i hkey
    · cases hc
      subst hkey
      obtain ⟨hresults, hcount⟩ := h.unused o.registry.nextGeneration (Nat.le_refl _)
      refine ⟨[], [], hresults, hcount, .fresh ?_ hqueued ?_⟩
      · rw [hmember, if_pos rfl]
      · intro account haccount
        rw [haccounts, hlive] at haccount
        simpa using haccount
    · obtain ⟨done, more, hresults, hcount, hflow⟩ := h.flows key c hc
      refine ⟨done, more, hresults, hcount, hflow.frame ?_ rfl ?_ fun hsame => hsame⟩
      · rw [hmember, if_neg hkey]
      · have hold := h.ordered.registered key c hc
        rw [haccounts, if_neg (Nat.ne_of_gt hold), List.append_nil]

lemma dismiss (h : Tracks classifier results count o) {tag : String} {candidate : Candidate}
    (hregistered : o.registry.get? tag = some candidate) :
    Tracks classifier results count (o.dismiss tag candidate.generation) := by
  have haccounts : ∀ generation, (o.scheduler.cancel tag).1.accounts generation =
      o.scheduler.accounts generation := by
    intro generation
    rcases o.scheduler.cancel_cases tag with ⟨-, hsame⟩ | ⟨current, -, hcancelled⟩
    · rw [hsame]
    · have hfaces : (o.scheduler.cancel tag).1.faces = (o.scheduler.requestStop current.id).faces := by
        rw [hcancelled]
        rfl
      rw [Scheduler.faces_requestStop] at hfaces
      refine Scheduler.accounts_map hfaces (fun f => ?_) fun f _ _ => ?_
      · split <;> rfl
      · split <;> exact ⟨rfl, rfl⟩
  have hsettings : (o.scheduler.cancel tag).1.settings = o.scheduler.settings := by
    rcases o.scheduler.cancel_cases tag with ⟨-, hsame⟩ | ⟨current, -, hcancelled⟩
    · rw [hsame]
    · rw [hcancelled]
      rfl
  refine ⟨h.ordered.dismiss hregistered, ?_, h.unused, ?_⟩
  · rw [← h.settings, ← hsettings]
    rfl
  · intro key c hc
    rw [Observatory.get?_registry_dismiss] at hc
    split at hc
    · cases hc
    · rename_i hkey
      obtain ⟨done, more, hresults, hcount, hflow⟩ := h.flows key c hc
      refine ⟨done, more, hresults, hcount, hflow.frame ?_ rfl (haccounts _) fun hsame => hsame⟩
      simp only [Observatory.dismiss, RankingTable.members_apply, List.foldl_cons, List.foldl_nil,
        RankingTable.get?_step_remove, hkey, false_and, decide_false, Bool.not_false]
      cases o.routing.table.members.get? key <;> rfl

lemma register (h : Tracks classifier results count o) (tag : String) (target : ProbeTarget)
    (source : Option TargetConfig) :
    Tracks classifier results count (o.register tag target source).after :=
  o.register_keeps tag target source h fun hgoing hnone => h.enroll hgoing hnone target source

lemma registerConfigured (h : Tracks classifier results count o) (candidate : CandidateConfig) :
    Tracks classifier results count (o.registerConfigured candidate).after :=
  o.registerConfigured_keeps candidate h fun target hgoing hnone =>
    h.enroll hgoing hnone target (some candidate.target)

lemma unregister (h : Tracks classifier results count o) (tag : String) :
    Tracks classifier results count (o.unregister tag).after :=
  o.unregister_keeps tag h fun _ hregistered => h.dismiss hregistered

lemma registrations (h : Tracks classifier results count o) (hmade : Registrations o p) :
    Tracks classifier results count p := by
  refine hmade.invariant (fun o event p records hevent h happens => ?_) h
  cases event with
  | registerConfigured candidate =>
    rw [Observatory.eq_of_perform?_effect happens]
    exact h.registerConfigured candidate
  | unregister tag =>
    rw [Observatory.eq_of_perform?_effect happens]
    exact h.unregister tag
  | _ => exact hevent.elim

lemma stop (h : Tracks classifier results count o) : Tracks classifier results count o.stop.1 := by
  have hordered := h.ordered.stop
  rcases o.stop_cases with ⟨-, hsame⟩ | ⟨-, hstopped⟩
  · rw [hsame]
    exact h
  · rw [hstopped] at hordered ⊢
    refine h.frame hordered rfl ?_ rfl rfl (fun generation => ?_) fun hgoing => by cases hgoing
    · have hfold : ∀ (told : List RunningCycle) (t : Scheduler),
          (told.foldl (fun acc current => acc.requestStop current.id) t).settings = t.settings := by
        intro told
        induction told with
        | nil => exact fun t => rfl
        | cons current rest ih => exact fun t => ih _
      exact hfold _ _
    · exact Scheduler.accounts_map o.scheduler.faces_stopAll (fun f => rfl) fun f _ _ => ⟨rfl, rfl⟩

/-- The tag of a cycle, and that it goes on, follow from the registration that it works for. -/
lemma cycle_of_registered (h : Ordered o) {tag : String} {c : Candidate} (hc : o.registry.get? tag = some c)
    {d : Cycle} {id : Nat} (hd : o.scheduler.get? id = some d) (hgeneration : d.generation = c.generation) :
    d.tag = tag ∧ (o.isStopped = false → d.stopping = false) := by
  have hface := Scheduler.face_mem (Scheduler.mem_of_get? hd).1
  refine ⟨?_, fun hgoing => h.willing hgoing tag c hc d.face hface hgeneration⟩
  exact h.attributed tag c hc d.face.subject (List.mem_append_left _ (List.mem_map_of_mem hface)) hgeneration

lemma generation_lt_of_get? (h : Ordered o) {d : Cycle} {id : Nat} (hd : o.scheduler.get? id = some d) :
    d.generation < o.registry.nextGeneration :=
  h.given d.face.subject
    (List.mem_append_left _ (List.mem_map_of_mem (Scheduler.face_mem (Scheduler.mem_of_get? hd).1)))

lemma cycle (h : Tracks classifier results count o) {now : Moment} {id : Nat} {move : CycleMove}
    {records : List Record} (happens : o.perform? (.cycle now id move) = some (p, records)) :
    Tracks classifier
      (fun generation => results generation ++ Step.completed generation ⟨o, .cycle now id move, p, records⟩)
      count p := by
  have hordered := h.ordered.cycle happens
  obtain ⟨scheduler, hmove, rfl⟩ := Observatory.perform?_cycle happens
  have hsound := h.ordered.sound
  have hsettings := (Scheduler.kept_move? hmove).settings
  obtain ⟨-, d, hd, hcases⟩ := Scheduler.move?_cases hsound hmove
  rcases hcases with ⟨r, hcompletion, hidle, hfaces⟩ | ⟨hcompletion, hfaces⟩
  · simp only [Step.completed, hcompletion]
    refine ⟨hordered, by rw [hsettings]; exact h.settings, ?_, ?_⟩
    · intro generation hlater
      obtain ⟨hresults, hcount⟩ := h.unused generation hlater
      have hother : d.generation ≠ generation :=
        Nat.ne_of_lt (Nat.lt_of_lt_of_le (generation_lt_of_get? h.ordered hd) hlater)
      exact ⟨by simp [hresults, hother], hcount⟩
    · intro tag c hc
      obtain ⟨done, more, hresults, hcount, hflow⟩ := h.flows tag c hc
      rw [h.settings] at hfaces
      by_cases hgeneration : d.generation = c.generation
      · have htag := (cycle_of_registered h.ordered hc hd hgeneration).1
        refine ⟨done, more ++ [r], ?_, hcount, hflow.complete hsound hd hgeneration htag hidle hfaces⟩
        rw [if_pos hgeneration, hresults, List.append_assoc]
      · refine ⟨done, more, ?_, hcount, hflow.frame rfl rfl ?_ fun hsame => hsame⟩
        · rw [if_neg hgeneration, hresults, List.append_nil]
        · refine Scheduler.accounts_map hfaces (fun f => ?_) fun f hf hown => ?_
          · split <;> rfl
          · obtain ⟨hmem, hdid⟩ := Scheduler.mem_of_get? hd
            have hid : f.id ≠ id := by
              intro heq
              rw [hsound.eq_of_face_id hf (Scheduler.face_mem hmem) (heq.trans hdid.symm)] at hown
              exact hgeneration hown
            simp [hid]
  · simp only [Step.completed, hcompletion, List.append_nil]
    refine ⟨hordered, by rw [hsettings]; exact h.settings, h.unused, ?_⟩
    intro tag c hc
    obtain ⟨done, more, hresults, hcount, hflow⟩ := h.flows tag c hc
    refine ⟨done, more, hresults, hcount, ?_⟩
    rcases hfaces with hsame | ⟨hgone, hended⟩
    · refine hflow.frame rfl rfl ?_ fun hsame => hsame
      simp only [Scheduler.accounts, hsame]
    · refine hflow.finish hsound hd hgone fun hgoing hgeneration => ?_
      rcases hended with hstopping | hidle
      · rw [(cycle_of_registered h.ordered hc hd hgeneration).2 hgoing] at hstopping
        cases hstopping
      · exact hidle

lemma deliver (h : Tracks classifier results count o) {now : Moment} {id : Nat} {records : List Record}
    (happens : o.perform? (.deliver now id) = some (p, records)) : Tracks classifier results count p := by
  have hordered := h.ordered.deliver happens
  have hsound := h.ordered.sound
  obtain ⟨d, status, hd, hstage, hdeliver⟩ := Observatory.perform?_deliver happens
  rcases Observatory.deliver?_cases hdeliver with ⟨feed, hsend, rfl⟩ | ⟨hclosed, rfl⟩
  · obtain ⟨-, rfl⟩ := Feed.send?_cases hsend
    have hfaces := (hsound.reported now hd hstage).2
    have hstatus : status.generation = d.generation := by
      have hreport := hsound.reports d.face (Scheduler.face_mem (Scheduler.mem_of_get? hd).1) status (by
        simp [Cycle.face, hstage, CycleStage.unsent])
      rw [hreport]
      rfl
    refine ⟨hordered, h.settings, h.unused, ?_⟩
    intro tag c hc
    obtain ⟨done, more, hresults, hcount, hflow⟩ := h.flows tag c hc
    refine ⟨done, more, hresults, hcount, ?_⟩
    by_cases hgeneration : d.generation = c.generation
    · refine hflow.deliver hsound hd hgeneration hstage hfaces ?_
      rw [observationsOf_append]
      simp [observationsOf, TableUpdate.observation?, hstatus, hgeneration, Observatory.observations]
    · refine hflow.frame rfl ?_ ?_ fun hsame => hsame
      · rw [Observatory.observations, observationsOf_append]
        simp [observationsOf, TableUpdate.observation?, hstatus, hgeneration, Observatory.observations]
      · refine Scheduler.accounts_map hfaces (fun f => ?_) fun f hf hown => ?_
        · split <;> rfl
        · obtain ⟨hmem, hdid⟩ := Scheduler.mem_of_get? hd
          have hid : f.id ≠ id := by
            intro heq
            rw [hsound.eq_of_face_id hf (Scheduler.face_mem hmem) (heq.trans hdid.symm)] at hown
            exact hgeneration hown
          simp [hid]
  · have hfaces : (o.scheduler.exit now d).1.faces = o.scheduler.faces.filter fun f => f.id != id := by
      rw [← (Scheduler.mem_of_get? hd).2]
      exact hsound.faces_remove now d
    refine ⟨hordered, ?_, h.unused, ?_⟩
    · rw [← h.settings]
      exact congrArg CycleSettings.classifier (o.scheduler.kept_remove now d).settings
    · intro tag c hc
      obtain ⟨done, more, hresults, hcount, hflow⟩ := h.flows tag c hc
      refine ⟨done, more, hresults, hcount, hflow.finish hsound hd hfaces fun hgoing _ => ?_⟩
      rw [(h.ordered.listening hgoing).1] at hclosed
      cases hclosed

lemma publisher (h : Tracks classifier results count o) {move : PublisherMove} {records : List Record}
    (happens : o.perform? (.publisher move) = some (p, records)) :
    Tracks classifier results
      (fun generation =>
        count generation + (Step.published generation ⟨o, .publisher move, p, records⟩).length)
      p := by
  have hordered := h.ordered.publisher happens
  obtain ⟨publisher, table, hmove, rfl⟩ := Observatory.perform?_publisher happens
  obtain ⟨hqueued, htable, -⟩ := Publisher.move?_cases hmove
  refine ⟨hordered, h.settings, ?_, ?_⟩
  · intro generation hlater
    obtain ⟨hresults, hcount⟩ := h.unused generation hlater
    refine ⟨hresults, ?_⟩
    have hnone : observationsOf generation (o.publisher.feed.queued.take (o.publisher.taken move)) = [] := by
      refine List.filterMap_eq_nil_iff.mpr fun update hupdate => ?_
      have hless := h.ordered.given update.subject
        (List.mem_append_right _ (List.mem_map_of_mem (List.mem_of_mem_take hupdate)))
      cases update with
      | register _ _ => rfl
      | remove _ _ => rfl
      | observe status => exact if_neg (Nat.ne_of_lt (Nat.lt_of_lt_of_le hless hlater))
    simp [Step.published, hnone, hcount]
  · intro tag c hc
    obtain ⟨done, more, hresults, hcount, hflow⟩ := h.flows tag c hc
    have hmembers : table.members =
        (o.publisher.feed.queued.take (o.publisher.taken move)).foldl RankingTable.step
          o.routing.table.members := by
      rw [htable, RankingTable.members_apply]
    have hown : ∀ later, TableUpdate.observe later ∈ o.publisher.feed.queued →
        later.generation = c.generation → later.tag = tag := fun later hlater =>
      h.ordered.attributed tag c hc (later.generation, later.tag)
        (List.mem_append_right _ (List.mem_map_of_mem hlater))
    have hafter := hflow.publish _ h.ordered.agreement.faithful.keyed h.ordered.agreement.observations hown
      hqueued hmembers
    refine ⟨_, _, ?_, ?_, hafter⟩
    · rw [hresults, List.append_assoc, List.take_append_drop]
    · obtain ⟨lost, hlost⟩ := hflow.ahead
      have hlength := congrArg List.length hlost
      rw [Observatory.observations,
        ← List.take_append_drop (o.publisher.taken move) o.publisher.feed.queued] at hlength
      simp only [observationsOf_append, List.length_append, Classifier.length_verdicts] at hlength
      simp only [Step.published, hcount, List.length_append, List.length_take]
      omega

lemma other (h : Tracks classifier results count o) {event : Event} {records : List Record}
    (hcycle : ∀ now id move, event ≠ .cycle now id move) (hpublisher : ∀ move, event ≠ .publisher move)
    (happens : o.perform? event = some (p, records)) : Tracks classifier results count p := by
  cases event with
  | register tag target =>
    rw [Observatory.eq_of_perform?_effect happens]
    exact h.register tag target none
  | registerConfigured candidate =>
    rw [Observatory.eq_of_perform?_effect happens]
    exact h.registerConfigured candidate
  | unregister tag =>
    rw [Observatory.eq_of_perform?_effect happens]
    exact h.unregister tag
  | reconcile desired => exact h.registrations (Observatory.registrations_of_reconcile happens)
  | selectBest =>
    have hordered := h.ordered.perform? (by simp) happens
    cases happens
    rcases o.selectBest_cases with hsame | ⟨chosen, -, -, hselected⟩
    · rw [hsame]
      exact h
    · rw [hselected] at hordered ⊢
      exact h.frame hordered rfl rfl rfl rfl (fun _ => rfl) fun hsame => hsame
  | openConnection tag =>
    have hordered := h.ordered.perform? (by simp) happens
    rw [Observatory.eq_of_perform?_effect happens] at hordered ⊢
    rcases o.openConnection_cases tag with ⟨e, hrefused⟩ | ⟨-, -, hopened, -⟩
    · rw [hrefused]
      exact h
    · rw [hopened] at hordered ⊢
      exact h.frame hordered rfl rfl rfl rfl (fun _ => rfl) fun hsame => hsame
  | stop =>
    cases happens
    exact h.stop
  | cycle now id move => exact absurd rfl (hcycle now id move)
  | deliver now id => exact h.deliver happens
  | publisher move => exact absurd rfl (hpublisher move)
  | connection move =>
    have hordered := h.ordered.perform? (by simp) happens
    obtain ⟨drains, -, rfl⟩ := Observatory.perform?_connection happens
    exact h.frame hordered rfl rfl rfl rfl (fun _ => rfl) fun hsame => hsame
  | signal move =>
    have hordered := h.ordered.perform? (by simp) happens
    cases happens
    exact h.frame hordered rfl rfl rfl rfl (fun _ => rfl) fun hsame => hsame
  | proceedStop now =>
    have hordered := h.ordered.perform? (by simp) happens
    obtain ⟨-, drains, stage, -, -, -, hstage, rfl⟩ := Observatory.proceedStop?_cases happens
    refine h.frame hordered rfl rfl rfl rfl (fun _ => rfl) fun hgoing => ?_
    exact absurd hgoing (by simpa [Observatory.isStopped] using hstage)

/-- What a step adds to the results and to the count of each generation. -/
theorem perform? (h : Tracks classifier results count o) {event : Event} {records : List Record}
    (happens : o.perform? event = some (p, records)) :
    Tracks classifier
      (fun generation => results generation ++ Step.completed generation ⟨o, event, p, records⟩)
      (fun generation => count generation + (Step.published generation ⟨o, event, p, records⟩).length) p := by
  cases event with
  | cycle now id move =>
    simpa only [Step.published, List.length_nil, Nat.add_zero] using h.cycle happens
  | publisher move =>
    simpa only [Step.completed, List.append_nil] using h.publisher happens
  | _ =>
    simpa only [Step.completed, Step.published, List.append_nil, List.length_nil, Nat.add_zero] using
      h.other (by simp) (by simp) happens

/-- Over a run, each generation gets the results that its cycle completes and the count of what was
published. -/
theorem run (h : Tracks classifier (fun _ => []) (fun _ => 0) o) {steps : List Step} (run : Run o steps p) :
    Tracks classifier (fun generation => completed generation steps)
      (fun generation => publishedCount generation steps) p := by
  induction run with
  | refl => exact h
  | step _ happens ih =>
    simpa only [completed, publishedCount, List.flatMap_append, List.length_append, List.flatMap_cons,
      List.flatMap_nil, List.append_nil] using ih.perform? happens

end Tracks

/-- For every registered tag, whatever has happened since the start, the ranking holds the verdict on the
first results that the cycle of the registration has completed. How many of them it has seen never
decreases, and it has seen all of them whenever nothing is queued and the cycle has nothing to report,
unless a stop was begun. -/
theorem ranking_follows_results {config : Config} {world : World} {started o : Observatory}
    {records : List Record} {steps : List Step} {tag : String} {c : Candidate}
    (hstart : Observatory.start config world = .ok (started, records)) (run : Run started steps o)
    (hc : o.registry.get? tag = some c) :
    let classifier := (Observatory.cycleSettings config world.epoch).classifier
    let results := completed c.generation steps
    let k := publishedCount c.generation steps
    k ≤ results.length ∧
      o.ranking.get? tag = some ⟨tag, c.generation, classifier.observeAll Health.fresh (results.take k)⟩ ∧
      (∀ earlier later, steps = earlier ++ later → publishedCount c.generation earlier ≤ k) ∧
      (o.isStopped = false → o.publisher.feed.queued = [] →
        (∀ d ∈ o.scheduler.live, d.generation = c.generation → ∀ status, d.stage ≠ .reporting status) →
        k = results.length) := by
  intro classifier results k
  have htracks := ((Tracks.create config world).registrations
    (Observatory.registrations_of_start hstart)).run run
  obtain ⟨done, more, hresults, hcount, hflow⟩ := htracks.flows tag c hc
  have hk : k = done.length := hcount
  have hall : results = done ++ more := hresults
  have htake : results.take k = done := by rw [hk, hall, List.take_left]
  refine ⟨by rw [hk, hall, List.length_append]; omega, ?_, ?_, ?_⟩
  · rw [htake]
    exact (htracks.ordered.agreement.faithful.get?_snapshot tag).trans hflow.ranked
  · rintro earlier later rfl
    simp only [k, publishedCount, List.flatMap_append, List.length_append]
    omega
  · intro hgoing hqueued hsent
    have hnone : o.observations c.generation = [] := by rw [Observatory.observations, hqueued]; rfl
    have hverdicts : classifier.verdicts tag c.generation done more = [] := by
      cases haccounts : o.scheduler.accounts c.generation with
      | nil => rw [← hflow.settled hgoing haccounts, hnone]
      | cons account rest =>
        have haccount : account ∈ o.scheduler.accounts c.generation := by
          rw [haccounts]
          exact List.mem_cons_self
        obtain ⟨f, hf, hown, rfl⟩ := (Scheduler.mem_accounts_iff account).mp haccount
        obtain ⟨d, hd, rfl⟩ := List.mem_map.mp hf
        have hidle : d.stage.unsent = none := by
          cases hstage : d.stage with
          | reporting status => exact absurd hstage (hsent d hd hown status)
          | _ => rfl
        have hlast := (hflow.live _ haccount).2
        simpa [hnone, Cycle.face, hidle] using hlast.symm
    have hempty := congrArg List.length hverdicts
    rw [Classifier.length_verdicts] at hempty
    rw [hk, hall, List.length_append, hempty]
    rfl

/-- After one probe that succeeded, was reported and was published, the ranking holds the verdict on it. -/
theorem ranking_after_first_probe :
    ∃ steps o c, Run (.create Config.bare World.desert) steps o ∧ o.registry.get? "a" = some c ∧
      completed c.generation steps = [(0, .success Span.zero)] ∧
      o.ranking.get? "a" = some ⟨"a", c.generation,
        (Observatory.cycleSettings Config.bare World.desert.epoch).classifier.observeAll Health.fresh
          [(0, .success Span.zero)]⟩ := by
  have hplayed : ((Observatory.create Config.bare World.desert).play? [.register "a" ⟨"a", fun _ => .instant⟩,
      .cycle 0 0 .advance, .cycle 0 0 .advance, .cycle 0 0 .advance, .deliver 0 0, .publisher .begin,
      .publisher (.publish 1)]).map (fun played => ((played.2.registry.get? "a").map Candidate.generation,
        completed 1 played.1, publishedCount 1 played.1)) = some (some 1, [(0, .success Span.zero)], 1) := by
    decide +kernel
  obtain ⟨⟨steps, o⟩, hsteps, heq⟩ := Option.map_eq_some_iff.mp hplayed
  simp only [Prod.mk.injEq] at heq
  obtain ⟨hregistered, hcompleted, hcount⟩ := heq
  obtain ⟨c, hc, hgeneration⟩ := Option.map_eq_some_iff.mp hregistered
  obtain ⟨records, hstart⟩ := start_bare
  have hranking := (ranking_follows_results hstart (Run.of_play? hsteps) hc).2.1
  rw [hgeneration, hcompleted, hcount] at hranking
  refine ⟨steps, o, c, Run.of_play? hsteps, hc, ?_, ?_⟩
  · rw [hgeneration, hcompleted]
  · rw [hgeneration]
    exact hranking

end OutboundWatch
