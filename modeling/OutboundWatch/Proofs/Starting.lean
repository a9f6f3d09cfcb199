import OutboundWatch.Proofs.Pauses
import OutboundWatch.Proofs.Validity

/-!
# What a start leads to

A start registers the configured candidates one after the other. Each registration finds its tag free, because
the tags of a valid configuration are distinct, and adds one more candidate under the next generation.
-/

namespace OutboundWatch

namespace TagMap

variable {α : Type} {m : TagMap α} {tag : String}

lemma values_insert_of_none (hnone : m.get? tag = none) (value : α) :
    (m.insert tag value).values = m.values ++ [value] := by
  have hlookup : m.entries.lookup tag = none := hnone
  simp [insert, hlookup, values]

lemma size_insert_of_none (hnone : m.get? tag = none) (value : α) : (m.insert tag value).size = m.size + 1 := by
  have hlookup : m.entries.lookup tag = none := hnone
  simp [insert, hlookup, size]

end TagMap

/-- The observatory has exactly the wanted candidates, in the state in which they were registered one after the
other. -/
structure Populated (network : Network) (wanted : List CandidateConfig) (o : Observatory) : Prop where
  going : o.isStopped = false
  reaches : o.network = network
  next : o.registry.nextGeneration = wanted.length + 1
  size : o.registry.size = wanted.length
  registered : ∀ i candidate, wanted[i]? = some candidate → ∃ built, candidate.target.build = .ok built ∧
    o.registry.get? candidate.tag =
      some ⟨candidate.tag, i + 1, network.probeTarget built (i + 1), some candidate.target⟩
  named : ∀ tag c, o.registry.get? tag = some c → tag ∈ wanted.map CandidateConfig.tag
  ranked : o.ranking.entries.Perm (wanted.mapIdx fun i candidate => Status.untested candidate.tag (i + 1))
  version : o.ranking.version = wanted.length
  nextId : o.scheduler.nextId = wanted.length
  probed : ∀ i candidate, wanted[i]? = some candidate →
    o.scheduler.running.get? candidate.tag = some ⟨i, i + 1⟩

namespace Populated

variable {network : Network} {wanted rest : List CandidateConfig} {o : Observatory}

lemma create (config : Config) (world : World) : Populated world.network [] (.create config world) where
  going := rfl
  reaches := rfl
  next := rfl
  size := rfl
  registered _ _ h := by simp at h
  named _ _ h := by cases h
  ranked := .refl _
  version := rfl
  nextId := rfl
  probed _ _ h := by simp at h

lemma get?_eq_none (h : Populated network wanted o) {tag : String} (hnew : tag ∉ wanted.map CandidateConfig.tag) :
    o.registry.get? tag = none := by
  cases hget : o.registry.get? tag with
  | none => rfl
  | some c => exact absurd (h.named tag c hget) hnew

lemma enroll (h : Populated network wanted o) (hordered : Ordered o) {last : CandidateConfig}
    (hnew : last.tag ∉ wanted.map CandidateConfig.tag) {built : BuiltTarget}
    (hbuilt : last.target.build = .ok built) :
    Populated network (wanted ++ [last]) (o.enroll last.tag
      (o.network.probeTarget built o.registry.nextGeneration) (some last.target)) := by
  have hnone := h.get?_eq_none hnew
  have hother : ∀ (i : Nat) (candidate : CandidateConfig), wanted[i]? = some candidate → candidate.tag ≠ last.tag := by
    intro i candidate hi heq
    exact hnew (heq ▸ List.mem_map_of_mem (List.mem_of_getElem? hi))
  have hunranked : o.routing.table.members.get? last.tag = none := by
    have hranked := hordered.agreement.ranked last.tag
    rw [hnone] at hranked
    exact Option.map_eq_none_iff.mp hranked
  refine ⟨h.going, h.reaches, ?_, ?_, ?_, ?_, ?_, ?_, ?_, ?_⟩
  · rw [List.length_append, List.length_singleton, ← h.next]
    rfl
  · rw [List.length_append, List.length_singleton, ← h.size]
    exact TagMap.size_insert_of_none hnone _
  · intro i candidate hi
    rcases getElem?_append_singleton hi with hold | ⟨rfl, rfl⟩
    · obtain ⟨earlier, hearlier, hregistered⟩ := h.registered i candidate hold
      refine ⟨earlier, hearlier, ?_⟩
      exact (TagMap.get?_insert _ _ _ _).trans ((if_neg (hother i candidate hold)).trans hregistered)
    · refine ⟨built, hbuilt, ?_⟩
      refine (TagMap.get?_insert _ _ _ _).trans ((if_pos rfl).trans ?_)
      rw [h.next, h.reaches]
  · intro tag c hc
    rw [List.map_append, List.mem_append]
    have hafter : (if tag = last.tag then some _ else o.registry.get? tag) = some c :=
      (TagMap.get?_insert _ _ _ _).symm.trans hc
    split at hafter
    · rename_i htag
      exact .inr (List.mem_singleton.mpr htag)
    · exact .inl (h.named tag c hafter)
  · have hfaithful := hordered.agreement.faithful
    have hafter := hfaithful.apply [.register last.tag o.registry.nextGeneration]
    refine hafter.published.trans ?_
    rw [RankingTable.members_apply, List.foldl_cons, List.foldl_nil, RankingTable.step_register,
      TagMap.values_insert_of_none hunranked, List.mapIdx_concat, h.next]
    exact (hfaithful.published.symm.trans h.ranked).append_right _
  · rw [List.length_append, List.length_singleton, ← h.version]
    rfl
  · have hspawned : (o.scheduler.spawn last.tag o.registry.nextGeneration
        (o.network.probeTarget built o.registry.nextGeneration)).nextId = o.scheduler.nextId + 1 := rfl
    rw [List.length_append, List.length_singleton, ← h.nextId]
    exact hspawned
  · intro i candidate hi
    refine (Scheduler.get?_running_spawn _ _ _ _ _).trans ?_
    rcases getElem?_append_singleton hi with hold | ⟨rfl, rfl⟩
    · rw [if_neg (hother i candidate hold)]
      exact h.probed i candidate hold
    · rw [if_pos rfl, h.nextId, h.next]

/-- The registrations of well-formed candidates all succeed. -/
lemma registerAll (h : Populated network wanted o) (hordered : Ordered o)
    (hformed : WellFormed (wanted ++ rest)) :
    (o.registerAll rest).result = .ok () ∧ Populated network (wanted ++ rest) (o.registerAll rest).after := by
  induction rest generalizing wanted o with
  | nil => exact ⟨rfl, by rwa [List.append_nil]⟩
  | cons candidate rest ih =>
    have hmem : candidate ∈ wanted ++ candidate :: rest := by simp
    have hnew : candidate.tag ∉ wanted.map CandidateConfig.tag := by
      have hdistinct := hformed.distinct
      rw [List.map_append, List.nodup_append] at hdistinct
      intro hin
      exact hdistinct.2.2 _ hin candidate.tag (by simp) rfl
    have hnone := h.get?_eq_none hnew
    obtain ⟨built, hbuilt⟩ := TargetConfig.build_of_check (hformed.checked candidate hmem)
    obtain ⟨hafter, hresult⟩ := Observatory.registerConfigured_of_build h.going
      (hformed.named candidate hmem) hbuilt hnone
    have hnext := ih (h.enroll hordered hnew hbuilt) (hordered.enroll h.going hnone _ _)
      (by simpa using hformed)
    rw [List.append_assoc, List.singleton_append] at hnext
    simp only [Observatory.registerAll, hresult, hafter]
    exact hnext

end Populated

namespace Observatory

variable (config : Config) (world : World)

/-- What a start does with a valid configuration. -/
lemma start_of_valid (hvalid : config.Valid) (hpermits : config.probe.concurrency.toNat ≤ maxPermits) :
    ∃ o records, start config world = .ok (o, records) ∧ Populated world.network config.candidates o := by
  obtain ⟨hresult, hpopulated⟩ := (Populated.create config world).registerAll (.create config world)
    (by simpa using hvalid.candidates)
  have herrors : config.errors = [] := config.errors_eq_nil_iff.mpr hvalid
  have hfits : ¬maxPermits < config.probe.concurrency.toNat := by omega
  simp only [start, herrors, ne_eq, not_true_eq_false, if_false, hfits, hresult]
  exact ⟨_, _, rfl, hpopulated⟩

lemma start_of_errors (herrors : config.errors ≠ []) :
    start config world = .error (.invalidConfig config.errors) := by
  simp only [start, ne_eq, herrors, not_false_eq_true, if_true]

lemma start_of_many (herrors : config.errors = []) (hpermits : maxPermits < config.probe.concurrency.toNat) :
    start config world = .error .tooManyPermits := by
  simp only [start, herrors, ne_eq, not_true_eq_false, if_false, hpermits, if_true]

variable {config world}

/-- What has been started was valid, and asked for no more permits than there can be. -/
lemma valid_of_start {o : Observatory} {records : List Record} (hstart : start config world = .ok (o, records)) :
    config.Valid ∧ config.probe.concurrency.toNat ≤ maxPermits := by
  by_cases herrors : config.errors = []
  · refine ⟨config.errors_eq_nil_iff.mp herrors, ?_⟩
    by_contra hpermits
    rw [start_of_many config world herrors (by omega)] at hstart
    cases hstart
  · rw [start_of_errors config world herrors] at hstart
    cases hstart

lemma populated_of_start {o : Observatory} {records : List Record} (hstart : start config world = .ok (o, records)) :
    Populated world.network config.candidates o := by
  obtain ⟨hvalid, hpermits⟩ := valid_of_start hstart
  obtain ⟨p, more, hsame, hpopulated⟩ := start_of_valid config world hvalid hpermits
  rw [hstart] at hsame
  cases hsame
  exact hpopulated

/-- Whatever happens to it afterwards, the cycles of what has been started can always pause. -/
lemma canPause_of_start {o p : Observatory} {records : List Record} {steps : List Step}
    (hstart : start config world = .ok (o, records)) (run : Run o steps p) : p.scheduler.settings.CanPause := by
  have hsettings : p.scheduler.settings = cycleSettings config world.epoch :=
    ((evolves_of_start hstart).trans run.evolves).scheduler.settings
  rw [hsettings]
  exact CycleSettings.canPause rfl (valid_of_start hstart).1.probe.jitterRatio

variable (config world)

/-- A start succeeds exactly with a valid configuration that asks for no more permits than there can be. Then the
configured candidates are registered and ranked in their order, all untested, and their cycles never fail to pause.
Otherwise nothing is started, and the errors of the validation are reported if there are any. -/
theorem start_outcome :
    ((∃ o records, start config world = .ok (o, records)) ↔
        config.errors = [] ∧ config.probe.concurrency.toNat ≤ maxPermits) ∧
      (∀ o records, start config world = .ok (o, records) →
        o.config = config ∧ Populated world.network config.candidates o ∧
          ∀ steps p, Run o steps p → p.scheduler.settings.CanPause) ∧
      (config.errors ≠ [] → start config world = .error (.invalidConfig config.errors)) ∧
      (config.errors = [] → maxPermits < config.probe.concurrency.toNat →
        start config world = .error .tooManyPermits) := by
  refine ⟨⟨?_, ?_⟩, ?_, start_of_errors config world, start_of_many config world⟩
  · rintro ⟨o, records, hstart⟩
    obtain ⟨hvalid, hpermits⟩ := valid_of_start hstart
    exact ⟨config.errors_eq_nil_iff.mpr hvalid, hpermits⟩
  · rintro ⟨herrors, hpermits⟩
    obtain ⟨o, records, hstart, -⟩ := start_of_valid config world (config.errors_eq_nil_iff.mp herrors) hpermits
    exact ⟨o, records, hstart⟩
  · intro o records hstart
    exact ⟨(evolves_of_start hstart).config, populated_of_start hstart, fun _ _ => canPause_of_start hstart⟩

/-- The validation finds nothing wrong with a number of permits that is too large to start with. -/
theorem valid_with_too_many_permits :
    let config : Config := { Config.bare with probe := { concurrency := 2305843009213693952 } }
    config.errors = [] ∧ start config World.desert = .error .tooManyPermits := by
  intro config
  have herrors : config.errors = [] := by decide +kernel
  have hpermits : maxPermits < config.probe.concurrency.toNat := by decide +kernel
  exact ⟨herrors, start_of_many config _ herrors hpermits⟩

end Observatory

end OutboundWatch
