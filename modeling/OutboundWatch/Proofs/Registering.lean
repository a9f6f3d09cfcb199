import Mathlib.Data.List.Range
import OutboundWatch.Proofs.Tags
import OutboundWatch.Registry

/-!
# Histories of a registry

A registry that starts empty answers calls one after another. The generations it hands out count the registrations
of the whole history, what it holds is what was registered last and not removed since, and a refused call leaves
no trace but its answer.
-/

namespace OutboundWatch

variable {σ : Type}

/-- What a call on a registry asks for. -/
inductive RegistryWish where
  | insert (tag : String) (target : ProbeTarget) (source : Option TargetConfig)
  | remove (tag : String)

/-- A call on a registry, perhaps with a hook for what has to change along with it. -/
structure RegistryCall (σ : Type) where
  wish : RegistryWish
  hook : Option (Candidate → σ → σ)

/-- What one run of the hook of a call does, if it has one. -/
def RegistryCall.runHook (call : RegistryCall σ) (candidate : Candidate) (parts : σ) : σ :=
  match call.hook with
  | none => parts
  | some hook => hook candidate parts

inductive RegistryAnswer where
  | inserted (candidate : Candidate)
  | refused (reason : RegistryError)
  | removed (candidate : Candidate)
  | absent

namespace RegistryAnswer

def ofInsertion : Except RegistryError Candidate → RegistryAnswer
  | .ok candidate => .inserted candidate
  | .error reason => .refused reason

def ofRemoval : Option Candidate → RegistryAnswer
  | some candidate => .removed candidate
  | none => .absent

def inserted? : RegistryAnswer → Option Candidate
  | .inserted candidate => some candidate
  | _ => none

/-- Whether a call with this answer has entered or removed a tag. -/
def changes (tag : String) : RegistryAnswer → Bool
  | .inserted candidate => candidate.tag == tag
  | .removed candidate => candidate.tag == tag
  | _ => false

end RegistryAnswer

/-- A registry, the parts that hooks change, and the answers to all calls so far. -/
structure RegistryHistory (σ : Type) where
  registry : Registry
  parts : σ
  answers : List RegistryAnswer

namespace RegistryHistory

def start (parts : σ) : RegistryHistory σ := ⟨Registry.empty, parts, []⟩

/-- A call is answered and does nothing else. -/
def answered (s : RegistryHistory σ) (answer : RegistryAnswer) : RegistryHistory σ :=
  { s with answers := s.answers ++ [answer] }

def call (s : RegistryHistory σ) (c : RegistryCall σ) : RegistryHistory σ :=
  match c.wish, c.hook with
  | .insert tag target source, none =>
    let (registry, result) := s.registry.insert tag target source
    ⟨registry, s.parts, s.answers ++ [.ofInsertion result]⟩
  | .insert tag target source, some hook =>
    let (registry, parts, result) := s.registry.insertWith tag target source hook s.parts
    ⟨registry, parts, s.answers ++ [.ofInsertion result]⟩
  | .remove tag, none =>
    let (registry, removed) := s.registry.remove tag
    ⟨registry, s.parts, s.answers ++ [.ofRemoval removed]⟩
  | .remove tag, some hook =>
    let (registry, parts, removed) := s.registry.removeWith tag hook s.parts
    ⟨registry, parts, s.answers ++ [.ofRemoval removed]⟩

/-- A registry after calls, the first of which finds it empty. -/
def after (parts : σ) (calls : List (RegistryCall σ)) : RegistryHistory σ := calls.foldl call (start parts)

/-- All candidates that were ever registered, in the order of their registrations. -/
def insertions (s : RegistryHistory σ) : List Candidate := s.answers.filterMap RegistryAnswer.inserted?

/-- The last call that entered or removed a tag. -/
def lastChange? (s : RegistryHistory σ) (tag : String) : Option RegistryAnswer :=
  (s.answers.filter (RegistryAnswer.changes tag)).getLast?

/-- The candidate of the latest registration of a tag. -/
def latest? (s : RegistryHistory σ) (tag : String) : Option Candidate :=
  (s.insertions.filter (·.tag == tag)).getLast?

variable {s t : RegistryHistory σ} {tag : String} {c : Candidate}

/-- From `s`, a call that is granted for a candidate leads to `t`: its hook runs with the candidate, and
nothing but the entry of its tag is changed. -/
structure Grants (s : RegistryHistory σ) (call : RegistryCall σ) (candidate : Candidate) (answer : RegistryAnswer)
    (entry : Option Candidate) (t : RegistryHistory σ) : Prop where
  answers : t.answers = s.answers ++ [answer]
  parts : t.parts = call.runHook candidate s.parts
  entries : ∀ key, t.registry.get? key = if key = candidate.tag then entry else s.registry.get? key

/-- From `s`, a call that asks to insert leads to `t`. -/
inductive Inserts (s : RegistryHistory σ) (call : RegistryCall σ) (tag : String) (target : ProbeTarget)
    (source : Option TargetConfig) (t : RegistryHistory σ) : Prop where
  | blank (hblank : ∀ c ∈ tag.toList, isBlank c = true) (same : t = s.answered (.refused .emptyTag))
  | duplicate (hnamed : ∃ c ∈ tag.toList, isBlank c = false) (hpresent : s.registry.get? tag ≠ none)
      (same : t = s.answered (.refused (.duplicate tag)))
  | granted (hnamed : ∃ c ∈ tag.toList, isBlank c = false) (habsent : s.registry.get? tag = none)
      (candidate : Candidate) (hcandidate : candidate = ⟨tag, s.insertions.length + 1, target, source⟩)
      (grants : s.Grants call candidate (.inserted candidate) (some candidate) t)
      (next : t.registry.nextGeneration = s.registry.nextGeneration + 1)

/-- From `s`, a call that asks to remove leads to `t`. -/
inductive Removes (s : RegistryHistory σ) (call : RegistryCall σ) (tag : String) (t : RegistryHistory σ) : Prop where
  | absent (habsent : s.registry.get? tag = none) (same : t = s.answered .absent)
  | granted (candidate : Candidate) (hpresent : s.registry.get? tag = some candidate)
      (hlatest : s.latest? tag = some candidate) (grants : s.Grants call candidate (.removed candidate) none t)
      (next : t.registry.nextGeneration = s.registry.nextGeneration)

/-- From `s`, a call leads to `t`. -/
def Follows (s : RegistryHistory σ) (call : RegistryCall σ) (t : RegistryHistory σ) : Prop :=
  match call.wish with
  | .insert tag target source => s.Inserts call tag target source t
  | .remove tag => s.Removes call tag t

/-- What a registry holds agrees with its history. -/
structure Recorded (s : RegistryHistory σ) : Prop where
  numbered : s.insertions.map Candidate.generation = List.range' 1 s.insertions.length
  next : s.registry.nextGeneration = s.insertions.length + 1
  present : ∀ tag c, s.registry.get? tag = some c ↔ s.lastChange? tag = some (.inserted c)
  latest : ∀ tag c, s.registry.get? tag = some c → s.latest? tag = some c

lemma insertions_append {answer : RegistryAnswer} (h : t.answers = s.answers ++ [answer]) :
    t.insertions = s.insertions ++ answer.inserted?.toList := by
  rw [insertions, h, List.filterMap_append]
  cases answer <;> rfl

lemma lastChange?_append {answer : RegistryAnswer} (h : t.answers = s.answers ++ [answer]) (tag : String) :
    t.lastChange? tag = if answer.changes tag then some answer else s.lastChange? tag := by
  rw [lastChange?, h, List.filter_append]
  cases hchanges : answer.changes tag <;> simp [hchanges, lastChange?]

lemma latest?_append (h : t.insertions = s.insertions ++ [c]) (tag : String) :
    t.latest? tag = if c.tag = tag then some c else s.latest? tag := by
  rw [latest?, h, List.filter_append]
  by_cases htag : c.tag = tag <;> simp [htag, latest?]

/-- A candidate is kept under its own tag. -/
lemma Recorded.tag_eq (h : s.Recorded) (hc : s.registry.get? tag = some c) : c.tag = tag := by
  have hlast := List.mem_of_getLast? ((h.present tag c).mp hc)
  simpa [RegistryAnswer.changes] using (List.mem_filter.mp hlast).2

lemma recorded_start (parts : σ) : (start parts).Recorded where
  numbered := rfl
  next := rfl
  present tag c := by simp [start, Registry.get?, Registry.empty, lastChange?]
  latest tag c := by simp [start, Registry.get?, Registry.empty]

/-- A call that is only answered leaves the registry in agreement with the history. -/
lemma Recorded.answered (h : s.Recorded) {answer : RegistryAnswer} (hinserted : answer.inserted? = none)
    (hchanges : ∀ tag, answer.changes tag = false) : (s.answered answer).Recorded := by
  have hsame : (s.answered answer).insertions = s.insertions := by
    rw [insertions_append (s := s) rfl, hinserted]
    simp
  refine ⟨?_, ?_, fun tag c => ?_, fun tag c hc => ?_⟩
  · rw [hsame]
    exact h.numbered
  · rw [hsame]
    exact h.next
  · rw [lastChange?_append (s := s) rfl, hchanges]
    exact h.present tag c
  · rw [latest?, hsame]
    exact h.latest tag c hc

/-- What a call that asks to insert does, with a hook or without. -/
lemma call_insert (call : RegistryCall σ) {target : ProbeTarget} {source : Option TargetConfig}
    (hwish : call.wish = .insert tag target source) :
    s.call call =
      if isBlankText tag then s.answered (.refused .emptyTag)
      else if s.registry.contains tag then s.answered (.refused (.duplicate tag))
      else
        let candidate : Candidate := ⟨tag, s.registry.nextGeneration, target, source⟩
        ⟨⟨s.registry.candidates.insert tag candidate, s.registry.nextGeneration + 1⟩,
          call.runHook candidate s.parts, s.answers ++ [.inserted candidate]⟩ := by
  obtain ⟨wish, hook⟩ := call
  cases hwish
  unfold RegistryHistory.call RegistryCall.runHook answered
  cases hook <;> simp only [Registry.insert, Registry.insertWith] <;> split_ifs <;> rfl

/-- What a call that asks to remove does, with a hook or without. -/
lemma call_remove (call : RegistryCall σ) (hwish : call.wish = .remove tag) :
    s.call call =
      match s.registry.get? tag with
      | none => s.answered .absent
      | some candidate =>
        ⟨{ s.registry with candidates := s.registry.candidates.erase tag },
          call.runHook candidate s.parts, s.answers ++ [.removed candidate]⟩ := by
  obtain ⟨wish, hook⟩ := call
  cases hwish
  unfold RegistryHistory.call RegistryCall.runHook answered
  cases hook <;> simp only [Registry.remove, Registry.removeWith] <;> cases s.registry.get? tag <;> rfl

lemma Recorded.inserts (h : s.Recorded) (call : RegistryCall σ) {target : ProbeTarget}
    {source : Option TargetConfig} (hwish : call.wish = .insert tag target source) :
    s.Inserts call tag target source (s.call call) := by
  rw [call_insert call hwish]
  split_ifs with hblank hpresent
  · exact .blank (by simpa [isBlankText] using hblank) rfl
  · refine .duplicate (by simpa [isBlankText] using hblank) ?_ rfl
    simpa [Registry.contains, Registry.get?, TagMap.contains, Option.isSome_iff_ne_none] using hpresent
  · refine .granted (by simpa [isBlankText] using hblank) (TagMap.get?_eq_none_of_not_contains hpresent) _ ?_
      ⟨rfl, rfl, fun key => ?_⟩ rfl
    · rw [h.next]
    · exact TagMap.get?_insert _ _ _ _

lemma Recorded.removes (h : s.Recorded) (call : RegistryCall σ) (hwish : call.wish = .remove tag) :
    s.Removes call tag (s.call call) := by
  rw [call_remove call hwish]
  cases hget : s.registry.get? tag with
  | none => exact .absent hget rfl
  | some candidate =>
    refine .granted candidate hget (h.latest tag candidate hget) ⟨rfl, rfl, fun key => ?_⟩ rfl
    rw [h.tag_eq hget]
    exact TagMap.get?_erase _ _ _

theorem Recorded.follows (h : s.Recorded) (call : RegistryCall σ) : s.Follows call (s.call call) := by
  unfold Follows
  split
  · exact h.inserts call ‹_›
  · exact h.removes call ‹_›

lemma Inserts.recorded {call : RegistryCall σ} {target : ProbeTarget} {source : Option TargetConfig}
    (h : s.Recorded) (hinserts : s.Inserts call tag target source t) : t.Recorded := by
  cases hinserts with
  | blank _ same => exact same ▸ h.answered rfl fun _ => rfl
  | duplicate _ _ same => exact same ▸ h.answered rfl fun _ => rfl
  | granted _ _ candidate hcandidate grants next =>
    have hinsertions : t.insertions = s.insertions ++ [candidate] := insertions_append grants.answers
    have hgeneration : candidate.generation = s.insertions.length + 1 := by rw [hcandidate]
    refine ⟨?_, ?_, fun key c => ?_, fun key c hc => ?_⟩
    · rw [hinsertions, List.map_append, h.numbered, List.length_append, List.length_singleton,
        List.range'_concat, List.map_singleton, hgeneration]
      simp [Nat.add_comm]
    · rw [next, h.next, hinsertions, List.length_append, List.length_singleton]
    · rw [grants.entries, lastChange?_append grants.answers]
      by_cases hkey : key = candidate.tag
      · simp [hkey, RegistryAnswer.changes]
      · simpa [hkey, RegistryAnswer.changes, Ne.symm hkey] using h.present key c
    · rw [grants.entries] at hc
      rw [latest?_append hinsertions]
      by_cases hkey : key = candidate.tag
      · rw [if_pos hkey] at hc
        rw [if_pos hkey.symm]
        exact hc
      · rw [if_neg hkey] at hc
        rw [if_neg (Ne.symm hkey)]
        exact h.latest key c hc

lemma Removes.recorded {call : RegistryCall σ} (h : s.Recorded) (hremoves : s.Removes call tag t) :
    t.Recorded := by
  cases hremoves with
  | absent _ same => exact same ▸ h.answered rfl fun _ => rfl
  | granted candidate _ _ grants next =>
    have hinsertions : t.insertions = s.insertions := by
      rw [insertions_append grants.answers]
      exact List.append_nil _
    refine ⟨?_, ?_, fun key c => ?_, fun key c hc => ?_⟩
    · rw [hinsertions]
      exact h.numbered
    · rw [next, hinsertions]
      exact h.next
    · rw [grants.entries, lastChange?_append grants.answers]
      by_cases hkey : key = candidate.tag
      · simp [hkey, RegistryAnswer.changes]
      · simpa [hkey, RegistryAnswer.changes, Ne.symm hkey] using h.present key c
    · rw [grants.entries] at hc
      rw [latest?, hinsertions]
      by_cases hkey : key = candidate.tag
      · simp [hkey] at hc
      · rw [if_neg hkey] at hc
        exact h.latest key c hc

/-- One call keeps the registry in agreement with its history. -/
theorem Recorded.call (h : s.Recorded) (call : RegistryCall σ) : (s.call call).Recorded := by
  have hfollows := h.follows call
  unfold Follows at hfollows
  split at hfollows
  · exact hfollows.recorded h
  · exact hfollows.recorded h

theorem recorded_after (parts : σ) (calls : List (RegistryCall σ)) : (after parts calls).Recorded := by
  suffices h : ∀ s : RegistryHistory σ, s.Recorded → (calls.foldl RegistryHistory.call s).Recorded from
    h _ (recorded_start parts)
  induction calls with
  | nil => exact fun s hs => hs
  | cons call rest ih => exact fun s hs => ih _ (hs.call call)

/-- The generations grow with every registration. -/
lemma Recorded.increasing (h : s.Recorded) :
    s.insertions.Pairwise fun a b => a.generation < b.generation := by
  rw [← List.pairwise_map, h.numbered]
  exact List.pairwise_lt_range'

/-- A registry that has answered calls holds for each tag the candidate of its latest registration, unless that was
removed since. The registrations of its whole history are numbered from 1. The next call is granted for a tag that is
not blank and not present, or present if it is to be removed, with one run of its hook; otherwise it is answered with
the reason and does nothing. -/
theorem calls_recorded (parts : σ) (calls : List (RegistryCall σ)) :
    let s := after parts calls
    (s.insertions.map Candidate.generation = List.range' 1 s.insertions.length ∧
      s.insertions.Pairwise fun a b => a.generation < b.generation) ∧
    (∀ tag c, s.registry.get? tag = some c ↔ s.lastChange? tag = some (.inserted c)) ∧
    (∀ tag c, s.registry.get? tag = some c → s.latest? tag = some c) ∧
    (s.registry.tags.Pairwise (· < ·) ∧ (∀ tag, tag ∈ s.registry.tags ↔ s.registry.contains tag = true) ∧
      s.registry.size = s.registry.tags.length) ∧
    ∀ call, s.Follows call (s.call call) := by
  intro s
  have h : s.Recorded := recorded_after parts calls
  have htags (tag : String) : tag ∈ s.registry.tags ↔ s.registry.contains tag = true := by
    rw [Registry.tags, TagMap.mem_sortedTags_iff, Registry.contains, TagMap.contains_iff]
  have hsize : s.registry.size = s.registry.tags.length := by
    simp [Registry.size, Registry.tags, TagMap.size, TagMap.sortedTags, TagMap.tags]
  exact ⟨⟨h.numbered, h.increasing⟩, h.present, h.latest,
    ⟨s.registry.candidates.sortedTags_ascending, htags, hsize⟩, h.follows⟩

end RegistryHistory

end OutboundWatch
