import Mathlib.Data.List.Nodup
import Mathlib.Tactic.Common
import OutboundWatch.TagMap

/-!
# What a map by tag holds

The entries, values and sorted tags of a map, told by what its tags map to.
-/

namespace OutboundWatch.TagMap

variable {α : Type}

theorem mem_entries_iff (m : TagMap α) (tag : String) (value : α) :
    (tag, value) ∈ m.entries ↔ m.get? tag = some value := by
  obtain ⟨entries, hnodup⟩ := m
  change (tag, value) ∈ entries ↔ entries.lookup tag = some value
  induction entries with
  | nil => simp
  | cons e rest ih =>
    obtain ⟨key, first⟩ := e
    simp only [List.map_cons, List.nodup_cons] at hnodup
    by_cases hkey : tag = key
    · subst hkey
      have hrest : (tag, value) ∉ rest := fun h => hnodup.1 (List.mem_map_of_mem h)
      simp [hrest, eq_comm]
    · have hb : (tag == key) = false := by simpa using hkey
      simp [List.lookup_cons, hb, hkey, ih hnodup.2]

theorem mem_values_iff (m : TagMap α) (value : α) :
    value ∈ m.values ↔ ∃ tag, m.get? tag = some value := by
  unfold values
  constructor
  · intro h
    obtain ⟨⟨tag, v⟩, hmem, rfl⟩ := List.mem_map.mp h
    exact ⟨tag, (m.mem_entries_iff tag v).mp hmem⟩
  · rintro ⟨tag, htag⟩
    exact List.mem_map.mpr ⟨(tag, value), (m.mem_entries_iff tag value).mpr htag, rfl⟩

theorem contains_iff (m : TagMap α) (tag : String) :
    m.contains tag = true ↔ ∃ value, m.get? tag = some value := by
  simp [contains, Option.isSome_iff_exists]

lemma get?_eq_none_of_not_contains {m : TagMap α} {tag : String} (h : ¬m.contains tag = true) :
    m.get? tag = none := by
  simpa [contains] using h

theorem mem_sortedTags_iff (m : TagMap α) (tag : String) :
    tag ∈ m.sortedTags ↔ ∃ value, m.get? tag = some value := by
  rw [sortedTags, List.mem_mergeSort, mem_tags_iff, Option.ne_none_iff_exists']

/-- The sorted tags come in strictly ascending order. -/
theorem sortedTags_ascending (m : TagMap α) : m.sortedTags.Pairwise (· < ·) := by
  have hsorted : m.sortedTags.Pairwise fun a b => decide (a ≤ b) = true :=
    List.pairwise_mergeSort (fun a b c => by simpa using String.le_trans)
      (fun a b => by simpa using String.le_total a b) _
  have hnodup : m.sortedTags.Nodup := (List.mergeSort_perm _ _).nodup_iff.mpr m.nodup_tags
  refine (hsorted.and hnodup).imp ?_
  rintro a b ⟨hle, hne⟩
  exact String.not_le.mp fun hge => hne (String.le_antisymm (of_decide_eq_true hle) hge)

/-- The tags, each with the generation of its value. -/
def generations (m : TagMap α) (generation : α → Nat) : List (String × Nat) :=
  m.entries.map fun e => (e.1, generation e.2)

lemma mem_generations_iff (m : TagMap α) (generation : α → Nat) (tag : String) (n : Nat) :
    (tag, n) ∈ m.generations generation ↔ (m.get? tag).map generation = some n := by
  rw [Option.map_eq_some_iff]
  unfold generations
  constructor
  · intro h
    obtain ⟨⟨key, value⟩, hmem, heq⟩ := List.mem_map.mp h
    cases heq
    exact ⟨value, (m.mem_entries_iff _ _).mp hmem, rfl⟩
  · rintro ⟨value, hvalue, rfl⟩
    exact List.mem_map.mpr ⟨(tag, value), (m.mem_entries_iff tag value).mpr hvalue, rfl⟩

lemma nodup_generations (m : TagMap α) (generation : α → Nat) : (m.generations generation).Nodup := by
  refine List.Nodup.of_map Prod.fst ?_
  simpa [generations, Function.comp_def] using m.nodup

theorem generations_perm {β : Type} {m : TagMap α} {k : TagMap β} {f : α → Nat} {g : β → Nat}
    (h : ∀ tag, (m.get? tag).map f = (k.get? tag).map g) : (m.generations f).Perm (k.generations g) := by
  refine (List.perm_ext_iff_of_nodup (m.nodup_generations f) (k.nodup_generations g)).mpr ?_
  rintro ⟨tag, n⟩
  rw [mem_generations_iff, mem_generations_iff, h]

/-- Every value is kept under its own tag. -/
def KeyedBy (m : TagMap α) (tagOf : α → String) : Prop :=
  ∀ tag value, m.get? tag = some value → tagOf value = tag

namespace KeyedBy

variable {m : TagMap α} {tagOf : α → String}

lemma empty : (TagMap.empty : TagMap α).KeyedBy tagOf := by
  intro tag value h
  simp at h

lemma insert (h : m.KeyedBy tagOf) (value : α) : (m.insert (tagOf value) value).KeyedBy tagOf := by
  intro key other hother
  rw [get?_insert] at hother
  split at hother
  · cases hother
    simp_all
  · exact h key other hother

lemma erase (h : m.KeyedBy tagOf) (tag : String) : (m.erase tag).KeyedBy tagOf := by
  intro key other hother
  rw [get?_erase] at hother
  split at hother
  · cases hother
  · exact h key other hother

lemma map_values (h : m.KeyedBy tagOf) : m.values.map tagOf = m.tags := by
  rw [values, tags, List.map_map]
  refine List.map_congr_left ?_
  rintro ⟨tag, value⟩ he
  exact h tag value ((m.mem_entries_iff tag value).mp he)

lemma map_values_generations (h : m.KeyedBy tagOf) (generation : α → Nat) :
    (m.values.map fun value => (tagOf value, generation value)) = m.generations generation := by
  rw [values, generations, List.map_map]
  refine List.map_congr_left ?_
  rintro ⟨tag, value⟩ he
  rw [Function.comp_apply, h tag value ((m.mem_entries_iff tag value).mp he)]

lemma nodup_values (h : m.KeyedBy tagOf) : (m.values.map tagOf).Nodup := by
  rw [h.map_values]
  exact m.nodup_tags

lemma mem_values_iff (h : m.KeyedBy tagOf) (value : α) :
    value ∈ m.values ↔ m.get? (tagOf value) = some value := by
  rw [TagMap.mem_values_iff]
  constructor
  · rintro ⟨tag, htag⟩
    rwa [h tag value htag]
  · exact fun hv => ⟨_, hv⟩

end KeyedBy

end OutboundWatch.TagMap
