/-!
# Maps keyed by candidate tag

A list of entries with distinct tags. Looking a tag up after an insertion or a removal is described
by the lemmas below; nothing else depends on the order of the entries.
-/

namespace OutboundWatch

/-- A finite map from tags. -/
structure TagMap (α : Type) where
  entries : List (String × α)
  nodup : (entries.map Prod.fst).Nodup

namespace TagMap

variable {α κ : Type} [DecidableEq κ]

def empty : TagMap α := ⟨[], by simp⟩

instance : Inhabited (TagMap α) := ⟨empty⟩

def tags (m : TagMap α) : List String := m.entries.map Prod.fst

def values (m : TagMap α) : List α := m.entries.map Prod.snd

def size (m : TagMap α) : Nat := m.entries.length

def isEmpty (m : TagMap α) : Bool := m.entries.isEmpty

def get? (m : TagMap α) (tag : String) : Option α := m.entries.lookup tag

def contains (m : TagMap α) (tag : String) : Bool := (m.get? tag).isSome

/-- The entries with the value of one key replaced. -/
def replaceIn (key : κ) (value : α) (entries : List (κ × α)) : List (κ × α) :=
  entries.map fun e => if e.1 = key then (key, value) else e

theorem map_fst_replaceIn (tag : κ) (value : α) (entries : List (κ × α)) :
    (replaceIn tag value entries).map Prod.fst = entries.map Prod.fst := by
  rw [replaceIn, List.map_map]
  refine List.map_congr_left fun e _ => ?_
  by_cases h : e.1 = tag <;> simp [h]

theorem lookup_eq_none_iff {tag : String} {entries : List (String × α)} :
    entries.lookup tag = none ↔ tag ∉ entries.map Prod.fst := by
  simp only [List.lookup_eq_none_iff, bne_iff_ne, List.mem_map, not_exists, not_and]
  exact forall₂_congr fun e _ => ne_comm

/-- The map in which `tag` has the given value. -/
def insert (m : TagMap α) (tag : String) (value : α) : TagMap α :=
  if h : m.entries.lookup tag = none then
    ⟨m.entries ++ [(tag, value)], by
      have hmem := lookup_eq_none_iff.1 h
      have hnodup := m.nodup
      rw [List.map_append, List.nodup_append]
      refine ⟨hnodup, by simp, ?_⟩
      intro a ha b hb hab
      simp only [List.map_cons, List.map_nil, List.mem_singleton] at hb
      exact hmem (by rw [← hb, ← hab]; exact ha)⟩
  else
    ⟨replaceIn tag value m.entries, by rw [map_fst_replaceIn]; exact m.nodup⟩

/-- The map without `tag`. -/
def erase (m : TagMap α) (tag : String) : TagMap α :=
  ⟨m.entries.filter fun e => decide (e.1 ≠ tag),
    m.nodup.sublist (List.filter_sublist.map Prod.fst)⟩

theorem lookup_cons (key : κ) (e : κ × α) (rest : List (κ × α)) :
    (e :: rest).lookup key = if key = e.1 then some e.2 else rest.lookup key := by
  obtain ⟨k, v⟩ := e
  rw [List.lookup_cons]
  by_cases h : key = k
  · simp [h]
  · have hb : (key == k) = false := beq_false_of_ne h
    simp only [hb, if_neg h]

theorem lookup_replaceIn (key tag : κ) (value : α) (entries : List (κ × α)) :
    (replaceIn tag value entries).lookup key =
      if key = tag then (entries.lookup tag).map fun _ => value else entries.lookup key := by
  induction entries with
  | nil => simp [replaceIn]
  | cons e rest ih =>
    have hcons : replaceIn tag value (e :: rest) =
        (if e.1 = tag then (tag, value) else e) :: replaceIn tag value rest := rfl
    rw [hcons, lookup_cons, ih, lookup_cons, lookup_cons]
    by_cases htag : tag = e.1
    · rw [if_pos htag.symm, if_pos htag, htag]
      by_cases hkey : key = e.1 <;> simp [hkey]
    · rw [if_neg (Ne.symm htag), if_neg htag]
      by_cases hkey : key = tag
      · simp [hkey, htag]
      · simp [hkey]

/-- Entries of other keys do not matter. -/
theorem lookup_filter (p : κ → Bool) (key : κ) (entries : List (κ × α)) :
    (entries.filter fun e => p e.1).lookup key = if p key then entries.lookup key else none := by
  induction entries with
  | nil => simp
  | cons e rest ih =>
    rw [List.filter_cons, lookup_cons]
    by_cases hkey : key = e.1
    · subst hkey
      cases hp : p e.1 <;> simp [hp, ih, lookup_cons]
    · cases hp : p e.1 <;> simp [hkey, ih, lookup_cons]

@[simp] theorem get?_empty (tag : String) : (empty : TagMap α).get? tag = none := rfl

theorem get?_insert (m : TagMap α) (tag key : String) (value : α) :
    (m.insert tag value).get? key = if key = tag then some value else m.get? key := by
  unfold insert get?
  by_cases h : m.entries.lookup tag = none
  · rw [dif_pos h]
    simp only [List.lookup_append]
    by_cases hk : key = tag
    · subst hk; simp [h]
    · have hb : (key == tag) = false := by simpa using hk
      simp [List.lookup_cons, hb, hk]
  · rw [dif_neg h]
    simp only [lookup_replaceIn]
    by_cases hk : key = tag
    · obtain ⟨v, hv⟩ := Option.ne_none_iff_exists'.1 h
      simp [hk, hv]
    · simp [hk]

theorem get?_erase (m : TagMap α) (tag key : String) :
    (m.erase tag).get? key = if key = tag then none else m.get? key := by
  have hfiltered := lookup_filter (fun k => decide (k ≠ tag)) key m.entries
  refine hfiltered.trans ?_
  by_cases h : key = tag <;> simp [h, get?]

theorem mem_tags_iff (m : TagMap α) (tag : String) : tag ∈ m.tags ↔ m.get? tag ≠ none := by
  unfold tags get?
  rw [Ne, lookup_eq_none_iff]
  simp

theorem nodup_tags (m : TagMap α) : m.tags.Nodup := m.nodup

def sortedTags (m : TagMap α) : List String := m.tags.mergeSort fun a b => decide (a ≤ b)

end TagMap

end OutboundWatch
