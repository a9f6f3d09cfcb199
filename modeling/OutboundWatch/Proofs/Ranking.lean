import Mathlib.Data.List.Perm.Basic
import OutboundWatch.Proofs.Tags
import OutboundWatch.Ranking.Table

/-!
# What the ranking table publishes

The published snapshot lists the member statuses, each under its own tag, after any batches. What a batch
does to the members is the effect of its updates one after the other; observations alone replace statuses
and neither add nor remove one.
-/

namespace OutboundWatch

/-- The status that stands for a registration after an update is seen. -/
def Status.supersede (s : Status) : TableUpdate → Status
  | .observe later => if later.tag = s.tag ∧ later.generation = s.generation then later else s
  | _ => s

namespace Status

@[simp] lemma generation_supersede (s : Status) (update : TableUpdate) :
    (s.supersede update).generation = s.generation := by
  cases update with
  | observe later => by_cases h : later.tag = s.tag ∧ later.generation = s.generation <;> simp [supersede, h]
  | register _ _ => rfl
  | remove _ _ => rfl

@[simp] lemma generation_foldl_supersede (s : Status) (batch : List TableUpdate) :
    (batch.foldl supersede s).generation = s.generation := by
  induction batch generalizing s with
  | nil => rfl
  | cons update rest ih => simp [ih]

end Status

/-- Whether an update is an observation. -/
def TableUpdate.IsObservation : TableUpdate → Prop
  | .observe _ => True
  | _ => False

namespace RankingTable

lemma step_register (members : TagMap Status) (tag : String) (generation : Nat) :
    step members (.register tag generation) = members.insert tag (Status.untested tag generation) := by
  simp [step, takesEffect]

lemma get?_step_remove (members : TagMap Status) (tag key : String) (generation : Nat) :
    (step members (.remove tag generation)).get? key =
      (members.get? key).filter fun e => !decide (key = tag ∧ e.generation = generation) := by
  by_cases hkey : key = tag
  · subst hkey
    cases hmember : members.get? key with
    | none => simp [step, takesEffect, hmember]
    | some e =>
      by_cases hgen : e.generation = generation <;>
        simp [step, takesEffect, hmember, hgen, TagMap.get?_erase, Option.filter]
  · have hkeep : (step members (.remove tag generation)).get? key = members.get? key := by
      unfold step
      split
      · simp [TagMap.get?_erase, hkey]
      · rfl
    rw [hkeep]
    cases members.get? key <;> simp [hkey, Option.filter]

lemma get?_step_observe {members : TagMap Status} (hkeyed : members.KeyedBy Status.tag) (later : Status)
    (key : String) :
    (step members (.observe later)).get? key =
      (members.get? key).map fun e => e.supersede (.observe later) := by
  by_cases hkey : key = later.tag
  · subst hkey
    cases hmember : members.get? later.tag with
    | none => simp [step, takesEffect, hmember]
    | some e =>
      have htag : later.tag = e.tag := (hkeyed _ _ hmember).symm
      by_cases hgen : e.generation = later.generation
      · by_cases hsame : e = later
        · simp [step, takesEffect, hmember, hsame, Status.supersede]
        · simp [step, takesEffect, hmember, hgen, hsame, Status.supersede, TagMap.get?_insert, ← htag]
      · have hgen' : ¬later.generation = e.generation := fun h => hgen h.symm
        simp [step, takesEffect, hmember, hgen, hgen', Status.supersede]
  · have hkeep : (step members (.observe later)).get? key = members.get? key := by
      unfold step
      split
      · simp [TagMap.get?_insert, hkey]
      · rfl
    rw [hkeep]
    cases hmember : members.get? key with
    | none => rfl
    | some e =>
      have htag : ¬later.tag = e.tag := by
        rw [hkeyed _ _ hmember]
        exact fun h => hkey h.symm
      simp [Status.supersede, htag]

lemma keyedBy_step {members : TagMap Status} (h : members.KeyedBy Status.tag) (update : TableUpdate) :
    (step members update).KeyedBy Status.tag := by
  unfold step
  split
  · cases update with
    | register tag generation => exact h.insert (Status.untested tag generation)
    | observe status => exact h.insert status
    | remove tag generation => exact h.erase tag
  · exact h

lemma keyedBy_foldl_step {members : TagMap Status} (h : members.KeyedBy Status.tag)
    (batch : List TableUpdate) : (batch.foldl step members).KeyedBy Status.tag := by
  induction batch generalizing members with
  | nil => exact h
  | cons update rest ih => exact ih (keyedBy_step h update)

/-- Observations alone replace the statuses that they are about, each in its turn. -/
theorem get?_foldl_observations {members : TagMap Status} (hkeyed : members.KeyedBy Status.tag)
    {batch : List TableUpdate} (honly : ∀ u ∈ batch, u.IsObservation) (key : String) :
    (batch.foldl step members).get? key =
      (members.get? key).map fun e => batch.foldl Status.supersede e := by
  induction batch generalizing members with
  | nil => simp
  | cons update rest ih =>
    have hfirst := honly update List.mem_cons_self
    cases update with
    | observe later =>
      rw [List.foldl_cons, ih (keyedBy_step hkeyed _) (fun u hu => honly u (List.mem_cons_of_mem _ hu)),
        get?_step_observe hkeyed, Option.map_map]
      rfl
    | register _ _ => exact hfirst.elim
    | remove _ _ => exact hfirst.elim

lemma fst_applyAll (members : TagMap Status) (batch : List TableUpdate) :
    (applyAll members batch).1 = batch.foldl step members := by
  induction batch generalizing members with
  | nil => rfl
  | cons update rest ih => simp [applyAll, ih]

lemma foldl_step_of_unchanged {members : TagMap Status} {batch : List TableUpdate}
    (h : (applyAll members batch).2 = false) : batch.foldl step members = members := by
  induction batch generalizing members with
  | nil => rfl
  | cons update rest ih =>
    simp only [applyAll, Bool.or_eq_false_iff] at h
    have hstep : step members update = members := by simp [step, h.1]
    rw [List.foldl_cons, hstep]
    rw [hstep] at h
    exact ih h.2

lemma fst_apply (table : RankingTable) (batch : List TableUpdate) :
    (table.apply batch).1 =
      if (applyAll table.members batch).2 then
        ⟨batch.foldl step table.members,
          Snapshot.build (table.snapshot.version + 1) (batch.foldl step table.members).values⟩
      else table := by
  rw [← fst_applyAll]
  unfold apply
  cases h : (applyAll table.members batch).2 <;> simp [h]

theorem members_apply (table : RankingTable) (batch : List TableUpdate) :
    (table.apply batch).1.members = batch.foldl step table.members := by
  rw [fst_apply]
  split
  · rfl
  · rename_i hsame
    exact (foldl_step_of_unchanged (by simpa using hsame)).symm

/-- The published snapshot lists the members, each of which is kept under its own tag. -/
structure Faithful (table : RankingTable) : Prop where
  keyed : table.members.KeyedBy Status.tag
  published : table.snapshot.entries.Perm table.members.values

lemma faithful_empty : RankingTable.empty.Faithful := ⟨.empty, .refl _⟩

theorem Faithful.apply {table : RankingTable} (h : table.Faithful) (batch : List TableUpdate) :
    (table.apply batch).1.Faithful := by
  refine ⟨?_, ?_⟩
  · rw [members_apply]
    exact keyedBy_foldl_step h.keyed batch
  · rw [fst_apply]
    split
    · exact List.mergeSort_perm _ _
    · exact h.published

lemma Faithful.nodup_tags {table : RankingTable} (h : table.Faithful) :
    (table.snapshot.entries.map Status.tag).Nodup :=
  (h.published.map Status.tag).nodup_iff.mpr h.keyed.nodup_values

lemma Faithful.mem_entries_iff {table : RankingTable} (h : table.Faithful) (s : Status) :
    s ∈ table.snapshot.entries ↔ table.members.get? s.tag = some s :=
  h.published.mem_iff.trans (h.keyed.mem_values_iff s)

/-- The snapshot answers for a tag with the member kept under it. -/
theorem Faithful.get?_snapshot {table : RankingTable} (h : table.Faithful) (tag : String) :
    table.snapshot.get? tag = table.members.get? tag := by
  unfold Snapshot.get?
  cases hfound : table.snapshot.entries.find? fun c => c.tag == tag with
  | none =>
    cases hmember : table.members.get? tag with
    | none => rfl
    | some s =>
      have htag := h.keyed _ _ hmember
      have hs : s ∈ table.snapshot.entries := (h.mem_entries_iff s).mpr (by rwa [htag])
      have hnot := List.find?_eq_none.mp hfound s hs
      simp [htag] at hnot
  | some s =>
    have htag : s.tag = tag := by simpa using List.find?_some hfound
    have hmember := (h.mem_entries_iff s).mp (List.mem_of_find?_eq_some hfound)
    rw [← htag, hmember]

end RankingTable

end OutboundWatch
