import Mathlib.Data.List.Induction
import OutboundWatch.Proofs.Ranking

/-!
# The order of a published ranking

The published entries ascend by ranking key and, under one key, by tag. As every tag is ranked once, they are
determined by what the members map each tag to, in whatever order the members were stored.
-/

namespace OutboundWatch

namespace Status

variable {a b : Status}

lemma rankLe_iff : a.rankLe b = true ↔ a.lastDuration.nanos < b.lastDuration.nanos ∨
    (a.lastDuration.nanos = b.lastDuration.nanos ∧ a.tag ≤ b.tag) := by
  simp [rankLe]

lemma rankLe_trans (a b c : Status) (hab : a.rankLe b = true) (hbc : b.rankLe c = true) :
    a.rankLe c = true := by
  rw [rankLe_iff] at hab hbc ⊢
  rcases hab with hab | ⟨hab, htag⟩
  · have hkey : a.lastDuration.nanos < c.lastDuration.nanos := by omega
    exact .inl hkey
  · rcases hbc with hbc | ⟨hbc, htag'⟩
    · have hkey : a.lastDuration.nanos < c.lastDuration.nanos := by omega
      exact .inl hkey
    · exact .inr ⟨hab.trans hbc, String.le_trans htag htag'⟩

lemma rankLe_total (a b : Status) : (a.rankLe b || b.rankLe a) = true := by
  rw [Bool.or_eq_true, rankLe_iff, rankLe_iff]
  have htag := String.le_total a.tag b.tag
  by_cases hkey : a.lastDuration.nanos = b.lastDuration.nanos
  · rcases htag with htag | htag
    · exact .inl (.inr ⟨hkey, htag⟩)
    · exact .inr (.inr ⟨hkey.symm, htag⟩)
  · omega

lemma tag_eq_of_rankLe (hab : a.rankLe b = true) (hba : b.rankLe a = true) : a.tag = b.tag := by
  rw [rankLe_iff] at hab hba
  have hle : a.tag ≤ b.tag := by
    rcases hab with hkey | ⟨-, htag⟩
    · omega
    · exact htag
  have hge : b.tag ≤ a.tag := by
    rcases hba with hkey | ⟨-, htag⟩
    · omega
    · exact htag
  exact String.le_antisymm hle hge

lemma lastDuration_le_of_rankLe (hab : a.rankLe b = true) : a.lastDuration ≤ b.lastDuration := by
  rw [rankLe_iff] at hab
  rw [Span.le_def]
  omega

end Status

namespace RankingTable

/-- The snapshot lists the members, each under its own tag and in ranking order. -/
structure Published (table : RankingTable) : Prop extends table.Faithful where
  ascending : table.snapshot.entries.Pairwise fun a b => a.rankLe b = true

lemma published_empty : RankingTable.empty.Published := ⟨faithful_empty, .nil⟩

theorem Published.apply {table : RankingTable} (h : table.Published) (batch : List TableUpdate) :
    (table.apply batch).1.Published := by
  refine ⟨h.toFaithful.apply batch, ?_⟩
  rw [fst_apply]
  split
  · exact List.pairwise_mergeSort Status.rankLe_trans Status.rankLe_total _
  · exact h.ascending

/-- A table with those members of another one whose tags are kept publishes their entries in the same order. -/
theorem Published.entries_filter {table other : RankingTable} (h : table.Published) (h' : other.Published)
    (keep : String → Bool)
    (hmembers : ∀ tag, other.members.get? tag = if keep tag then table.members.get? tag else none) :
    other.snapshot.entries = table.snapshot.entries.filter fun s => keep s.tag := by
  have hmem : ∀ s, s ∈ other.snapshot.entries ↔ s ∈ table.snapshot.entries.filter fun s => keep s.tag := by
    intro s
    rw [h'.mem_entries_iff, hmembers, List.mem_filter, h.mem_entries_iff]
    cases keep s.tag <;> simp
  have hperm : other.snapshot.entries.Perm (table.snapshot.entries.filter fun s => keep s.tag) :=
    (List.perm_ext_iff_of_nodup h'.nodup_tags.of_map (h.nodup_tags.of_map.filter _)).mpr hmem
  refine hperm.eq_of_pairwise (fun a b ha hb hab hba => ?_) h'.ascending (h.ascending.filter _)
  have htag := Status.tag_eq_of_rankLe hab hba
  have hmember := (h'.mem_entries_iff a).mp ha
  have hmember' := (h'.mem_entries_iff b).mp ((hmem b).mpr hb)
  rw [htag, hmember'] at hmember
  exact (Option.some.inj hmember).symm

/-- Tables with the same members publish the same entries in the same order. -/
theorem Published.entries_eq {table other : RankingTable} (h : table.Published) (h' : other.Published)
    (hmembers : ∀ tag, table.members.get? tag = other.members.get? tag) :
    table.snapshot.entries = other.snapshot.entries := by
  simpa using h'.entries_filter h (fun _ => true) fun tag => by simpa using hmembers tag

lemma Published.rankLe_of_first {table : RankingTable} (h : table.Published) {first s : Status}
    (hfirst : table.snapshot.first? = some first) (hs : s ∈ table.snapshot.entries) :
    first.rankLe s = true := by
  obtain ⟨rest, hentries⟩ := List.head?_eq_some_iff.mp hfirst
  have hascending := h.ascending
  rw [hentries] at hs hascending
  rcases List.mem_cons.mp hs with rfl | hrest
  · simpa using Status.rankLe_total s s
  · exact List.rel_of_pairwise_cons hascending hrest

/-- The table after some batches. -/
def ofBatches (batches : List (List TableUpdate)) : RankingTable :=
  batches.foldl (fun table batch => (table.apply batch).1) empty

lemma ofBatches_append_singleton (batches : List (List TableUpdate)) (batch : List TableUpdate) :
    ofBatches (batches ++ [batch]) = ((ofBatches batches).apply batch).1 := by
  simp [ofBatches]

theorem published_ofBatches (batches : List (List TableUpdate)) : (ofBatches batches).Published := by
  induction batches using List.reverseRecOn with
  | nil => exact published_empty
  | append_singleton batches batch ih =>
    rw [ofBatches_append_singleton]
    exact ih.apply batch

/-- However updates are cut into batches, they change the members one after the other. -/
theorem members_ofBatches (batches : List (List TableUpdate)) :
    (ofBatches batches).members = batches.flatten.foldl step TagMap.empty := by
  induction batches using List.reverseRecOn with
  | nil => rfl
  | append_singleton batches batch ih =>
    rw [ofBatches_append_singleton, members_apply, ih, List.flatten_append, List.foldl_append,
      List.flatten_singleton]

end RankingTable

end OutboundWatch
