import OutboundWatch.Proofs.History

/-!
# What readers see of the ranking

The ranking table is called with batches, and readers take its snapshot at any time. Every snapshot is the ranking
of all members, and it is known by its version: a call that changes something publishes the next version, and
another call publishes nothing. What a reader has taken stays what it was when it was taken.
-/

namespace OutboundWatch

namespace Status

/-- The place of `a` in the ranking is before that of `b`. -/
def RanksBefore (a b : Status) : Prop :=
  a.lastDuration < b.lastDuration ∨ (a.lastDuration = b.lastDuration ∧ a.tag < b.tag)

lemma ranksBefore_of_rankLe {a b : Status} (hle : a.rankLe b = true) (htag : a.tag ≠ b.tag) : a.RanksBefore b := by
  rw [rankLe_iff] at hle
  rcases hle with hkey | ⟨hkey, hle⟩
  · exact .inl hkey
  · exact .inr ⟨Span.ext_nanos hkey, String.not_le.mp fun hge => htag (String.le_antisymm hle hge)⟩

end Status

/-- Whether an update takes effect after a history of updates: a registration does, an observation if it says
something new of the registration that stands, and a removal if it is of that registration. -/
def TableUpdate.TakesEffect (history : List TableUpdate) : TableUpdate → Prop
  | .register _ _ => True
  | .observe status => ∃ e, Stands history status.tag e ∧ e.generation = status.generation ∧ e ≠ status
  | .remove tag generation => ∃ e, Stands history tag e ∧ e.generation = generation

/-- A call of the table, or a reader that takes the snapshot. -/
inductive TableCall where
  | apply (batch : List TableUpdate)
  | read

/-- The updates of some calls, in order. -/
def updatesOf (calls : List TableCall) : List TableUpdate :=
  calls.flatMap fun call =>
    match call with
    | .apply batch => batch
    | .read => []

/-- A table with the answers of its calls and the snapshots that readers have taken, each in order. -/
structure ReadTable where
  table : RankingTable
  answers : List Bool
  taken : List Snapshot

namespace RankingTable

variable {table : RankingTable}

lemma Published.strictly_ascending (h : table.Published) :
    table.snapshot.entries.Pairwise Status.RanksBefore := by
  have hdistinct : table.snapshot.entries.Pairwise fun a b => a.tag ≠ b.tag := List.pairwise_map.mp h.nodup_tags
  exact (h.ascending.and hdistinct).imp fun hpair => Status.ranksBefore_of_rankLe hpair.1 hpair.2

/-- The members make the same ranking in whatever order they come. -/
theorem Published.build_eq (h : table.Published) {values : List Status} (hvalues : values.Perm table.members.values) :
    Snapshot.build table.snapshot.version values = table.snapshot := by
  have hperm : (values.mergeSort Status.rankLe).Perm table.snapshot.entries :=
    (List.mergeSort_perm _ _).trans (hvalues.trans h.published.symm)
  have hsorted : (values.mergeSort Status.rankLe).Pairwise fun a b => a.rankLe b = true :=
    List.pairwise_mergeSort Status.rankLe_trans Status.rankLe_total _
  have hentries : values.mergeSort Status.rankLe = table.snapshot.entries := by
    refine hperm.eq_of_pairwise (fun a b ha hb hab hba => ?_) hsorted h.ascending
    have htag := Status.tag_eq_of_rankLe hab hba
    exact List.inj_on_of_nodup_map h.nodup_tags (hperm.mem_iff.mp ha) hb htag
  rw [Snapshot.build, hentries]

/-- The best entries are the first ones. -/
lemma Published.top_smallest (h : table.Published) (n : Nat) :
    (table.snapshot.top n).length = min n table.snapshot.size ∧
      table.snapshot.top n <+: table.snapshot.entries ∧
      ∀ a ∈ table.snapshot.top n, ∀ b ∈ table.snapshot.entries, b ∉ table.snapshot.top n → a.RanksBefore b := by
  refine ⟨List.length_take, List.take_prefix n _, fun a ha b hb hout => ?_⟩
  have hsplit := h.strictly_ascending
  rw [← List.take_append_drop n table.snapshot.entries, List.pairwise_append] at hsplit
  rw [← List.take_append_drop n table.snapshot.entries, List.mem_append] at hb
  exact hsplit.2.2 a ha b (hb.resolve_left hout)

/-- Where a tag is in the ranking, its entry is, and both are there for the members. -/
lemma Published.position_of_member (h : table.Published) (tag : String) :
    table.snapshot.get? tag = ((table.snapshot.position? tag).bind fun i => table.snapshot.entries[i]?) ∧
      (table.snapshot.position? tag = none ↔ table.members.get? tag = none) := by
  have hget : table.snapshot.get? tag =
      (table.snapshot.position? tag).bind fun i => table.snapshot.entries[i]? :=
    List.find?_eq_bind_findIdx?_getElem?
  refine ⟨hget, ?_⟩
  rw [← h.get?_snapshot, Snapshot.position?, Snapshot.get?, List.findIdx?_eq_none_iff, List.find?_eq_none]
  simp

lemma snd_apply (table : RankingTable) (batch : List TableUpdate) :
    (table.apply batch).2 = (applyAll table.members batch).2 := by
  unfold apply
  cases h : (applyAll table.members batch).2 <;> simp [h]

lemma apply_of_unchanged {batch : List TableUpdate} (h : (table.apply batch).2 = false) :
    (table.apply batch).1 = table := by
  rw [fst_apply, ← snd_apply, h]
  rfl

lemma version_of_changed {batch : List TableUpdate} (h : (table.apply batch).2 = true) :
    (table.apply batch).1.snapshot.version = table.snapshot.version + 1 := by
  rw [fst_apply, ← snd_apply, h]
  rfl

lemma takesEffect_history (history : List TableUpdate) (update : TableUpdate) :
    takesEffect (history.foldl step TagMap.empty) update = true ↔ update.TakesEffect history := by
  cases update with
  | register tag generation => exact ⟨fun _ => trivial, fun _ => rfl⟩
  | observe status =>
    simp only [takesEffect, TableUpdate.TakesEffect, ← get?_history]
    cases (history.foldl step TagMap.empty).get? status.tag <;> simp
  | remove tag generation =>
    simp only [takesEffect, TableUpdate.TakesEffect, ← get?_history]
    cases (history.foldl step TagMap.empty).get? tag <;> simp

/-- A batch changes something if one of its updates takes effect where it stands. -/
theorem snd_applyAll_history (history batch : List TableUpdate) :
    (applyAll (history.foldl step TagMap.empty) batch).2 = true ↔
      ∃ earlier update later, batch = earlier ++ update :: later ∧ update.TakesEffect (history ++ earlier) := by
  induction batch generalizing history with
  | nil => simp [applyAll]
  | cons update rest ih =>
    have hrest := ih (history ++ [update])
    rw [List.foldl_append, List.foldl_cons, List.foldl_nil] at hrest
    rw [applyAll, Bool.or_eq_true, takesEffect_history, hrest]
    constructor
    · rintro (hfirst | ⟨earlier, later, others, rfl, heffect⟩)
      · exact ⟨[], update, rest, rfl, by rwa [List.append_nil]⟩
      · exact ⟨update :: earlier, later, others, rfl, by rwa [List.append_cons]⟩
    · rintro ⟨earlier, other, later, hbatch, heffect⟩
      cases earlier with
      | nil =>
        cases hbatch
        rw [List.append_nil] at heffect
        exact .inl heffect
      | cons first earlier =>
        obtain ⟨rfl, rfl⟩ := List.cons.inj hbatch
        rw [List.append_cons] at heffect
        exact .inr ⟨earlier, other, later, rfl, heffect⟩

end RankingTable

namespace ReadTable

def start : ReadTable := ⟨RankingTable.empty, [], []⟩

def call (r : ReadTable) : TableCall → ReadTable
  | .apply batch =>
    let (table, changed) := r.table.apply batch
    { r with table := table, answers := r.answers ++ [changed] }
  | .read => { r with taken := r.taken ++ [r.table.snapshot] }

def afterCalls (calls : List TableCall) : ReadTable := calls.foldl call start

lemma afterCalls_append_singleton (calls : List TableCall) (last : TableCall) :
    afterCalls (calls ++ [last]) = (afterCalls calls).call last := by
  simp [afterCalls]

/-- The snapshots that were taken are known by their versions, and none is newer than the published one. -/
structure Versioned (r : ReadTable) : Prop where
  published : r.table.Published
  counted : r.table.snapshot.version = r.answers.count true
  latest : ∀ s ∈ r.taken, s.version ≤ r.table.snapshot.version ∧
    (s.version = r.table.snapshot.version → s = r.table.snapshot)
  ordered : r.taken.Pairwise fun a b => a.version ≤ b.version ∧ (a.version = b.version → a = b)

namespace Versioned

variable {r : ReadTable}

lemma apply (h : r.Versioned) (batch : List TableUpdate) : (r.call (.apply batch)).Versioned := by
  refine ⟨h.published.apply batch, ?_, fun s hs => ?_, h.ordered⟩
  · simp only [call]
    rw [List.count_append, ← h.counted]
    cases hchanged : (r.table.apply batch).2 with
    | false =>
      rw [RankingTable.apply_of_unchanged hchanged]
      rfl
    | true =>
      rw [RankingTable.version_of_changed hchanged]
      rfl
  · obtain ⟨hle, hsame⟩ := h.latest s hs
    simp only [call]
    cases hchanged : (r.table.apply batch).2 with
    | false =>
      rw [RankingTable.apply_of_unchanged hchanged]
      exact ⟨hle, hsame⟩
    | true =>
      rw [RankingTable.version_of_changed hchanged]
      exact ⟨Nat.le_succ_of_le hle, fun heq => by omega⟩

lemma read (h : r.Versioned) : (r.call .read).Versioned := by
  refine ⟨h.published, h.counted, fun s hs => ?_, ?_⟩
  · rcases List.mem_append.mp hs with hold | hnew
    · exact h.latest s hold
    · obtain rfl := List.mem_singleton.mp hnew
      exact ⟨Nat.le_refl _, fun _ => rfl⟩
  · refine List.pairwise_append.mpr ⟨h.ordered, List.pairwise_singleton _ _, fun a ha b hb => ?_⟩
    obtain rfl := List.mem_singleton.mp hb
    exact h.latest a ha

end Versioned

theorem versioned_afterCalls (calls : List TableCall) : (afterCalls calls).Versioned := by
  induction calls using List.reverseRecOn with
  | nil => exact ⟨RankingTable.published_empty, rfl, fun s hs => (by cases hs), .nil⟩
  | append_singleton calls last ih =>
    rw [afterCalls_append_singleton]
    cases last with
    | apply batch => exact ih.apply batch
    | read => exact ih.read

lemma members_afterCalls (calls : List TableCall) :
    (afterCalls calls).table.members = (updatesOf calls).foldl RankingTable.step TagMap.empty := by
  induction calls using List.reverseRecOn with
  | nil => rfl
  | append_singleton calls last ih =>
    rw [afterCalls_append_singleton, updatesOf, List.flatMap_append, List.foldl_append, ← updatesOf, ← ih]
    cases last with
    | apply batch => simp [call, RankingTable.members_apply]
    | read => rfl

lemma taken_kept (r : ReadTable) (calls : List TableCall) : r.taken <+: (calls.foldl call r).taken := by
  induction calls generalizing r with
  | nil => exact List.prefix_rfl
  | cons first rest ih =>
    have hfirst : r.taken <+: (r.call first).taken := by
      cases first with
      | apply batch => exact List.prefix_rfl
      | read => exact List.prefix_append _ _
    exact hfirst.trans (ih _)

/-- What was read stays what the table had published at that time. -/
theorem taken_of_read (earlier later : List TableCall) :
    (afterCalls (earlier ++ .read :: later)).taken[(afterCalls earlier).taken.length]? =
      some (afterCalls earlier).table.snapshot := by
  have htaken := ((afterCalls earlier).call .read).taken_kept later
  have hcalls : afterCalls (earlier ++ .read :: later) = later.foldl call ((afterCalls earlier).call .read) := by
    rw [afterCalls, List.foldl_append]
    rfl
  rw [hcalls]
  obtain ⟨more, hmore⟩ := htaken
  rw [← hmore]
  simp [call]

/-- After any calls of a table and any readings in between: the published entries are the statuses of the members,
each tag once and strictly ascending, in whatever order the members are kept. The version is the number of calls
that have changed something. A call changes something exactly if one of its updates takes effect in its place, and
else it leaves the snapshot. Of the snapshots that readers have taken, later ones have no smaller version, those of
one version are the same, and each stays what it was when it was taken. The best entries are the smallest ones,
and a tag has an entry at its position exactly if it is a member. -/
theorem snapshots_of_calls (calls : List TableCall) :
    let r := afterCalls calls
    let published := r.table.snapshot
    (published.entries.Perm r.table.members.values ∧ (published.entries.map Status.tag).Nodup ∧
        published.entries.Pairwise Status.RanksBefore ∧
        ∀ values : List Status, values.Perm r.table.members.values →
          Snapshot.build published.version values = published) ∧
      published.version = r.answers.count true ∧
      (∀ batch,
        ((r.table.apply batch).2 = true ↔ ∃ earlier update later, batch = earlier ++ update :: later ∧
          update.TakesEffect (updatesOf calls ++ earlier)) ∧
        ((r.table.apply batch).2 = false → (r.table.apply batch).1.snapshot = published)) ∧
      (r.taken.Pairwise fun a b => a.version ≤ b.version ∧ (a.version = b.version → a = b)) ∧
      (∀ earlier later, calls = earlier ++ .read :: later →
        r.taken[(afterCalls earlier).taken.length]? = some (afterCalls earlier).table.snapshot) ∧
      (∀ n, (published.top n).length = min n published.size ∧ published.top n <+: published.entries ∧
        ∀ a ∈ published.top n, ∀ b ∈ published.entries, b ∉ published.top n → a.RanksBefore b) ∧
      ∀ tag, published.get? tag = ((published.position? tag).bind fun i => published.entries[i]?) ∧
        (published.get? tag = none ↔ r.table.members.get? tag = none) ∧
        (published.position? tag = none ↔ r.table.members.get? tag = none) := by
  intro r published
  have h : r.Versioned := versioned_afterCalls calls
  refine ⟨⟨h.published.published, h.published.nodup_tags, h.published.strictly_ascending, fun values hvalues => ?_⟩,
    h.counted, fun batch => ⟨?_, fun hsame => ?_⟩, h.ordered, ?_, h.published.top_smallest, fun tag => ?_⟩
  · exact h.published.build_eq hvalues
  · rw [RankingTable.snd_apply, show r.table.members = _ from members_afterCalls calls]
    exact RankingTable.snd_applyAll_history (updatesOf calls) batch
  · rw [RankingTable.apply_of_unchanged hsame]
  · rintro earlier later rfl
    exact taken_of_read earlier later
  · obtain ⟨hget, hposition⟩ := h.published.position_of_member tag
    exact ⟨hget, by rw [h.published.get?_snapshot], hposition⟩

/-- A reader that took the snapshot before a late removal keeps an entry that is not a member any more. -/
theorem snapshot_kept_over_removal :
    let before := [.apply [.register "a" 1, .register "b" 2], .apply [.remove "a" 2]]
    let calls := before ++ .read :: [.apply [.remove "a" 1], .read]
    (afterCalls calls).table.snapshot.version = 2 ∧
      (afterCalls calls).taken[0]? = some (afterCalls before).table.snapshot ∧
      (afterCalls before).table.snapshot.get? "a" = some (Status.untested "a" 1) ∧
      (afterCalls calls).table.snapshot.position? "a" = none := by
  intro before calls
  obtain ⟨-, hversion, -, -, htaken, -, hplaces⟩ := snapshots_of_calls calls
  have hanswers : (afterCalls calls).answers.count true = 2 := by decide +kernel
  have hmember : (afterCalls before).table.members.get? "a" = some (Status.untested "a" 1) := by decide +kernel
  have hgone : (afterCalls calls).table.members.get? "a" = none := by decide +kernel
  have hlisted := (versioned_afterCalls before).published.get?_snapshot "a"
  exact ⟨hversion.trans hanswers, htaken before _ rfl, hlisted.trans hmember, (hplaces "a").2.2.mpr hgone⟩

end ReadTable

end OutboundWatch
