import OutboundWatch.Proofs.Snapshots

/-!
# What a history of updates leaves in the ranking

A tag is ranked if it has a registration that no removal of the same generation follows, and its entry is what
was observed last of that registration. Everything else in a history, and how it was cut into batches, leaves
no trace in the published entries.
-/

namespace OutboundWatch

/-- The tag that an update is about. -/
def TableUpdate.tag : TableUpdate → String
  | .register tag _ => tag
  | .observe status => status.tag
  | .remove tag _ => tag

/-- The generation that an update is about. -/
def TableUpdate.generation : TableUpdate → Nat
  | .register _ generation => generation
  | .observe status => status.generation
  | .remove _ generation => generation

/-- The last registration of the tag is under the generation, `later` follows it, and no removal of the
generation is in `later`. -/
structure StaysRegistered (updates : List TableUpdate) (tag : String) (generation : Nat)
    (later : List TableUpdate) : Prop where
  registered : ∃ earlier, updates = earlier ++ .register tag generation :: later
  last : ∀ other, .register tag other ∉ later
  kept : .remove tag generation ∉ later

/-- Of the observations of a registration, `s` is the last one; if there is none, `s` is its untested status. -/
def LastObserved (tag : String) (generation : Nat) (updates : List TableUpdate) (s : Status) : Prop :=
  (∃ earlier later, updates = earlier ++ .observe s :: later ∧ s.tag = tag ∧ s.generation = generation ∧
      ∀ next, .observe next ∈ later → ¬(next.tag = tag ∧ next.generation = generation)) ∨
    (s = Status.untested tag generation ∧
      ∀ next, .observe next ∈ updates → ¬(next.tag = tag ∧ next.generation = generation))

/-- The updates leave the tag registered, and `s` is what was observed last of that registration. -/
def Stands (updates : List TableUpdate) (tag : String) (s : Status) : Prop :=
  ∃ generation later, StaysRegistered updates tag generation later ∧ LastObserved tag generation later s

/-- A list without an element of a kind, or cut at the last one. -/
lemma none_or_last {α : Type} (kind : α → Prop) (xs : List α) :
    (∀ x ∈ xs, ¬kind x) ∨ ∃ earlier x later, xs = earlier ++ x :: later ∧ kind x ∧ ∀ y ∈ later, ¬kind y := by
  induction xs with
  | nil => exact .inl (by simp)
  | cons x rest ih =>
    rcases ih with hnone | ⟨earlier, last, later, hrest, hlast, hafter⟩
    · by_cases hx : kind x
      · exact .inr ⟨[], x, rest, rfl, hx, hnone⟩
      · refine .inl fun y hy => ?_
        rcases List.mem_cons.mp hy with rfl | hy
        · exact hx
        · exact hnone y hy
    · exact .inr ⟨x :: earlier, last, later, by rw [hrest, List.cons_append], hlast, hafter⟩

namespace Status

@[simp] lemma tag_supersede (s : Status) (update : TableUpdate) : (s.supersede update).tag = s.tag := by
  cases update with
  | observe later => by_cases h : later.tag = s.tag ∧ later.generation = s.generation <;> simp [supersede, h]
  | register _ _ => rfl
  | remove _ _ => rfl

@[simp] lemma tag_foldl_supersede (s : Status) (updates : List TableUpdate) :
    (updates.foldl supersede s).tag = s.tag := by
  induction updates generalizing s with
  | nil => rfl
  | cons update rest ih => simp [ih]

lemma foldl_supersede_of_unobserved {s : Status} {updates : List TableUpdate}
    (hnone : ∀ next, .observe next ∈ updates → ¬(next.tag = s.tag ∧ next.generation = s.generation)) :
    updates.foldl supersede s = s := by
  induction updates with
  | nil => rfl
  | cons update rest ih =>
    have hfirst : s.supersede update = s := by
      cases update with
      | observe next => exact if_neg (hnone next List.mem_cons_self)
      | register _ _ => rfl
      | remove _ _ => rfl
    rw [List.foldl_cons, hfirst]
    exact ih fun next hnext => hnone next (List.mem_cons_of_mem _ hnext)

lemma foldl_supersede_of_last {s e : Status} {earlier later : List TableUpdate} (htag : s.tag = e.tag)
    (hgeneration : s.generation = e.generation)
    (hlast : ∀ next, .observe next ∈ later → ¬(next.tag = e.tag ∧ next.generation = e.generation)) :
    (earlier ++ .observe s :: later).foldl supersede e = s := by
  have hseen : (earlier.foldl supersede e).supersede (.observe s) = s := by
    simp [supersede, htag, hgeneration]
  rw [List.foldl_append, List.foldl_cons, hseen]
  apply foldl_supersede_of_unobserved
  rw [htag, hgeneration]
  exact hlast

end Status

lemma lastObserved_iff {tag : String} {generation : Nat} {updates : List TableUpdate} {s : Status} :
    LastObserved tag generation updates s ↔
      updates.foldl Status.supersede (Status.untested tag generation) = s := by
  constructor
  · rintro (⟨earlier, later, rfl, htag, hgeneration, hlast⟩ | ⟨rfl, hnone⟩)
    · exact Status.foldl_supersede_of_last htag hgeneration hlast
    · exact Status.foldl_supersede_of_unobserved hnone
  · rintro rfl
    have hcut := none_or_last
      (fun u => ∃ next, u = .observe next ∧ next.tag = tag ∧ next.generation = generation) updates
    rcases hcut with hnone | ⟨earlier, _, later, rfl, ⟨next, rfl, htag, hgeneration⟩, hafter⟩
    · have hunseen : ∀ next, .observe next ∈ updates → ¬(next.tag = tag ∧ next.generation = generation) :=
        fun next hnext hown => hnone _ hnext ⟨next, rfl, hown⟩
      exact .inr ⟨Status.foldl_supersede_of_unobserved hunseen, hunseen⟩
    · have hlast : ∀ later', .observe later' ∈ later → ¬(later'.tag = tag ∧ later'.generation = generation) :=
        fun later' hlater hown => hafter _ hlater ⟨later', rfl, hown⟩
      rw [Status.foldl_supersede_of_last (e := Status.untested tag generation) htag hgeneration hlast]
      exact .inl ⟨earlier, later, rfl, htag, hgeneration, hlast⟩

namespace RankingTable

variable {members others : TagMap Status} {update : TableUpdate} {key : String}

lemma get?_step_of_ne (hother : update.tag ≠ key) : (step members update).get? key = members.get? key := by
  have hother' : key ≠ update.tag := hother.symm
  unfold step
  split
  · cases update with
    | register tag generation => exact (TagMap.get?_insert _ _ _ _).trans (if_neg hother')
    | observe status => exact (TagMap.get?_insert _ _ _ _).trans (if_neg hother')
    | remove tag generation => exact (TagMap.get?_erase _ _ _).trans (if_neg hother')
  · rfl

/-- What an update leaves under a tag depends on what was kept under it. -/
lemma get?_step_congr (hsame : members.get? key = others.get? key) :
    (step members update).get? key = (step others update).get? key := by
  by_cases htag : update.tag = key
  · subst htag
    have heffect : takesEffect members update = takesEffect others update := by
      cases update with
      | register _ _ => rfl
      | observe status =>
        rw [TableUpdate.tag] at hsame
        simp only [takesEffect, hsame]
      | remove tag generation =>
        rw [TableUpdate.tag] at hsame
        simp only [takesEffect, hsame]
    unfold step
    rw [heffect]
    split
    · cases update with
      | register tag generation => simp [TableUpdate.tag, TagMap.get?_insert]
      | observe status => simp [TableUpdate.tag, TagMap.get?_insert]
      | remove tag generation => simp [TableUpdate.tag, TagMap.get?_erase]
    · exact hsame
  · rw [get?_step_of_ne htag, get?_step_of_ne htag]
    exact hsame

/-- What updates leave under a tag depends on the updates of that tag. -/
theorem get?_foldl_step_filter (hsame : members.get? key = others.get? key) (updates : List TableUpdate) :
    (updates.foldl step members).get? key =
      ((updates.filter fun u => decide (u.tag = key)).foldl step others).get? key := by
  induction updates generalizing members others with
  | nil => exact hsame
  | cons update rest ih =>
    by_cases htag : update.tag = key
    · rw [List.filter_cons_of_pos (by simpa using htag), List.foldl_cons, List.foldl_cons]
      exact ih (get?_step_congr hsame)
    · rw [List.filter_cons_of_neg (by simpa using htag), List.foldl_cons]
      exact ih ((get?_step_of_ne htag).trans hsame)

lemma get?_foldl_step_of_absent {updates : List TableUpdate} (hkeyed : members.KeyedBy Status.tag)
    (hnone : members.get? key = none) (hnew : ∀ generation, .register key generation ∉ updates) :
    (updates.foldl step members).get? key = none := by
  induction updates generalizing members with
  | nil => exact hnone
  | cons update rest ih =>
    have hrest : ∀ generation, .register key generation ∉ rest :=
      fun generation h => hnew generation (List.mem_cons_of_mem _ h)
    have hstill : (step members update).get? key = none := by
      cases update with
      | register tag generation =>
        have hother : (TableUpdate.register tag generation).tag ≠ key := by
          rintro rfl
          exact hnew generation List.mem_cons_self
        rw [get?_step_of_ne hother, hnone]
      | observe status => rw [get?_step_observe hkeyed, hnone, Option.map_none]
      | remove tag generation => rw [get?_step_remove, hnone, Option.filter_none]
    exact ih (keyedBy_step hkeyed update) hstill hrest

/-- A registered tag follows the observations of its generation until it is removed. -/
lemma get?_foldl_step_of_present {updates : List TableUpdate} {s : Status}
    (hkeyed : members.KeyedBy Status.tag) (hmember : members.get? key = some s)
    (hnew : ∀ generation, .register key generation ∉ updates) :
    (updates.foldl step members).get? key =
      if .remove key s.generation ∈ updates then none else some (updates.foldl Status.supersede s) := by
  induction updates generalizing members s with
  | nil => simpa using hmember
  | cons update rest ih =>
    have hkeyed' := keyedBy_step hkeyed update
    have hrest : ∀ generation, .register key generation ∉ rest :=
      fun generation h => hnew generation (List.mem_cons_of_mem _ h)
    rw [List.foldl_cons, List.foldl_cons]
    cases update with
    | register tag generation =>
      have hother : (TableUpdate.register tag generation).tag ≠ key := by
        rintro rfl
        exact hnew generation List.mem_cons_self
      rw [ih hkeyed' ((get?_step_of_ne hother).trans hmember) hrest]
      simp [Status.supersede]
    | observe later =>
      have hnext : (step members (.observe later)).get? key = some (s.supersede (.observe later)) := by
        rw [get?_step_observe hkeyed, hmember, Option.map_some]
      rw [ih hkeyed' hnext hrest]
      simp
    | remove tag generation =>
      have hnext := get?_step_remove members tag key generation
      rw [hmember] at hnext
      by_cases hown : key = tag ∧ s.generation = generation
      · have hgone : (step members (.remove tag generation)).get? key = none := by
          simpa [hown, Option.filter] using hnext
        rw [get?_foldl_step_of_absent hkeyed' hgone hrest]
        simp [hown]
      · have hkept : (step members (.remove tag generation)).get? key = some s := by
          simpa [hown, Option.filter] using hnext
        have hother : TableUpdate.remove key s.generation ≠ .remove tag generation := by
          simpa using hown
        rw [ih hkeyed' hkept hrest]
        simp [hother, Status.supersede]

lemma get?_of_last_registration {earlier later : List TableUpdate} {tag : String} {generation : Nat}
    (hlast : ∀ other, .register tag other ∉ later) :
    ((earlier ++ .register tag generation :: later).foldl step TagMap.empty).get? tag =
      if .remove tag generation ∈ later then none
      else some (later.foldl Status.supersede (Status.untested tag generation)) := by
  have hkeyed : (earlier.foldl step TagMap.empty).KeyedBy Status.tag := keyedBy_foldl_step .empty earlier
  have hregistered : (step (earlier.foldl step TagMap.empty) (.register tag generation)).get? tag =
      some (Status.untested tag generation) := by
    rw [step_register, TagMap.get?_insert, if_pos rfl]
  rw [List.foldl_append, List.foldl_cons]
  exact get?_foldl_step_of_present (keyedBy_step hkeyed _) hregistered hlast

lemma get?_of_staysRegistered {updates later : List TableUpdate} {tag : String} {generation : Nat}
    (h : StaysRegistered updates tag generation later) :
    (updates.foldl step TagMap.empty).get? tag =
      some (later.foldl Status.supersede (Status.untested tag generation)) := by
  obtain ⟨earlier, rfl⟩ := h.registered
  rw [get?_of_last_registration h.last, if_neg h.kept]

/-- A tag that is kept has stayed registered. -/
lemma exists_staysRegistered {updates : List TableUpdate} {tag : String} {s : Status}
    (hkept : (updates.foldl step TagMap.empty).get? tag = some s) :
    ∃ generation later, StaysRegistered updates tag generation later := by
  rcases none_or_last (fun u => ∃ generation, u = .register tag generation) updates with
    hnone | ⟨earlier, _, later, rfl, ⟨generation, rfl⟩, hafter⟩
  · have habsent : (updates.foldl step TagMap.empty).get? tag = none :=
      get?_foldl_step_of_absent .empty rfl fun generation h => hnone _ h ⟨generation, rfl⟩
    rw [habsent] at hkept
    cases hkept
  · have hlast : ∀ other, .register tag other ∉ later := fun other h => hafter _ h ⟨other, rfl⟩
    rw [get?_of_last_registration hlast] at hkept
    split at hkept
    · cases hkept
    · rename_i hremoved
      exact ⟨generation, later, ⟨earlier, rfl⟩, hlast, hremoved⟩

/-- What is kept under a tag after some updates is what they let stand. -/
theorem get?_history (updates : List TableUpdate) (tag : String) (s : Status) :
    (updates.foldl step TagMap.empty).get? tag = some s ↔ Stands updates tag s := by
  constructor
  · intro hkept
    obtain ⟨generation, later, hstays⟩ := exists_staysRegistered hkept
    rw [get?_of_staysRegistered hstays] at hkept
    exact ⟨generation, later, hstays, lastObserved_iff.mpr (Option.some.inj hkept)⟩
  · rintro ⟨generation, later, hstays, hobserved⟩
    rw [get?_of_staysRegistered hstays, lastObserved_iff.mp hobserved]

/-- An update that is no registration and names another generation than the one that stands has no effect. -/
lemma step_of_stale (hkind : ∀ tag generation, update ≠ .register tag generation)
    (hstale : ∀ s, members.get? update.tag = some s → s.generation ≠ update.generation) :
    step members update = members := by
  have hnone : takesEffect members update = false := by
    cases update with
    | register tag generation => exact absurd rfl (hkind tag generation)
    | observe status =>
      simp only [takesEffect]
      split
      · rename_i s hs
        have hother : s.generation ≠ status.generation := hstale s hs
        simp [hother]
      · rfl
    | remove tag generation =>
      simp only [takesEffect]
      split
      · rename_i s hs
        have hother : s.generation ≠ generation := hstale s hs
        simp [hother]
      · rfl
  simp [step, hnone]

/-- After any updates, in whatever batches they came, a tag has an entry if it has stayed registered, and no tag
has two. The entry is the status that stands. The updates of other tags have no influence on the entry of a tag,
updates of a generation that does not stand have none at all, and updates of different tags can change places. -/
theorem entries_of_history (batches : List (List TableUpdate)) :
    let table := ofBatches batches
    (table.snapshot.entries.map Status.tag).Nodup ∧
      (∀ tag, tag ∈ table.snapshot.entries.map Status.tag ↔
        ∃ generation later, StaysRegistered batches.flatten tag generation later) ∧
      (∀ s, s ∈ table.snapshot.entries ↔ Stands batches.flatten s.tag s) ∧
      (∀ tag others, (others.flatten.filter fun u => decide (u.tag = tag)) =
          (batches.flatten.filter fun u => decide (u.tag = tag)) →
        (ofBatches others).snapshot.get? tag = table.snapshot.get? tag) ∧
      (∀ earlier update later others, batches.flatten = earlier ++ update :: later →
        others.flatten = earlier ++ later → (∀ tag generation, update ≠ .register tag generation) →
        (∀ s, Stands earlier update.tag s → s.generation ≠ update.generation) →
        (ofBatches others).snapshot.entries = table.snapshot.entries) ∧
      ∀ earlier first second later others, batches.flatten = earlier ++ first :: second :: later →
        others.flatten = earlier ++ second :: first :: later → first.tag ≠ second.tag →
        (ofBatches others).snapshot.entries = table.snapshot.entries := by
  intro table
  have h := published_ofBatches batches
  have hmembers : table.members = batches.flatten.foldl step TagMap.empty := members_ofBatches batches
  have hget : ∀ tag others, (others.flatten.filter fun u => decide (u.tag = tag)) =
      (batches.flatten.filter fun u => decide (u.tag = tag)) →
      (ofBatches others).members.get? tag = table.members.get? tag := by
    intro tag others hown
    rw [hmembers, members_ofBatches, get?_foldl_step_filter rfl, hown, ← get?_foldl_step_filter rfl]
  refine ⟨h.nodup_tags, fun tag => ?_, fun s => ?_, fun tag others hown => ?_, ?_, ?_⟩
  · rw [(h.published.map Status.tag).mem_iff, h.keyed.map_values, TagMap.mem_tags_iff,
      Option.ne_none_iff_exists', hmembers]
    constructor
    · rintro ⟨s, hs⟩
      exact exists_staysRegistered hs
    · rintro ⟨generation, later, hstays⟩
      exact ⟨_, get?_of_staysRegistered hstays⟩
  · rw [h.mem_entries_iff, hmembers, get?_history]
  · rw [h.get?_snapshot, (published_ofBatches others).get?_snapshot]
    exact hget tag others hown
  · intro earlier update later others hflat hflat' hkind hstale
    have hstep : step (earlier.foldl step TagMap.empty) update = earlier.foldl step TagMap.empty :=
      step_of_stale hkind fun s hs => hstale s ((get?_history _ _ _).mp hs)
    apply (published_ofBatches others).entries_eq h
    intro tag
    rw [hmembers, members_ofBatches, hflat, hflat', List.foldl_append, List.foldl_append, List.foldl_cons,
      hstep]
  · intro earlier first second later others hflat hflat' htags
    apply (published_ofBatches others).entries_eq h
    intro tag
    apply hget
    rw [hflat, hflat', List.filter_append, List.filter_append]
    congr 1
    by_cases hfirst : first.tag = tag
    · have hsecond : second.tag ≠ tag := fun heq => htags (hfirst.trans heq.symm)
      simp [hfirst, hsecond]
    · simp [List.filter_cons, hfirst]

/-- An observation of an earlier registration leaves a new one untested. -/
theorem entries_after_new_registration :
    let late : Status := ⟨"a", 1, { Health.fresh with state := .qualified Span.zero }⟩
    let batches := [[.register "a" 1, .observe late, .remove "a" 1], [.register "a" 2, .observe late]]
    Status.untested "a" 2 ∈ (ofBatches batches).snapshot.entries ∧
      (ofBatches [[.register "a" 1, .observe late], [.remove "a" 1, .register "a" 2]]).snapshot.entries =
        (ofBatches batches).snapshot.entries := by
  intro late batches
  obtain ⟨-, -, hentries, -, hstale, -⟩ := entries_of_history batches
  have hcurrent : ∀ later, (∀ other, .register "a" other ∉ later) → .remove "a" 2 ∉ later →
      StaysRegistered ([.register "a" 1, .observe late, .remove "a" 1] ++ .register "a" 2 :: later) "a" 2 later :=
    fun later hlast hkept => ⟨⟨_, rfl⟩, hlast, hkept⟩
  have hbefore : Stands [.register "a" 1, .observe late, .remove "a" 1, .register "a" 2] "a"
      (Status.untested "a" 2) :=
    ⟨2, [], hcurrent [] (by simp) (by simp), .inr ⟨rfl, by simp⟩⟩
  have hnew : ∀ s, Stands [.register "a" 1, .observe late, .remove "a" 1, .register "a" 2] "a" s →
      s.generation ≠ 1 := by
    intro s hs
    have hsame := ((get?_history _ _ _).mpr hs).symm.trans ((get?_history _ _ _).mpr hbefore)
    cases hsame
    decide
  constructor
  · exact (hentries _).mpr
      ⟨2, [.observe late], hcurrent _ (by simp) (by simp), .inr ⟨rfl, by simp [late]⟩⟩
  · exact hstale [.register "a" 1, .observe late, .remove "a" 1, .register "a" 2] (.observe late) [] _ rfl rfl
      (by simp) hnew

end RankingTable

end OutboundWatch
