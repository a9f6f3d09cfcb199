import OutboundWatch.Proofs.Selection

/-!
# A selection that does not flap

A selection puts its choice on hold, and the next one compares the first entry with it by the same rule. So a choice
is repeated as long as the ranking is the same, and it outlives every reordering in which no entry beats it by more
than the margin.
-/

namespace OutboundWatch

/-- The entry of a tag is qualified, and no qualified entry is faster by more than a number of milliseconds. -/
structure Snapshot.Unbeaten (ranking : Snapshot) (tag : String) (ms : UInt64) : Prop where
  reserved : ∀ s ∈ ranking.entries, s.BelowReserved
  within : ∃ mine ∈ ranking.entries, mine.tag = tag ∧ ∃ rtt, mine.health.state = .qualified rtt ∧
    ∀ other ∈ ranking.entries, ∀ best, other.health.state = .qualified best →
      rtt.nanos ≤ best.nanos + ms.toNat * nanosPerMilli

/-- Of two qualified entries, the one that is slower by no more than the number of milliseconds is not beaten. -/
lemma Snapshot.Unbeaten.of_pair {ranking : Snapshot} {other mine : Status} {best rtt : Span} {ms : UInt64}
    (hentries : ranking.entries = [other, mine]) (hother : other.health.state = .qualified best)
    (hmine : mine.health.state = .qualified rtt) (hbest : best < rttUnqualified) (hrtt : rtt < rttUnqualified)
    (hwithin : rtt.nanos ≤ best.nanos + ms.toNat * nanosPerMilli) : ranking.Unbeaten mine.tag ms := by
  have hin (s : Status) : s ∈ ranking.entries ↔ s = other ∨ s = mine := by rw [hentries, List.mem_pair]
  refine ⟨fun s hs found hfound => ?_, mine, (hin mine).mpr (.inr rfl), rfl, rtt, hmine, fun s hs found hfound => ?_⟩
  · obtain rfl | rfl := (hin s).mp hs
    · cases hother.symm.trans hfound
      exact hbest
    · cases hmine.symm.trans hfound
      exact hrtt
  · obtain rfl | rfl := (hin s).mp hs
    · cases hother.symm.trans hfound
      exact hwithin
    · cases hmine.symm.trans hfound
      exact Nat.le_add_right _ _

namespace Selector

variable {s : Selector} {ranking : Snapshot} {c : Status}

/-- The entry that is chosen is the one that its tag leads to. -/
lemma get?_of_choose (h : s.choose ranking = some c) : ranking.get? c.tag = some c := by
  obtain ⟨first, hfirst, -, ⟨mine, hmine, -, rfl⟩ | ⟨-, rfl⟩⟩ := choose_cases h
  · obtain ⟨tag, -, hget⟩ := Option.bind_eq_some_iff.mp hmine
    have htag : c.tag = tag := by simpa using List.find?_some hget
    rw [htag]
    exact hget
  · obtain ⟨rest, hentries⟩ := List.head?_eq_some_iff.mp hfirst
    unfold Snapshot.get?
    rw [hentries]
    exact List.find?_cons_of_pos (beq_self_eq_true c.tag)

/-- The choice is a fixed point of choosing, for any margin. -/
lemma choose_again (h : s.choose ranking = some c) : ({ s with held := some c.tag }).choose ranking = some c := by
  obtain ⟨first, hfirst, husable, hchosen⟩ := choose_cases h
  unfold choose
  rw [hfirst]
  dsimp only
  rw [if_pos husable, Option.bind_some, get?_of_choose h]
  dsimp only
  obtain ⟨mine, -, hkept, rfl⟩ | ⟨-, rfl⟩ := hchosen
  · exact congrArg some (if_pos hkept)
  · exact congrArg some (ite_self c)

end Selector

/-- The members of a table in ascending order are what it publishes. -/
lemma RankingTable.Published.entries_eq_of_perm {table : RankingTable} (h : table.Published) {entries : List Status}
    (hperm : table.members.values.Perm entries) (hascending : entries.Pairwise fun a b => a.rankLe b = true) :
    table.snapshot.entries = entries := by
  have hall := h.published.trans hperm
  refine hall.eq_of_pairwise (fun a b ha hb hab hba => ?_) h.ascending hascending
  exact h.eq_of_tag ha (hall.mem_iff.mpr hb) (Status.tag_eq_of_rankLe hab hba)

namespace Routing

variable {r again : Routing} {c : Status} {ms : UInt64} {tag : String}

lemma choose_of_selectBest (h : r.selectBest.2.1 = some c) : r.selector.choose r.ranking = some c := by
  cases hchoose : r.selector.choose r.ranking with
  | none =>
    rw [selectBest_of_none hchoose] at h
    cases h
  | some chosen => rwa [(selectBest_of_some hchoose).1] at h

/-- A selection that holds its choice already does nothing. -/
lemma selectBest_of_held (h : r.selector.choose r.ranking = some c) (hheld : r.held = some c.tag) :
    r.selectBest = (r, some c, []) := by
  have hkept : r.selector.hold c.tag = .kept := by
    unfold Selector.hold
    rw [show r.selector.held = some c.tag from hheld]
    exact if_pos rfl
  unfold selectBest
  rw [h]
  dsimp only
  rw [hkept]

/-- The same ranking leads to the same choice. -/
lemma selectBest_again (h : r.selectBest.2.1 = some c) (hranking : again.ranking = r.ranking)
    (hselector : again.selector = r.selectBest.1.selector) : again.selectBest = (again, some c, []) := by
  have hchoose := choose_of_selectBest h
  rw [(selectBest_of_some hchoose).2.2.1] at hselector
  apply selectBest_of_held
  · rw [hselector, hranking]
    exact Selector.choose_again hchoose
  · exact congrArg Selector.held hselector

/-- What is on hold and not beaten is chosen. -/
lemma Governed.choose_of_unbeaten (h : Governed (.absoluteMs ms) r) (hheld : r.held = some tag)
    (hunbeaten : r.ranking.Unbeaten tag ms) :
    ∃ mine ∈ r.ranking.entries, mine.tag = tag ∧ r.selector.choose r.ranking = some mine := by
  obtain ⟨hreserved, mine, hmine, rfl, rtt, hrtt, hwithin⟩ := hunbeaten
  refine ⟨mine, hmine, rfl, ?_⟩
  have hqualified : mine.label = .qualified := Status.label_eq_qualified.mpr ⟨rtt, hrtt⟩
  cases hchoose : r.selector.choose r.ranking with
  | none =>
    rw [choose_eq_none_iff h hreserved, Snapshot.availability_eq_noneUsable_iff] at hchoose
    have husable := Status.isUsable_iff_label.mpr (.inl hqualified)
    rw [hchoose mine hmine] at husable
    cases husable
  | some chosen =>
    obtain ⟨first, hselects⟩ := selects_of_choose h hreserved hchoose
    have hfirst := h.published.first_qualified hselects.heads hmine hreserved hqualified
    have htolerates : r.selector.margin.Tolerates mine first := by
      refine ⟨hqualified.trans hfirst.symm, fun mineRtt best hmineRtt hbest => ?_⟩
      rw [hrtt] at hmineRtt
      cases hmineRtt
      rw [h.margin, SwitchMargin.exceededBy_absoluteMs_iff]
      exact hwithin first (List.mem_of_head? hselects.heads) best hbest
    rw [hselects.stays mine hmine hheld htolerates]

lemma table_selectBest (r : Routing) : r.selectBest.1.table = r.table := by
  cases hchoose : r.selector.choose r.ranking with
  | none => rw [selectBest_of_none hchoose]
  | some c => exact (selectBest_of_some hchoose).2.1

/-- What a call reports. -/
def recordsOf (r : Routing) : RoutingCall → List Record
  | .apply _ => []
  | .selectBest => r.selectBest.2.2
  | .release _ => []
  | .openConnection tag => (r.drains.openConnection tag).2.2
  | .closeConnection id => (r.drains.release id).2

/-- The state and the journal after some calls, each at its moment. -/
def journaled (start : Routing × Journal) (calls : List (Moment × RoutingCall)) : Routing × Journal :=
  calls.foldl (fun state made => (state.1.call made.2, state.2.add made.1 (state.1.recordsOf made.2))) start

variable {margin : SwitchMargin} {start before : Routing × Journal} {calls : List (Moment × RoutingCall)}

lemma Governed.journaled (h : Governed margin start.1) : Governed margin (journaled start calls).1 := by
  induction calls generalizing start with
  | nil => exact h
  | cons made rest ih => exact ih (h.call made.2)

/-- What stays as long as no other candidate is selected. -/
structure Steady (tag : String) (start after : Routing × Journal) : Prop where
  held : after.1.held = some tag
  switches : after.2.switches = start.2.switches
  /-- No connection has been demoted. -/
  connections : ∀ d ∈ after.1.drains.opened, d ∈ start.1.drains.opened ∨ d.phase = .active

/-- A call that does not select another candidate and releases none keeps it so. -/
lemma Steady.call (h : Steady tag start before) (hgoverned : Governed (.absoluteMs ms) before.1) {made : RoutingCall}
    (hkept : ∀ other, made ≠ .release other) (hunbeaten : made = .selectBest → before.1.ranking.Unbeaten tag ms)
    (now : Moment) : Steady tag start (before.1.call made, before.2.add now (before.1.recordsOf made)) := by
  have hunswitched {records : List Record} (hrecords : records.filterMap Record.measurement? = []) :
      (before.2.add now records).switches = start.2.switches := by
    rw [Journal.switches_add, hrecords, h.switches]
    exact UInt64.add_zero _
  cases made with
  | apply batch => exact ⟨h.held, hunswitched rfl, h.connections⟩
  | release other => exact absurd rfl (hkept other)
  | openConnection other =>
    refine ⟨h.held, hunswitched rfl, fun d hd => ?_⟩
    obtain hbefore | hnew := List.mem_append.mp hd
    · exact h.connections d hbefore
    · rw [List.mem_singleton.mp hnew]
      exact .inr rfl
  | closeConnection id =>
    have hrelease : (before.1.drains.release id).1.opened ⊆ before.1.drains.opened ∧
        (before.1.drains.release id).2.filterMap Record.measurement? = [] := by
      unfold DrainTracker.release
      split
      · exact ⟨List.filter_subset_self _, rfl⟩
      · exact ⟨List.Subset.refl _, rfl⟩
    exact ⟨h.held, hunswitched hrelease.2, fun d hd => h.connections d (hrelease.1 hd)⟩
  | selectBest =>
    obtain ⟨mine, -, htag, hchoose⟩ := hgoverned.choose_of_unbeaten h.held (hunbeaten rfl)
    have hsame := selectBest_of_held hchoose (htag ▸ h.held)
    simp only [Routing.call, recordsOf, hsame]
    exact h

/-- A choice stays on hold over calls that release nothing, if it is not beaten when a selection is made. The induction
is on the number of calls. -/
theorem steady_journaled (hgoverned : Governed (.absoluteMs ms) start.1) (hheld : start.1.held = some tag)
    (hkept : ∀ made ∈ calls, ∀ other, made.2 ≠ .release other)
    (hunbeaten : ∀ (n : Nat) now, calls[n]? = some (now, .selectBest) →
      (journaled start (calls.take n)).1.ranking.Unbeaten tag ms) (n : Nat) :
    Steady tag start (journaled start (calls.take n)) := by
  induction n with
  | zero => exact ⟨hheld, rfl, fun d hd => .inl hd⟩
  | succ n ih =>
    rw [List.take_add_one]
    cases hmade : calls[n]? with
    | none => simpa using ih
    | some made =>
      rw [Option.toList_some, journaled, List.foldl_append]
      apply ih.call hgoverned.journaled (hkept made (List.mem_of_getElem? hmade))
      intro hselects
      apply hunbeaten n made.1
      rw [hmade, ← hselects]

/-- Once a selection with a fixed margin has returned a candidate, and as long as none is released and the candidate
is qualified and not beaten by more than the margin whenever a selection is made, each of these selections returns
the current entry of the candidate, the counter of switches stays where it was, and every connection either was there
as it is or has not been demoted. And whatever the margin, a selection on the same ranking returns the same entry
and changes nothing. -/
theorem selections_do_not_flap (grace : Span) (earlier : List RoutingCall) (journal : Journal)
    (hselected : (afterCalls (.absoluteMs ms) grace earlier).selectBest.2.1 = some c) :
    let start := ((afterCalls (.absoluteMs ms) grace earlier).selectBest.1, journal)
    (∀ calls : List (Moment × RoutingCall), (∀ made ∈ calls, ∀ other, made.2 ≠ .release other) →
      (∀ (n : Nat) now, calls[n]? = some (now, .selectBest) →
        (journaled start (calls.take n)).1.ranking.Unbeaten c.tag ms) →
      (∀ (n : Nat) now, calls[n]? = some (now, .selectBest) →
        ∃ mine ∈ (journaled start (calls.take n)).1.ranking.entries, mine.tag = c.tag ∧
          (journaled start (calls.take n)).1.selectBest.2.1 = some mine) ∧
      (journaled start calls).1.held = some c.tag ∧ (journaled start calls).2.switches = journal.switches ∧
      ∀ d ∈ (journaled start calls).1.drains.opened, d ∈ start.1.drains.opened ∨ d.phase = .active) ∧
    ∀ (r again : Routing) chosen, r.selectBest.2.1 = some chosen → again.ranking = r.ranking →
      again.selector = r.selectBest.1.selector → again.selectBest = (again, some chosen, []) := by
  intro start
  have hgoverned : Governed (.absoluteMs ms) start.1 := (governed_afterCalls _ grace earlier).call .selectBest
  have hheld : start.1.held = some c.tag :=
    congrArg Selector.held (selectBest_of_some (choose_of_selectBest hselected)).2.2.1
  refine ⟨fun calls hkept hunbeaten => ?_, fun r again chosen => selectBest_again⟩
  have hsteady := steady_journaled hgoverned hheld hkept hunbeaten
  refine ⟨fun n now hmade => ?_, ?_⟩
  · obtain ⟨mine, hmine, htag, hchoose⟩ :=
      hgoverned.journaled.choose_of_unbeaten (hsteady n).held (hunbeaten n now hmade)
    exact ⟨mine, hmine, htag, (selectBest_of_some hchoose).1⟩
  · have hlast := hsteady calls.length
    rw [List.take_length] at hlast
    exact ⟨hlast.held, hlast.switches, hlast.connections⟩

/-- The other candidate comes first by less than the margin and then by exactly the margin, and is not selected. -/
theorem selections_do_not_flap_within_margin :
    let measured := fun tag generation ms =>
      Status.mk tag generation { Health.fresh with state := .qualified (Span.ofMillis ms) }
    let r := afterCalls (.absoluteMs 20) Span.zero
      [.apply [.register "a" 1, .observe (measured "a" 1 50), .register "b" 2, .observe (measured "b" 2 60)]]
    let start := (r.selectBest.1, Journal.empty)
    let calls : List (Moment × RoutingCall) := [(1, .openConnection "a"), (2, .apply [.observe (measured "b" 2 40)]),
      (3, .selectBest), (4, .apply [.observe (measured "a" 1 60)]), (5, .selectBest)]
    r.selectBest.2.1 = some (measured "a" 1 50) ∧
      (journaled start (calls.take 4)).1.ranking.first? = some (measured "b" 2 40) ∧
      (journaled start (calls.take 4)).1.selectBest.2.1 = some (measured "a" 1 60) ∧
      (journaled start calls).2.switches = 0 ∧
      ∀ d ∈ (journaled start calls).1.drains.opened, d.phase = .active := by
  intro measured r start calls
  have hgoverned : Governed (.absoluteMs 20) r := governed_afterCalls _ _ _
  have hstart : Governed (.absoluteMs 20) start.1 := hgoverned.call .selectBest
  have hordered : r.ranking.entries = [measured "a" 1 50, measured "b" 2 60] :=
    hgoverned.published.entries_eq_of_perm (by decide +kernel) (by decide +kernel)
  have hchoose : r.selector.choose r.ranking = some (measured "a" 1 50) := by
    unfold Selector.choose Snapshot.first?
    rw [hordered]
    rfl
  obtain ⟨hselected, htable, -, hkept, -⟩ := selectBest_of_some hchoose
  have hbefore : (journaled start (calls.take 2)).1.ranking.entries = [measured "b" 2 40, measured "a" 1 50] := by
    apply hstart.journaled.published.entries_eq_of_perm
    · change List.Perm (r.selectBest.1.table.apply [.observe (measured "b" 2 40)]).1.members.values _
      rw [htable]
      decide +kernel
    · decide +kernel
  have hafter : (journaled start (calls.take 4)).1.ranking.entries = [measured "b" 2 40, measured "a" 1 60] := by
    apply hstart.journaled.published.entries_eq_of_perm
    · change List.Perm ((journaled start (calls.take 2)).1.selectBest.1.table.apply
        [.observe (measured "a" 1 60)]).1.members.values _
      rw [table_selectBest]
      change List.Perm ((r.selectBest.1.table.apply [.observe (measured "b" 2 40)]).1.apply
        [.observe (measured "a" 1 60)]).1.members.values _
      rw [htable]
      decide +kernel
    · decide +kernel
  have hreserved (n : Nat) (hn : n ≤ 60) : n * nanosPerMilli < rttUnqualified.nanos :=
    (Nat.mul_le_mul_right _ hn).trans_lt (by decide)
  have hnear (ranking : Snapshot) (ms : UInt64) (hms : ms.toNat ≤ 60)
      (hentries : ranking.entries = [measured "b" 2 40, measured "a" 1 ms]) : ranking.Unbeaten "a" 20 := by
    refine .of_pair hentries rfl rfl (hreserved 40 (by decide)) (hreserved ms.toNat hms) ?_
    calc ms.toNat * nanosPerMilli ≤ 60 * nanosPerMilli := Nat.mul_le_mul_right _ hms
      _ = (Span.ofMillis 40).nanos + (20 : UInt64).toNat * nanosPerMilli := by decide
  have hunbeaten : ∀ (n : Nat) now, calls[n]? = some (now, .selectBest) →
      (journaled start (calls.take n)).1.ranking.Unbeaten "a" 20 := by
    intro n now hmade
    match n, hmade with
    | 2, _ => exact hnear _ 50 (by decide) hbefore
    | 4, _ => exact hnear _ 60 (by decide) hafter
  obtain ⟨hsteady, -⟩ := selections_do_not_flap Span.zero _ Journal.empty hselected
  obtain ⟨hreturned, -, hswitches, hconnections⟩ := hsteady calls (by simp [calls]) hunbeaten
  obtain ⟨mine, hmine, htag, hlast⟩ := hreturned 4 5 rfl
  refine ⟨hselected, ?_, ?_, hswitches.trans rfl, fun d hd => (hconnections d hd).resolve_left ?_⟩
  · rw [Snapshot.first?, hafter, List.head?_cons]
  · rw [hafter, List.mem_pair] at hmine
    obtain rfl | rfl := hmine
    · exact absurd htag (by decide)
    · exact hlast
  · rw [(hkept (.inl rfl)).1]
    exact List.not_mem_nil

end Routing

end OutboundWatch
