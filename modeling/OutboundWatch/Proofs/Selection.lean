import OutboundWatch.Proofs.Ledger
import OutboundWatch.Proofs.Snapshots
import OutboundWatch.Routing

/-!
# What a selection guarantees

A selection looks at the first entry of the ranking to tell whether anything is usable, but it may return the
entry of the held tag. The order of the ranking makes this right: the reserved keys put every usable entry
before the others, and the held entry is kept only in the class of the first one and within the margin.
-/

namespace OutboundWatch

namespace Status

variable {s : Status}

/-- A measured time does not reach the keys that are reserved for the other classes. -/
def BelowReserved (s : Status) : Prop := ∀ rtt, s.health.state = .qualified rtt → rtt < rttUnqualified

lemma reserved_ascending :
    rttUnqualified.nanos < rttUntested.nanos ∧ rttUntested.nanos < rttFailed.nanos := by decide

lemma BelowReserved.label_eq_qualified_iff (h : s.BelowReserved) :
    s.label = .qualified ↔ s.lastDuration.nanos < rttUnqualified.nanos := by
  have hascending := reserved_ascending
  unfold label lastDuration
  cases hstate : s.health.state with
  | qualified rtt =>
    have hbelow := Span.lt_def.mp (h rtt hstate)
    simpa [HealthState.label, HealthState.lastDuration] using hbelow
  | unqualified rtt => simp [HealthState.label, HealthState.lastDuration]
  | untested =>
    simp only [HealthState.label, HealthState.lastDuration, reduceCtorEq, false_iff]
    omega
  | failed reason =>
    simp only [HealthState.label, HealthState.lastDuration, reduceCtorEq, false_iff]
    omega

lemma BelowReserved.isUsable_iff (h : s.BelowReserved) :
    s.isUsable = true ↔ s.lastDuration.nanos ≤ rttUnqualified.nanos := by
  have hascending := reserved_ascending
  unfold isUsable lastDuration
  cases hstate : s.health.state with
  | qualified rtt =>
    have hbelow := Span.lt_def.mp (h rtt hstate)
    simpa [HealthState.isUsable, HealthState.lastDuration] using Nat.le_of_lt hbelow
  | unqualified rtt => simp [HealthState.isUsable, HealthState.lastDuration]
  | untested =>
    simp only [HealthState.isUsable, HealthState.lastDuration, Bool.false_eq_true, false_iff]
    omega
  | failed reason =>
    simp only [HealthState.isUsable, HealthState.lastDuration, Bool.false_eq_true, false_iff]
    omega

lemma isUsable_iff_label : s.isUsable = true ↔ s.label = .qualified ∨ s.label = .unqualified := by
  unfold isUsable label
  cases s.health.state <;> simp [HealthState.isUsable, HealthState.label]

lemma label_eq_qualified : s.label = .qualified ↔ ∃ rtt, s.health.state = .qualified rtt := by
  unfold label
  cases s.health.state <;> simp [HealthState.label]

end Status

lemma Snapshot.availability_eq_noneUsable_iff (ranking : Snapshot) :
    ranking.availability = .noneUsable ↔ ∀ s ∈ ranking.entries, s.isUsable = false := by
  have hcount : ranking.entries.countP Status.isUsable = 0 ↔ ∀ s ∈ ranking.entries, s.isUsable = false := by
    simp [List.countP_eq_zero]
  rw [← hcount]
  by_cases hzero : ranking.entries.countP Status.isUsable = 0 <;> simp [availability, hzero]

namespace RankingTable.Published

variable {table : RankingTable} {first s : Status} (h : table.Published)

include h

lemma eq_of_tag {a b : Status} (ha : a ∈ table.snapshot.entries) (hb : b ∈ table.snapshot.entries)
    (htag : a.tag = b.tag) : a = b := by
  have hmember := (h.mem_entries_iff a).mp ha
  rw [htag, (h.mem_entries_iff b).mp hb] at hmember
  exact (Option.some.inj hmember).symm

variable (hfirst : table.snapshot.first? = some first) (hs : s ∈ table.snapshot.entries)

include hfirst hs

lemma nanos_first_le : first.lastDuration.nanos ≤ s.lastDuration.nanos :=
  Span.le_def.mp (Status.lastDuration_le_of_rankLe (h.rankLe_of_first hfirst hs))

variable (hreserved : ∀ entry ∈ table.snapshot.entries, entry.BelowReserved)

include hreserved

/-- If any entry is qualified, the first one is. -/
lemma first_qualified (hqualified : s.label = .qualified) : first.label = .qualified := by
  have hle := h.nanos_first_le hfirst hs
  have hless := (hreserved s hs).label_eq_qualified_iff.mp hqualified
  apply (hreserved first (List.mem_of_head? hfirst)).label_eq_qualified_iff.mpr
  omega

/-- If any entry is usable, the first one is. -/
lemma first_usable (husable : s.isUsable = true) : first.isUsable = true := by
  have hle := h.nanos_first_le hfirst hs
  have hless := (hreserved s hs).isUsable_iff.mp husable
  apply (hreserved first (List.mem_of_head? hfirst)).isUsable_iff.mpr
  omega

end RankingTable.Published

namespace SwitchMargin

variable (margin : SwitchMargin)

lemma exceededBy_self (rtt : Span) : margin.exceededBy rtt rtt = false := by
  have hle : rtt ≤ rtt := Span.le_def.mpr (Nat.le_refl _)
  rw [exceededBy, if_pos hle]

lemma exceededBy_absoluteMs_iff (ms : UInt64) (mine theirs : Span) :
    (absoluteMs ms).exceededBy mine theirs = false ↔
      mine.nanos ≤ theirs.nanos + ms.toNat * nanosPerMilli := by
  unfold exceededBy
  split
  · rename_i hle
    have hle' := Span.le_def.mp hle
    simp only [true_iff]
    omega
  · rename_i hless
    rw [Span.le_def] at hless
    simp only [decide_eq_false_iff_not, Span.lt_def, Span.ofMillis, Span.minus]
    omega

/-- Whether a held candidate stays although `first` heads the ranking: it is in the same class, and if both are
qualified, `first` does not beat it by more than the margin. -/
def Tolerates (mine first : Status) : Prop :=
  mine.label = first.label ∧ ∀ rtt best, mine.health.state = .qualified rtt →
    first.health.state = .qualified best → margin.exceededBy rtt best = false

end SwitchMargin

namespace Selector

variable {s : Selector} {ranking : Snapshot} {mine first c : Status}

lemma keeps_iff (husable : first.isUsable = true) (hsame : mine.tag = first.tag → mine = first) :
    s.keeps mine first = true ↔ s.margin.Tolerates mine first := by
  by_cases htag : mine.tag = first.tag
  · have heq := hsame htag
    subst heq
    simp only [keeps, if_true, true_iff]
    refine ⟨rfl, fun rtt best hrtt hbest => ?_⟩
    rw [hrtt] at hbest
    cases hbest
    exact s.margin.exceededBy_self rtt
  · unfold keeps SwitchMargin.Tolerates Status.label
    rw [if_neg htag]
    unfold Status.isUsable at husable
    cases hfirst : first.health.state <;> cases hmine : mine.health.state <;>
      simp_all [HealthState.isUsable, HealthState.label]

lemma choose_eq_none_iff : s.choose ranking = none ↔ ∀ first ∈ ranking.first?, first.isUsable = false := by
  unfold choose
  cases hfirst : ranking.first? with
  | none => simp
  | some first =>
    cases husable : first.isUsable with
    | false => simp [husable]
    | true =>
      simp only [if_true, Option.mem_some_iff, forall_eq', husable, Bool.true_eq_false, iff_false]
      split <;> simp

/-- The entry of the held tag is chosen if it is kept, and else the first one. -/
lemma choose_cases (h : s.choose ranking = some c) :
    ∃ first, ranking.first? = some first ∧ first.isUsable = true ∧
      ((∃ mine, s.held.bind ranking.get? = some mine ∧ s.keeps mine first = true ∧ c = mine) ∨
        ((∀ mine, s.held.bind ranking.get? = some mine → s.keeps mine first = false) ∧ c = first)) := by
  unfold choose at h
  split at h
  · cases h
  · rename_i first hfirst
    split at h
    · rename_i husable
      refine ⟨first, hfirst, husable, ?_⟩
      split at h
      · rename_i mine hmine
        cases h
        cases hkeeps : s.keeps mine first with
        | true => exact .inl ⟨mine, hmine, hkeeps, rfl⟩
        | false =>
          refine .inr ⟨fun other hother => ?_, rfl⟩
          rw [hmine] at hother
          cases hother
          exact hkeeps
      · rename_i hnone
        cases h
        refine .inr ⟨fun other hother => ?_, rfl⟩
        rw [hnone] at hother
        cases hother
    · cases h

end Selector

/-- A call on a ranking, its selector and its connections. -/
inductive RoutingCall where
  | apply (batch : List TableUpdate)
  | selectBest
  | release (tag : String)
  | openConnection (tag : String)
  | closeConnection (id : Nat)
  deriving DecidableEq

/-- How often a selection has replaced a held tag, as the metrics tell it. -/
def Journal.switches (j : Journal) : UInt64 := j.metrics.counter .switches

lemma Journal.switches_add (j : Journal) (now : Moment) (records : List Record) :
    (j.add now records).switches =
      j.switches + ((records.filterMap Record.measurement?).map (Measurement.countIn .switches)).sum :=
  j.counter_add now records .switches

/-- The connections of a tag that are active start draining; the others stay as they are. -/
lemma DrainTracker.fst_markDraining (t : DrainTracker) (tag : String) :
    (t.markDraining tag).1 = { t with
      opened := t.opened.map fun d =>
        if d.tag = tag ∧ d.phase = .active then { d with phase := .draining } else d } := by
  have hadvance : ∀ d : Connection,
      d.advance .draining = if d.phase = .active then { d with phase := .draining } else d := by
    intro d
    unfold Connection.advance Connection.isBefore
    cases d.phase <;> rfl
  simp only [markDraining, advanceAll, hadvance]
  congr 2
  funext d
  by_cases htag : d.tag = tag <;> simp [htag]

lemma DrainTracker.measurements_markDraining (t : DrainTracker) (tag : String) :
    (t.markDraining tag).2.2.filterMap Record.measurement? = [] := by
  simp only [markDraining]
  split <;> rfl

namespace Routing

variable {r : Routing} {c : Status} {margin : SwitchMargin}

/-- The state after a call. -/
def call (r : Routing) : RoutingCall → Routing
  | .apply batch => (r.apply batch).1
  | .selectBest => r.selectBest.1
  | .release tag => r.release tag
  | .openConnection tag => { r with drains := (r.drains.openConnection tag).1 }
  | .closeConnection id => { r with drains := (r.drains.release id).1 }

/-- The state after some calls, one after the other. -/
def afterCalls (margin : SwitchMargin) (grace : Span) (calls : List RoutingCall) : Routing :=
  calls.foldl call (create margin grace)

lemma selectBest_of_none (h : r.selector.choose r.ranking = none) : r.selectBest = (r, none, []) := by
  unfold selectBest
  rw [h]

/-- The chosen tag is held, and nothing else changes unless it replaces another one. -/
lemma selectBest_of_some (h : r.selector.choose r.ranking = some c) :
    r.selectBest.2.1 = some c ∧ r.selectBest.1.table = r.table ∧
      r.selectBest.1.selector = { r.selector with held := some c.tag } ∧
      (r.held = none ∨ r.held = some c.tag → r.selectBest.1.drains = r.drains ∧
        r.selectBest.2.2.filterMap Record.measurement? = []) ∧
      ∀ previous, r.held = some previous → previous ≠ c.tag →
        r.selectBest.1.drains = (r.drains.markDraining previous).1 ∧
          r.selectBest.2.2.filterMap Record.measurement? = [.selectionSwitch] := by
  have hheld : r.held = r.selector.held := rfl
  rw [hheld]
  unfold selectBest Selector.hold
  rw [h]
  cases hprevious : r.selector.held with
  | none => simp [Record.measurement?]
  | some previous =>
    by_cases htag : previous = c.tag
    · have hsame : r.selector = { r.selector with held := some c.tag } := by rw [← htag, ← hprevious]
      simp [htag, ← hsame]
    · have hmeasured := r.drains.measurements_markDraining previous
      simp only [htag, if_false, Option.some.injEq, List.cons_append, List.nil_append, List.filterMap_cons,
        Record.measurement?, hmeasured]
      simp [htag]

lemma selectBest_eq_none_iff : r.selectBest.2.1 = none ↔ r.selector.choose r.ranking = none := by
  constructor
  · intro hnone
    cases hchoose : r.selector.choose r.ranking with
    | none => rfl
    | some c =>
      rw [(selectBest_of_some hchoose).1] at hnone
      cases hnone
  · intro hchoose
    rw [selectBest_of_none hchoose]

/-- What every call keeps. -/
structure Governed (margin : SwitchMargin) (r : Routing) : Prop where
  published : r.table.Published
  margin : r.selector.margin = margin

lemma Governed.call (h : Governed margin r) (made : RoutingCall) : Governed margin (r.call made) := by
  cases made with
  | apply batch => exact ⟨h.published.apply batch, h.margin⟩
  | openConnection tag => exact ⟨h.published, h.margin⟩
  | closeConnection id => exact ⟨h.published, h.margin⟩
  | release tag =>
    refine ⟨h.published, ?_⟩
    rw [← h.margin]
    change (r.selector.release tag).margin = r.selector.margin
    unfold Selector.release
    split <;> rfl
  | selectBest =>
    change Governed margin r.selectBest.1
    cases hchoose : r.selector.choose r.ranking with
    | none =>
      rw [selectBest_of_none hchoose]
      exact h
    | some c =>
      obtain ⟨-, htable, hselector, -⟩ := selectBest_of_some hchoose
      refine ⟨?_, ?_⟩
      · rw [htable]
        exact h.published
      · rw [hselector]
        exact h.margin

theorem governed_afterCalls (margin : SwitchMargin) (grace : Span) (calls : List RoutingCall) :
    Governed margin (afterCalls margin grace calls) := by
  induction calls using List.reverseRecOn with
  | nil => exact ⟨RankingTable.published_empty, rfl⟩
  | append_singleton calls last ih =>
    rw [afterCalls, List.foldl_append]
    exact ih.call last

/-- What holds when a selection returns `c`, where `first` heads the ranking, and of what it leaves. -/
structure Selects (r : Routing) (first c : Status) : Prop where
  heads : r.ranking.first? = some first
  ranked : c ∈ r.ranking.entries
  /-- It is qualified if any entry is, and else unqualified. -/
  graded : c.label = .qualified ∨ (c.label = .unqualified ∧ ∀ s ∈ r.ranking.entries, s.label ≠ .qualified)
  /-- A qualified `c` is the first entry or not beaten by it by more than the margin. -/
  near : c.label = .qualified → c ≠ first → ∃ rtt best, c.health.state = .qualified rtt ∧
    first.health.state = .qualified best ∧ r.selector.margin.exceededBy rtt best = false
  within : ∀ ms, r.selector.margin = .absoluteMs ms → ∀ rtt, c.health.state = .qualified rtt →
    ∀ s ∈ r.ranking.entries, ∀ other, s.health.state = .qualified other →
      rtt.nanos ≤ other.nanos + ms.toNat * nanosPerMilli
  /-- The held candidate is returned if it is still ranked and tolerated, and else the first one. -/
  stays : ∀ mine ∈ r.ranking.entries, r.held = some mine.tag →
    r.selector.margin.Tolerates mine first → c = mine
  leads : (∀ mine ∈ r.ranking.entries, r.held = some mine.tag →
    ¬r.selector.margin.Tolerates mine first) → c = first
  table : r.selectBest.1.table = r.table
  selector : r.selectBest.1.selector = { r.selector with held := some c.tag }
  /-- Without a switch no connection is touched and no counter rises. -/
  unswitched : r.held = none ∨ r.held = some c.tag → r.selectBest.1.drains = r.drains ∧
    ∀ (j : Journal) now series, (j.add now r.selectBest.2.2).metrics.counter series = j.metrics.counter series
  /-- A switch moves the active connections of the tag that was held, and is counted once. -/
  switched : ∀ previous, r.held = some previous → previous ≠ c.tag →
    r.selectBest.1.drains = { r.drains with
      opened := r.drains.opened.map fun d =>
        if d.tag = previous ∧ d.phase = .active then { d with phase := .draining } else d } ∧
    ∀ (j : Journal) now, (j.add now r.selectBest.2.2).switches = j.switches + 1

lemma Governed.heldEntry_iff (h : Governed margin r) {mine : Status} :
    r.selector.held.bind r.ranking.get? = some mine ↔ mine ∈ r.ranking.entries ∧ r.held = some mine.tag := by
  have hmember : ∀ tag, r.ranking.get? tag = r.table.members.get? tag := h.published.get?_snapshot
  rw [Option.bind_eq_some_iff]
  constructor
  · rintro ⟨tag, hheld, hget⟩
    rw [hmember] at hget
    have htag := h.published.keyed _ _ hget
    rw [← htag] at hget hheld
    exact ⟨(h.published.mem_entries_iff mine).mpr hget, hheld⟩
  · rintro ⟨hmine, hheld⟩
    refine ⟨mine.tag, hheld, ?_⟩
    rw [hmember]
    exact (h.published.mem_entries_iff mine).mp hmine

/-- The entry that is returned was held and stays, or it heads the ranking and no held one stays. -/
lemma Governed.choose_cases (h : Governed margin r) (hchoose : r.selector.choose r.ranking = some c) :
    ∃ first, r.ranking.first? = some first ∧ first.isUsable = true ∧
      ((c ∈ r.ranking.entries ∧ r.held = some c.tag ∧ r.selector.margin.Tolerates c first) ∨
        (c = first ∧ ∀ mine ∈ r.ranking.entries, r.held = some mine.tag →
          ¬r.selector.margin.Tolerates mine first)) := by
  obtain ⟨first, hfirst, husable, hchosen⟩ := Selector.choose_cases hchoose
  have hranked : first ∈ r.ranking.entries := List.mem_of_head? hfirst
  have hkeeps : ∀ mine ∈ r.ranking.entries,
      (r.selector.keeps mine first = true ↔ r.selector.margin.Tolerates mine first) :=
    fun mine hmine => Selector.keeps_iff husable (h.published.eq_of_tag hmine hranked)
  refine ⟨first, hfirst, husable, ?_⟩
  rcases hchosen with ⟨mine, hheld, hkept, rfl⟩ | ⟨hnone, rfl⟩
  · obtain ⟨hmine, htag⟩ := h.heldEntry_iff.mp hheld
    exact .inl ⟨hmine, htag, (hkeeps c hmine).mp hkept⟩
  · refine .inr ⟨rfl, fun mine hmine htag htolerates => ?_⟩
    have hlost := hnone mine (h.heldEntry_iff.mpr ⟨hmine, htag⟩)
    rw [(hkeeps mine hmine).mpr htolerates] at hlost
    cases hlost

/-- Nothing is chosen exactly when nothing is usable. -/
theorem choose_eq_none_iff (h : Governed margin r) (hreserved : ∀ s ∈ r.ranking.entries, s.BelowReserved) :
    r.selector.choose r.ranking = none ↔ r.ranking.availability = .noneUsable := by
  rw [Selector.choose_eq_none_iff, Snapshot.availability_eq_noneUsable_iff]
  constructor
  · intro hnone s hs
    cases hfirst : r.ranking.first? with
    | none =>
      have hempty : r.ranking.entries = [] := List.head?_eq_none_iff.mp hfirst
      rw [hempty] at hs
      cases hs
    | some first =>
      by_contra husable
      have hleads := h.published.first_usable hfirst hs hreserved (by simpa using husable)
      rw [hnone first hfirst] at hleads
      cases hleads
  · intro hnone first hfirst
    exact hnone first (List.mem_of_head? hfirst)

theorem selects_of_choose (h : Governed margin r) (hreserved : ∀ s ∈ r.ranking.entries, s.BelowReserved)
    (hchoose : r.selector.choose r.ranking = some c) : ∃ first, r.Selects first c := by
  obtain ⟨first, hfirst, husable, hchosen⟩ := h.choose_cases hchoose
  obtain ⟨-, htable, hselector, hkept, hswitched⟩ := selectBest_of_some hchoose
  have hranked : c ∈ r.ranking.entries := by
    rcases hchosen with ⟨hc, -⟩ | ⟨rfl, -⟩
    · exact hc
    · exact List.mem_of_head? hfirst
  have hlabel : c.label = first.label := by
    rcases hchosen with ⟨-, -, htolerates⟩ | ⟨rfl, -⟩
    · exact htolerates.1
    · rfl
  have hnear : ∀ rtt best, c.health.state = .qualified rtt → first.health.state = .qualified best →
      r.selector.margin.exceededBy rtt best = false := by
    rcases hchosen with ⟨-, -, htolerates⟩ | ⟨rfl, -⟩
    · exact htolerates.2
    · intro rtt best hrtt hbest
      rw [hrtt] at hbest
      cases hbest
      exact r.selector.margin.exceededBy_self rtt
  have hbest : c.label = .qualified → ∃ best, first.health.state = .qualified best := by
    intro hqualified
    exact Status.label_eq_qualified.mp (hlabel.symm.trans hqualified)
  refine ⟨first, ?_⟩
  constructor
  case heads => exact hfirst
  case ranked => exact hranked
  case graded =>
    rcases Status.isUsable_iff_label.mp husable with hqualified | hunqualified
    · exact .inl (hlabel.trans hqualified)
    · refine .inr ⟨hlabel.trans hunqualified, fun s hs hqualified => ?_⟩
      have hleads := h.published.first_qualified hfirst hs hreserved hqualified
      rw [hunqualified] at hleads
      cases hleads
  case near =>
    rintro hqualified -
    obtain ⟨rtt, hrtt⟩ := Status.label_eq_qualified.mp hqualified
    obtain ⟨best, hstate⟩ := hbest hqualified
    exact ⟨rtt, best, hrtt, hstate, hnear rtt best hrtt hstate⟩
  case within =>
    intro ms hms rtt hrtt s hs other hother
    obtain ⟨best, hstate⟩ := hbest (Status.label_eq_qualified.mpr ⟨rtt, hrtt⟩)
    have hclose := hnear rtt best hrtt hstate
    rw [hms, SwitchMargin.exceededBy_absoluteMs_iff] at hclose
    have hle := h.published.nanos_first_le hfirst hs
    simp only [Status.lastDuration, hstate, hother, HealthState.lastDuration] at hle
    omega
  case stays =>
    intro mine hmine hheld htolerates
    rcases hchosen with ⟨-, hheld', -⟩ | ⟨-, hnone⟩
    · rw [hheld, Option.some.injEq] at hheld'
      exact h.published.eq_of_tag hranked hmine hheld'.symm
    · exact absurd htolerates (hnone mine hmine hheld)
  case leads =>
    intro hnone
    rcases hchosen with ⟨hc, hheld, htolerates⟩ | ⟨hc, -⟩
    · exact absurd htolerates (hnone c hc hheld)
    · exact hc
  case table => exact htable
  case selector => exact hselector
  case unswitched =>
    intro hheld
    obtain ⟨hdrains, hmeasured⟩ := hkept hheld
    refine ⟨hdrains, fun j now series => ?_⟩
    rw [j.counter_add, hmeasured]
    exact UInt64.add_zero _
  case switched =>
    intro previous hheld hother
    obtain ⟨hdrains, hmeasured⟩ := hswitched previous hheld hother
    refine ⟨hdrains.trans (r.drains.fst_markDraining previous), fun j now => ?_⟩
    rw [j.switches_add, hmeasured]
    rfl

/-- After any calls, as long as measured times stay below the reserved keys, a selection returns nothing
exactly when nothing is usable, and then it changes nothing. Otherwise it returns and holds an entry of the best
class that has any, the held one if it stays and else the first, and a switch starts draining exactly the
active connections of the tag that was held. -/
theorem selectBest_after_calls (margin : SwitchMargin) (grace : Span) (calls : List RoutingCall)
    (hreserved : ∀ s ∈ (afterCalls margin grace calls).ranking.entries, s.BelowReserved) :
    let r := afterCalls margin grace calls
    r.selector.margin = margin ∧
      (r.selectBest.2.1 = none ↔ r.ranking.availability = .noneUsable) ∧
      (r.selectBest.2.1 = none → r.selectBest.1 = r ∧
        ∀ (j : Journal) now, (j.add now r.selectBest.2.2).switches = j.switches) ∧
      ∀ c, r.selectBest.2.1 = some c → ∃ first, r.Selects first c := by
  intro r
  have h : Governed margin r := governed_afterCalls margin grace calls
  refine ⟨h.margin, ?_, fun hnone => ?_, fun c hc => ?_⟩
  · rw [selectBest_eq_none_iff, choose_eq_none_iff h hreserved]
  · rw [selectBest_of_none (selectBest_eq_none_iff.mp hnone)]
    exact ⟨rfl, fun j now => rfl⟩
  · cases hchoose : r.selector.choose r.ranking with
    | none =>
      rw [selectBest_eq_none_iff.mpr hchoose] at hc
      cases hc
    | some chosen =>
      rw [(selectBest_of_some hchoose).1] at hc
      cases hc
      exact selects_of_choose h hreserved hchoose

/-- When the held candidate is not ranked any more, another one replaces it, and its connection starts draining. -/
theorem selectBest_after_removal :
    let measured := fun ms => { Health.fresh with state := .qualified (Span.ofMillis ms) }
    let r := afterCalls (.absoluteMs 20) Span.zero
      [.apply [.register "a" 1, .observe ⟨"a", 1, measured 50⟩], .selectBest, .openConnection "a",
        .apply [.remove "a" 1, .register "b" 2, .observe ⟨"b", 2, measured 80⟩]]
    ∃ first c, r.selectBest.2.1 = some c ∧ r.Selects first c ∧ c.tag = "b" ∧
      r.selectBest.1.drains.opened.map Connection.phase = [.draining] := by
  intro measured r
  have hentries : r.ranking.entries = [⟨"b", 2, measured 80⟩] := by decide +kernel
  have hchosen : r.selectBest.2.1 = some ⟨"b", 2, measured 80⟩ := by decide +kernel
  have hreserved : ∀ s ∈ r.ranking.entries, s.BelowReserved := by
    intro s hs rtt hrtt
    rw [hentries, List.mem_singleton] at hs
    rw [hs] at hrtt
    cases hrtt
    decide
  obtain ⟨-, -, -, hselects⟩ := selectBest_after_calls (.absoluteMs 20) Span.zero _ hreserved
  obtain ⟨first, h⟩ := hselects _ hchosen
  have hdrains := (h.switched "a" (by decide +kernel) (by decide)).1
  refine ⟨first, _, hchosen, h, rfl, ?_⟩
  rw [hdrains]
  decide +kernel

end Routing

end OutboundWatch
