import OutboundWatch.Proofs.Evolution
import OutboundWatch.Proofs.Hysteresis
import OutboundWatch.Proofs.Pipeline
import OutboundWatch.Proofs.Selection

/-!
# Grades in the live ranking

A measured time was within the timeout when its probe ended, and it was graded against the ceiling before it was
ranked. Both are far below the reserved keys, and so one order on spans lists the classes one after the other.
-/

namespace OutboundWatch

/-- What a probe under a timeout can result in: a round trip that succeeds has not taken longer. -/
def ProbeResult.Within (timeout : Span) : ProbeResult → Prop
  | .success rtt => rtt ≤ timeout
  | .failure _ => True

lemma RoundTrip.within_judge (timeout : Span) (trip : RoundTrip) : (trip.judge timeout).Within timeout := by
  cases trip with
  | hangs => trivial
  | finishes delay failure =>
    simp only [judge]
    by_cases hle : delay ≤ timeout
    · rw [if_pos hle]
      cases failure with
      | none => exact hle
      | some reason => trivial
    · rw [if_neg hle]
      trivial

/-- The measured time of a usable state is in the range of its class. -/
def HealthState.Graded (ceiling timeout : Span) : HealthState → Prop
  | .qualified rtt => rtt ≤ ceiling
  | .unqualified rtt => ceiling < rtt ∧ rtt ≤ timeout
  | .untested => True
  | .failed _ => True

namespace Classifier

variable (c : Classifier) {timeout : Span}

lemma graded_grade {rtt : Span} (hrtt : rtt ≤ timeout) : (c.grade rtt).Graded c.qualityCeiling timeout := by
  unfold grade
  split
  · rename_i hslow
    exact ⟨hslow, hrtt⟩
  · rename_i hquick
    rw [Span.lt_def, Nat.not_lt] at hquick
    exact Span.le_def.mpr hquick

/-- A failure leaves the measured time as it is, or takes it away. -/
lemma graded_onFailure {h : Health} (hgraded : h.state.Graded c.qualityCeiling timeout)
    (reason : ProbeFailure) : (c.onFailure h reason).state.Graded c.qualityCeiling timeout := by
  unfold onFailure
  cases hstate : h.state with
  | untested => trivial
  | failed _ => trivial
  | qualified rtt =>
    dsimp only
    rw [hstate] at hgraded
    split
    · trivial
    · exact hgraded
  | unqualified rtt =>
    dsimp only
    rw [hstate] at hgraded
    split
    · trivial
    · exact hgraded

lemma graded_onSuccess (h : Health) {rtt : Span} (hrtt : rtt ≤ timeout) :
    (c.onSuccess h rtt).state.Graded c.qualityCeiling timeout := by
  unfold onSuccess
  cases h.state with
  | failed _ => trivial
  | _ => exact c.graded_grade hrtt

lemma graded_observe {h : Health} (hgraded : h.state.Graded c.qualityCeiling timeout) (time : WallTime)
    {result : ProbeResult} (hwithin : result.Within timeout) :
    (c.observe time h result).state.Graded c.qualityCeiling timeout := by
  cases result with
  | success rtt => exact c.graded_onSuccess _ hwithin
  | failure reason => exact c.graded_onFailure (h := { h with lastProbe := some time }) hgraded reason

/-- Every state that results within a timeout lead to is graded, also by times that are kept over failures. -/
lemma graded_observeAll {results : List (WallTime × ProbeResult)} (hwithin : ∀ r ∈ results, r.2.Within timeout) :
    (c.observeAll Health.fresh results).state.Graded c.qualityCeiling timeout := by
  induction results using List.reverseRecOn with
  | nil => trivial
  | append_singleton results last ih =>
    rw [observeAll_append_singleton]
    apply c.graded_observe
    · exact ih fun r hr => hwithin r (List.mem_append_left _ hr)
    · exact hwithin last (List.mem_append_right _ (List.mem_singleton_self last))

end Classifier

/-- The results that cycles complete in a run are within the timeout that all cycles have. -/
lemma Run.within_of_completed {o p : Observatory} {steps : List Step} (run : Run o steps p) {generation : Nat}
    {r : WallTime × ProbeResult} (hr : r ∈ completed generation steps) :
    r.2.Within o.scheduler.settings.timeout := by
  obtain ⟨s, hs, hcompleted⟩ := List.mem_flatMap.mp hr
  obtain ⟨earlier, later, rfl⟩ := List.append_of_mem hs
  have hsettings := run.around.1.evolves.scheduler.settings
  unfold Step.completed at hcompleted
  split at hcompleted
  · rename_i now id move _
    split at hcompleted
    · rename_i owner result hcompletion
      split at hcompleted
      · rw [List.mem_singleton.mp hcompleted, ← hsettings]
        cases move with
        | quit => cases hcompletion
        | advance =>
          obtain ⟨c, -, hresult⟩ := Option.bind_eq_some_iff.mp hcompletion
          obtain ⟨measured, hmeasured, heq⟩ := Option.map_eq_some_iff.mp hresult
          cases heq
          unfold Cycle.result? at hmeasured
          split at hmeasured <;> cases hmeasured
          exact RoundTrip.within_judge _ _
      · cases hcompleted
    · cases hcompleted
  · cases hcompleted

def StateLabel.place : StateLabel → Nat
  | qualified => 0
  | unqualified => 1
  | untested => 2
  | failed => 3

namespace Status

variable {a b s : Status} {ceiling timeout : Span}

/-- The order of the ranking as it is meant: classes one after the other, the qualified by their times, and all
that is left to decide by the tags. -/
def Precedes (a b : Status) : Prop :=
  a.label.place < b.label.place ∨
    (a.label = b.label ∧
      ((∃ mine theirs, a.health.state = .qualified mine ∧ b.health.state = .qualified theirs ∧ mine < theirs) ∨
        ((a.label = .qualified → a.health.state = b.health.state) ∧ a.tag < b.tag)))

lemma belowReserved_of_graded (hceiling : ceiling < rttUnqualified)
    (hgraded : s.health.state.Graded ceiling timeout) : s.BelowReserved := by
  intro rtt hrtt
  rw [hrtt] at hgraded
  exact Span.lt_def.mpr (Nat.lt_of_le_of_lt (Span.le_def.mp hgraded) (Span.lt_def.mp hceiling))

lemma BelowReserved.nanos_lt_of_place (ha : a.BelowReserved) (hplace : a.label.place < b.label.place) :
    a.lastDuration.nanos < b.lastDuration.nanos := by
  have hascending := reserved_ascending
  have hqualified := ha.label_eq_qualified_iff
  unfold label lastDuration at *
  cases hstate : a.health.state <;> cases hother : b.health.state <;>
    simp_all [HealthState.label, HealthState.lastDuration, StateLabel.place] <;> omega

lemma lastDuration_eq_of_label (hlabel : a.label = b.label) (hreserved : a.label ≠ .qualified) :
    a.lastDuration = b.lastDuration := by
  unfold label lastDuration at *
  cases hstate : a.health.state <;> cases hother : b.health.state <;>
    simp_all [HealthState.label, HealthState.lastDuration]

lemma eq_of_place (hplace : a.label.place = b.label.place) : a.label = b.label := by
  revert hplace
  cases a.label <;> cases b.label <;> simp [StateLabel.place]

/-- The one order on keys is the order of the ranking. -/
lemma precedes_of_rankLe (hb : b.BelowReserved) (hle : a.rankLe b = true) (hother : a.tag ≠ b.tag) :
    a.Precedes b := by
  rw [rankLe_iff] at hle
  have hnot : ¬b.label.place < a.label.place := by
    intro hplace
    have hless := hb.nanos_lt_of_place hplace
    omega
  rcases Nat.lt_or_ge a.label.place b.label.place with hplace | hplace
  · exact .inl hplace
  · have hlabel : a.label = b.label := eq_of_place (by omega)
    refine .inr ⟨hlabel, ?_⟩
    by_cases hqualified : a.label = .qualified
    · obtain ⟨mine, hmine⟩ := label_eq_qualified.mp hqualified
      obtain ⟨theirs, htheirs⟩ := label_eq_qualified.mp (hlabel ▸ hqualified)
      have hkeys : a.lastDuration = mine ∧ b.lastDuration = theirs := by
        simp [lastDuration, hmine, htheirs, HealthState.lastDuration]
      rw [hkeys.1, hkeys.2] at hle
      rcases hle with hless | ⟨hsame, htag⟩
      · exact .inl ⟨mine, theirs, hmine, htheirs, Span.lt_def.mpr hless⟩
      · refine .inr ⟨fun _ => ?_, ?_⟩
        · rw [hmine, htheirs, Span.ext_nanos hsame]
        · by_contra hnotless
          exact hother (String.le_antisymm htag (String.not_lt.mp hnotless))
    · have hsame := congrArg Span.nanos (lastDuration_eq_of_label hlabel hqualified)
      refine .inr ⟨fun h => absurd h hqualified, ?_⟩
      rcases hle with hless | ⟨-, htag⟩
      · omega
      · by_contra hnotless
        exact hother (String.le_antisymm htag (String.not_lt.mp hnotless))

end Status

/-- What a ranking shows when every measured time in it was graded: `ceiling` and `timeout` bound the times, and
the classes follow each other. -/
structure Snapshot.Graded (ranking : Snapshot) (ceiling timeout : Span) : Prop where
  qualified : ∀ s ∈ ranking.entries, ∀ rtt, s.health.state = .qualified rtt → rtt ≤ ceiling
  unqualified : ∀ s ∈ ranking.entries, ∀ rtt, s.health.state = .unqualified rtt → ceiling < rtt ∧ rtt ≤ timeout
  below_reserved : ∀ s ∈ ranking.entries, s.lastDuration < rttUnqualified ↔ s.label = .qualified
  ordered : ranking.entries.Pairwise Status.Precedes
  first_usable : (∃ first, ranking.first? = some first ∧ first.isUsable = true) ↔
    ∃ n, ranking.availability = .available n
  usable_count : ∀ n, ranking.availability = .available n →
    n = ranking.entries.countP (fun s => decide (s.label = .qualified)) +
      ranking.entries.countP fun s => decide (s.label = .unqualified)

lemma Snapshot.countP_isUsable (entries : List Status) :
    entries.countP Status.isUsable = entries.countP (fun s => decide (s.label = .qualified)) +
      entries.countP fun s => decide (s.label = .unqualified) := by
  induction entries with
  | nil => rfl
  | cons s rest ih =>
    simp only [List.countP_cons, ih, decide_eq_true_eq, Status.isUsable_iff_label]
    cases s.label <;> simp <;> omega

namespace RankingTable.Published

variable {table : RankingTable} {ceiling timeout : Span} (h : table.Published)

include h

/-- A published ranking whose entries are graded shows what it should. -/
theorem graded (hceiling : ceiling < rttUnqualified)
    (hgraded : ∀ s ∈ table.snapshot.entries, s.health.state.Graded ceiling timeout) :
    table.snapshot.Graded ceiling timeout := by
  have hreserved : ∀ s ∈ table.snapshot.entries, s.BelowReserved :=
    fun s hs => Status.belowReserved_of_graded hceiling (hgraded s hs)
  refine ⟨fun s hs rtt hrtt => ?_, fun s hs rtt hrtt => ?_, fun s hs => ?_, ?_, ?_, fun n hn => ?_⟩
  · have hown := hgraded s hs
    rwa [hrtt] at hown
  · have hown := hgraded s hs
    rwa [hrtt] at hown
  · rw [Span.lt_def, (hreserved s hs).label_eq_qualified_iff]
  · have hapart : table.snapshot.entries.Pairwise fun a b => a.tag ≠ b.tag := by
      rw [← List.pairwise_map]
      exact h.nodup_tags
    refine (h.ascending.and hapart).imp_of_mem fun {a b} _ hb hboth => ?_
    exact Status.precedes_of_rankLe (hreserved b hb) hboth.1 hboth.2
  · have hnone := table.snapshot.availability_eq_noneUsable_iff
    constructor
    · rintro ⟨first, hfirst, husable⟩
      cases havailability : table.snapshot.availability with
      | available n => exact ⟨n, rfl⟩
      | noneUsable =>
        rw [hnone.mp havailability first (List.mem_of_head? hfirst)] at husable
        cases husable
    · rintro ⟨n, hn⟩
      have hsome : ∃ s ∈ table.snapshot.entries, s.isUsable = true := by
        by_contra hno
        rw [hnone.mpr fun s hs => by simpa using fun husable => hno ⟨s, hs, husable⟩] at hn
        cases hn
      obtain ⟨s, hs, husable⟩ := hsome
      cases hfirst : table.snapshot.first? with
      | none =>
        rw [List.head?_eq_none_iff.mp hfirst] at hs
        cases hs
      | some first => exact ⟨first, rfl, h.first_usable hfirst hs hreserved husable⟩
  · rw [← Snapshot.countP_isUsable]
    unfold Snapshot.availability at hn
    dsimp only at hn
    split at hn <;> cases hn
    rfl

end RankingTable.Published

namespace Observatory

lemma ceiling_lt_reserved (ms : UInt64) : Span.ofMillis ms < rttUnqualified := by
  have hms := ms.toNat_lt
  rw [Span.lt_def]
  change ms.toNat * 1000000 < 18446744073709551616000000000 - 1 - 2
  omega

end Observatory

/-- In every state that an observatory comes to, whatever its probes meet, the qualified entries of the ranking are
within the ceiling and the unqualified ones beyond it and within the timeout, and the ranking lists the classes one
after the other. -/
theorem live_ranking_graded {config : Config} {world : World} {started o : Observatory} {records : List Record}
    {steps : List Step} (hstart : Observatory.start config world = .ok (started, records))
    (run : Run started steps o) :
    o.ranking.Graded (Span.ofMillis config.classifier.qualityCeilingMs) config.probe.timeout := by
  have hsince := Observatory.evolves_of_start hstart
  have hpublished : o.routing.table.Published :=
    (hsince.trans run.evolves).published RankingTable.published_empty
  have htracks := ((Tracks.create config world).registrations
    (Observatory.registrations_of_start hstart)).run run
  have htimeout : started.scheduler.settings.timeout = config.probe.timeout := by
    rw [hsince.scheduler.settings]
    rfl
  refine hpublished.graded (Observatory.ceiling_lt_reserved _) fun s hs => ?_
  -- An entry shows the verdict of its cycle on results that were all completed in this run.
  have hmember := (hpublished.mem_entries_iff s).mp hs
  have hregistered := htracks.ordered.agreement.ranked s.tag
  rw [hmember] at hregistered
  obtain ⟨c, hc, -⟩ := Option.map_eq_some_iff.mp hregistered.symm
  obtain ⟨done, more, hresults, -, hflow⟩ := htracks.flows s.tag c hc
  have hverdict : s = _ := Option.some.inj (hmember.symm.trans hflow.ranked)
  rw [hverdict, ← Classifier.qualityCeiling_create config.classifier.failureThreshold
    (Span.ofMillis config.classifier.qualityCeilingMs), ← htimeout]
  apply Classifier.graded_observeAll
  intro r hr
  have hcompleted : r ∈ completed c.generation steps := by
    rw [hresults]
    exact List.mem_append_left _ hr
  exact run.within_of_completed hcompleted

/-- Of two candidates that have answered, one is within the ceiling and the other is beyond it. -/
theorem live_ranking_of_quick_and_slow :
    ∃ steps o, Run (.create Config.bare World.desert) steps o ∧
      (o.ranking.get? "a").map Status.label = some .unqualified ∧
      (o.ranking.get? "b").map Status.label = some .qualified ∧
      o.ranking.Graded (Span.ofMillis Config.bare.classifier.qualityCeilingMs) Config.bare.probe.timeout := by
  have hplayed : ((Observatory.create Config.bare World.desert).play? [
      .register "a" ⟨"a", fun _ => .finishes (Span.ofMillis 450) none⟩,
      .register "b" ⟨"b", fun _ => .finishes (Span.ofMillis 7) none⟩, .cycle 0 0 .advance, .cycle 0 1 .advance,
      .cycle 0 0 .advance, .cycle 0 1 .advance, .cycle 7000000 1 .advance, .deliver 7000000 1,
      .cycle 450000000 0 .advance, .deliver 450000000 0, .publisher .begin, .publisher (.publish 2)]).map
        (fun played => ((played.2.routing.table.members.get? "a").map Status.label,
          (played.2.routing.table.members.get? "b").map Status.label)) =
      some (some .unqualified, some .qualified) := by
    decide +kernel
  obtain ⟨⟨steps, o⟩, hsteps, hlabels⟩ := Option.map_eq_some_iff.mp hplayed
  obtain ⟨hslow, hquick⟩ := Prod.mk.inj hlabels
  obtain ⟨records, hstart⟩ := start_bare
  have run := Run.of_play? hsteps
  have hpublished := run.evolves.published RankingTable.published_empty
  refine ⟨steps, o, run, ?_, ?_, live_ranking_graded hstart run⟩
  · rw [Observatory.ranking, Routing.ranking, hpublished.get?_snapshot, hslow]
  · rw [Observatory.ranking, Routing.ranking, hpublished.get?_snapshot, hquick]

end OutboundWatch
