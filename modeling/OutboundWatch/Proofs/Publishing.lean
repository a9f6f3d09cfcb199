import OutboundWatch.Proofs.Operations
import OutboundWatch.Proofs.Snapshots

/-!
# No update is lost on its way to the ranking

Updates are sent, the publisher takes its turns, the queue is closed and the shutdown signal is given, in any
order. At every moment the table is what the accepted updates make of it one by one, up to those that are still
queued, and a publisher that has ended leaves none behind.
-/

namespace OutboundWatch

/-- What the publisher does in one turn, which nothing interrupts. Where several turns are possible, any of them
may be taken. -/
inductive PublisherTurn where
  | begin
  /-- The oldest updates are taken, up to one batch. -/
  | publish
  /-- The shutdown signal is followed. -/
  | flush
  /-- Nobody sends any more, and nothing is queued. -/
  | finish
  deriving DecidableEq

namespace Publisher

variable {p after : Publisher} {table published : RankingTable} {turn : PublisherTurn} {records : List Record}

def turn? (p : Publisher) (table : RankingTable) :
    PublisherTurn → Option (Publisher × RankingTable × List Record)
  | .begin => if p.phase = .starting then some (p.begin.1, table, p.begin.2) else none
  | .publish => if p.phase = .running ∧ p.feed.queued ≠ [] then some (p.publish table) else none
  | .flush => if p.phase = .running ∧ p.signalled then some (p.flush table) else none
  | .finish =>
    if p.phase = .running ∧ p.feed.sending = false ∧ p.feed.queued = [] then
      some (p.finish, table, [.notice .publisherStopped])
    else none

/-- The turn as a move, which says how much is taken. -/
def moveOf (p : Publisher) : PublisherTurn → PublisherMove
  | .begin => .begin
  | .publish => .publish (min Feed.maxBatch p.feed.queued.length)
  | .flush => .flush
  | .finish => .finish

lemma publishFirst_batch (p : Publisher) (table : RankingTable) :
    p.publishFirst (min Feed.maxBatch p.feed.queued.length) table = p.publish table := by
  rw [publishFirst, ← List.take_eq_take_min, ← List.drop_eq_drop_min]
  rfl

lemma turn?_eq_move? (p : Publisher) (table : RankingTable) (turn : PublisherTurn) :
    p.turn? table turn = p.move? table (p.moveOf turn) := by
  cases turn with
  | begin => rfl
  | flush => rfl
  | finish => rfl
  | publish =>
    have hbatch : 0 < min Feed.maxBatch p.feed.queued.length ↔ p.feed.queued ≠ [] := by
      rw [← List.length_pos_iff]
      simp only [Feed.maxBatch]
      omega
    have hless := Nat.min_le_left Feed.maxBatch p.feed.queued.length
    have hless' := Nat.min_le_right Feed.maxBatch p.feed.queued.length
    simp only [turn?, moveOf, move?, publishFirst_batch, hbatch, hless, hless', and_true]

/-- What the publisher has to do is one of its turns. -/
theorem turn?_of_work? {result : Publisher × RankingTable × List Record}
    (happens : p.work? table = some result) : ∃ turn, p.turn? table turn = some result := by
  unfold work? at happens
  split at happens <;> rename_i hphase
  · cases happens
  · refine ⟨.begin, ?_⟩
    rw [turn?, if_pos hphase]
    exact happens
  · split at happens
    · rename_i hsignalled
      refine ⟨.flush, ?_⟩
      rw [turn?, if_pos ⟨hphase, hsignalled⟩]
      exact happens
    · split at happens
      · rename_i hqueued
        refine ⟨.publish, ?_⟩
        rw [turn?, if_pos ⟨hphase, hqueued⟩]
        exact happens
      · split at happens
        · cases happens
        · rename_i hqueued hsending
          refine ⟨.finish, ?_⟩
          rw [turn?, if_pos ⟨hphase, by simpa using hsending, by simpa using hqueued⟩]
          exact happens

/-- A turn that ends the publisher empties the queue for good, and it has a reason. -/
lemma turn?_phase (h : p.turn? table turn = some (after, published, records)) :
    p.phase ≠ .ended ∧ (after.phase = .ended → after.feed.receiving = false ∧ after.feed.queued = [] ∧
      (after.signalled = true ∨ after.feed.sending = false)) := by
  cases turn with
  | begin =>
    simp only [turn?] at h
    split at h <;> cases h
    rename_i hphase
    exact ⟨by simp [hphase], by simp [begin]⟩
  | publish =>
    simp only [turn?] at h
    split at h <;> cases h
    rename_i hready
    exact ⟨by simp [hready.1], fun hended => absurd (hready.1.symm.trans hended) (by simp)⟩
  | flush =>
    simp only [turn?] at h
    split at h <;> cases h
    rename_i hready
    exact ⟨by simp [hready.1], fun _ => ⟨rfl, rfl, .inl hready.2⟩⟩
  | finish =>
    simp only [turn?] at h
    split at h <;> cases h
    rename_i hready
    exact ⟨by simp [hready.1], fun _ => ⟨rfl, rfl, .inr hready.2.1⟩⟩

end Publisher

namespace RankingTable

/-- The table after updates that are applied one at a time. -/
def applyEach (table : RankingTable) (updates : List TableUpdate) : RankingTable :=
  updates.foldl (fun table update => (table.apply [update]).1) table

lemma members_applyEach (table : RankingTable) (updates : List TableUpdate) :
    (table.applyEach updates).members = updates.foldl step table.members := by
  induction updates generalizing table with
  | nil => rfl
  | cons update rest ih =>
    have hrest := ih (table.apply [update]).1
    rw [members_apply] at hrest
    exact hrest

lemma Published.applyEach {table : RankingTable} (h : table.Published) (updates : List TableUpdate) :
    (table.applyEach updates).Published := by
  induction updates generalizing table with
  | nil => exact h
  | cons update rest ih => exact ih (h.apply [update])

/-- An update takes effect on a table if it registers a tag or changes what is kept under one. -/
def Affects (update : TableUpdate) (table : RankingTable) : Prop :=
  (∃ tag generation, update = .register tag generation) ∨
    ∃ key, (table.apply [update]).1.members.get? key ≠ table.members.get? key

lemma takesEffect_iff (table : RankingTable) (update : TableUpdate) :
    takesEffect table.members update = true ↔ Affects update table := by
  have hmembers : (table.apply [update]).1.members = step table.members update := members_apply table [update]
  constructor
  · intro heffect
    rw [Affects, hmembers]
    cases update with
    | register tag generation => exact .inl ⟨tag, generation, rfl⟩
    | observe status =>
      refine .inr ⟨status.tag, ?_⟩
      simp only [step, heffect, if_true, TagMap.get?_insert]
      simp only [takesEffect] at heffect
      split at heffect
      · rename_i existing hexisting
        have hother : existing ≠ status := by simp_all
        simpa [hexisting] using hother.symm
      · cases heffect
    | remove tag generation =>
      refine .inr ⟨tag, ?_⟩
      simp only [step, heffect, if_true, TagMap.get?_erase]
      simp only [takesEffect] at heffect
      split at heffect
      · rename_i existing hexisting
        simp [hexisting]
      · cases heffect
  · rintro (⟨tag, generation, rfl⟩ | ⟨key, hkey⟩)
    · rfl
    · by_contra hnone
      have hsame : step table.members update = table.members := by simp [step, hnone]
      rw [hmembers, hsame] at hkey
      exact hkey rfl

/-- Whether an update of the batch takes effect in its turn. -/
def AffectedBy (table : RankingTable) (batch : List TableUpdate) : Prop :=
  ∃ earlier update later, batch = earlier ++ update :: later ∧ Affects update (table.applyEach earlier)

lemma snd_applyAll_iff (table : RankingTable) (batch : List TableUpdate) :
    (applyAll table.members batch).2 = true ↔ table.AffectedBy batch := by
  induction batch generalizing table with
  | nil =>
    refine ⟨fun h => (by cases h), ?_⟩
    rintro ⟨earlier, update, later, hbatch, -⟩
    simp at hbatch
  | cons update rest ih =>
    have hrest := ih (table.apply [update]).1
    rw [members_apply, List.foldl_cons, List.foldl_nil] at hrest
    simp only [applyAll, Bool.or_eq_true, takesEffect_iff, hrest]
    constructor
    · rintro (hfirst | ⟨earlier, later, rest', rfl, heffect⟩)
      · exact ⟨[], update, rest, rfl, hfirst⟩
      · exact ⟨update :: earlier, later, rest', rfl, heffect⟩
    · rintro ⟨earlier, first, later, hbatch, heffect⟩
      cases earlier with
      | nil =>
        cases hbatch
        exact .inl heffect
      | cons other earlier =>
        obtain ⟨rfl, rfl⟩ := List.cons.inj hbatch
        exact .inr ⟨earlier, first, later, rfl, heffect⟩

/-- A batch raises the version by one if one of its updates takes effect, and else leaves it. -/
theorem version_apply (table : RankingTable) (batch : List TableUpdate) :
    (table.AffectedBy batch → (table.apply batch).1.snapshot.version = table.snapshot.version + 1) ∧
      (¬table.AffectedBy batch → (table.apply batch).1.snapshot.version = table.snapshot.version) := by
  rw [fst_apply, ← snd_applyAll_iff]
  constructor
  · intro heffect
    rw [if_pos heffect]
    rfl
  · intro hnone
    rw [if_neg hnone]

end RankingTable

/-- What happens to a ranking and its publisher. -/
inductive FeedEvent where
  /-- An update is accepted; one that is refused leaves everything as it is. -/
  | send (update : TableUpdate)
  | close
  | signal
  | turn (turn : PublisherTurn)
  deriving DecidableEq

/-- The updates that were accepted, in the order in which they were sent. -/
def accepted (events : List FeedEvent) : List TableUpdate :=
  events.filterMap fun event =>
    match event with
    | .send update => some update
    | _ => none

lemma accepted_append (events more : List FeedEvent) :
    accepted (events ++ more) = accepted events ++ accepted more :=
  List.filterMap_append

namespace PublishedRanking

def perform? (r : PublishedRanking) : FeedEvent → Option PublishedRanking
  | .send update =>
    (r.publisher.feed.send? update).map fun feed => { r with publisher := { r.publisher with feed := feed } }
  | .close => some { r with publisher := r.publisher.close }
  | .signal => some { r with publisher := r.publisher.signal }
  | .turn turn =>
    (r.publisher.turn? r.table turn).map fun (publisher, table, _) => ⟨publisher, table⟩

/-- The state after some events, if they are possible one after the other. -/
def after? (r : PublishedRanking) (events : List FeedEvent) : Option PublishedRanking :=
  events.foldlM perform? r

variable {r q : PublishedRanking} {events more : List FeedEvent}

lemma perform?_turn {turn : PublisherTurn} (happens : r.perform? (.turn turn) = some q) :
    ∃ records, r.publisher.turn? r.table turn = some (q.publisher, q.table, records) := by
  obtain ⟨⟨publisher, table, records⟩, hturn, rfl⟩ := Option.map_eq_some_iff.mp happens
  exact ⟨records, hturn⟩

/-- A turn applies the oldest updates as one batch and takes them from the queue. -/
theorem turn_batch {turn : PublisherTurn} (happens : r.perform? (.turn turn) = some q) :
    let count := r.publisher.taken (r.publisher.moveOf turn)
    q.table = (r.table.apply (r.publisher.feed.queued.take count)).1 ∧
      q.publisher.feed.queued = r.publisher.feed.queued.drop count := by
  obtain ⟨records, hturn⟩ := perform?_turn happens
  rw [Publisher.turn?_eq_move?] at hturn
  obtain ⟨hqueued, hpublished, -⟩ := Publisher.move?_cases hturn
  exact ⟨hpublished, hqueued⟩

/-- The table has seen the accepted updates up to those that are queued. None is queued once the publisher has
ended, and none is accepted any more. -/
structure Delivers (start : RankingTable) (updates : List TableUpdate) (r : PublishedRanking) : Prop where
  published : r.table.Published
  applied : ∃ applied, updates = applied ++ r.publisher.feed.queued ∧
    r.table.members = applied.foldl RankingTable.step start.members
  ended : r.publisher.phase = .ended → r.publisher.feed.receiving = false ∧ r.publisher.feed.queued = [] ∧
    (r.publisher.signalled = true ∨ r.publisher.feed.sending = false)

namespace Delivers

variable {start : RankingTable} {updates : List TableUpdate}

lemma create (capacity : Nat) (h : start.Published) : Delivers start [] ⟨Publisher.create capacity, start⟩ where
  published := h
  applied := ⟨[], rfl, rfl⟩
  ended hended := by cases hended

lemma send (h : Delivers start updates r) {update : TableUpdate} (happens : r.perform? (.send update) = some q) :
    Delivers start (updates ++ [update]) q := by
  obtain ⟨feed, hsend, rfl⟩ := Option.map_eq_some_iff.mp happens
  obtain ⟨hreceiving, rfl⟩ := Feed.send?_cases hsend
  obtain ⟨applied, hupdates, hmembers⟩ := h.applied
  refine ⟨h.published, ⟨applied, ?_, hmembers⟩, fun hended => ?_⟩
  · rw [hupdates, List.append_assoc]
  · have hclosed := (h.ended hended).1
    rw [hreceiving] at hclosed
    cases hclosed

lemma turn (h : Delivers start updates r) {turn : PublisherTurn} (happens : r.perform? (.turn turn) = some q) :
    Delivers start updates q := by
  obtain ⟨htable, hqueued⟩ := turn_batch happens
  obtain ⟨records, hturn⟩ := perform?_turn happens
  obtain ⟨applied, hupdates, hmembers⟩ := h.applied
  generalize r.publisher.taken (r.publisher.moveOf turn) = count at htable hqueued
  refine ⟨?_, ⟨applied ++ r.publisher.feed.queued.take count, ?_, ?_⟩, (Publisher.turn?_phase hturn).2⟩
  · rw [htable]
    exact h.published.apply _
  · rw [hqueued, List.append_assoc, List.take_append_drop]
    exact hupdates
  · rw [htable, RankingTable.members_apply, hmembers, List.foldl_append]

/-- Every event keeps this, with what it makes accepted. -/
theorem perform? (h : Delivers start updates r) {event : FeedEvent} (happens : r.perform? event = some q) :
    Delivers start (updates ++ accepted [event]) q := by
  cases event with
  | send update => exact h.send happens
  | close =>
    cases happens
    rw [show accepted [FeedEvent.close] = [] from rfl, List.append_nil]
    exact ⟨h.published, h.applied, fun hended => ⟨(h.ended hended).1, (h.ended hended).2.1, .inr rfl⟩⟩
  | signal =>
    cases happens
    rw [show accepted [FeedEvent.signal] = [] from rfl, List.append_nil]
    exact ⟨h.published, h.applied, fun hended => ⟨(h.ended hended).1, (h.ended hended).2.1, .inl rfl⟩⟩
  | turn turn =>
    rw [show accepted [FeedEvent.turn turn] = [] from rfl, List.append_nil]
    exact h.turn happens

theorem after? (h : Delivers start updates r) (run : r.after? events = some q) :
    Delivers start (updates ++ accepted events) q := by
  induction events generalizing r updates with
  | nil =>
    cases run
    simpa [accepted] using h
  | cons event rest ih =>
    obtain ⟨middle, hfirst, hrest⟩ := Option.bind_eq_some_iff.mp run
    have hlast := ih (h.perform? hfirst) hrest
    rw [List.append_assoc, ← accepted_append] at hlast
    exact hlast

lemma entries_eq (h : Delivers start updates r) (hstart : start.Published) {applied : List TableUpdate}
    (hmembers : r.table.members = applied.foldl RankingTable.step start.members) :
    r.table.snapshot.entries = (start.applyEach applied).snapshot.entries := by
  apply h.published.entries_eq (hstart.applyEach applied)
  intro tag
  rw [hmembers, RankingTable.members_applyEach]

end Delivers

/-- Nothing changes the table after the publisher has ended, and nothing is accepted. -/
theorem table_of_ended {start : RankingTable} {updates : List TableUpdate} (h : Delivers start updates r)
    (hended : r.publisher.phase = .ended) (run : r.after? more = some q) :
    q.table = r.table ∧ accepted more = [] := by
  induction more generalizing r updates with
  | nil =>
    cases run
    exact ⟨rfl, rfl⟩
  | cons event rest ih =>
    obtain ⟨middle, hfirst, hrest⟩ := Option.bind_eq_some_iff.mp run
    have hnext := h.perform? hfirst
    have hsame : middle.table = r.table ∧ middle.publisher.phase = .ended ∧ accepted [event] = [] := by
      cases event with
      | send update =>
        obtain ⟨feed, hsend, -⟩ := Option.map_eq_some_iff.mp hfirst
        have hreceiving := (Feed.send?_cases hsend).1
        rw [(h.ended hended).1] at hreceiving
        cases hreceiving
      | close =>
        cases hfirst
        exact ⟨rfl, hended, rfl⟩
      | signal =>
        cases hfirst
        exact ⟨rfl, hended, rfl⟩
      | turn turn =>
        obtain ⟨records, hturn⟩ := perform?_turn hfirst
        exact absurd hended (Publisher.turn?_phase hturn).1
    obtain ⟨htable, hnone⟩ := ih hnext hsame.2.1 hrest
    refine ⟨htable.trans hsame.1, ?_⟩
    rw [← List.singleton_append, accepted_append, hsame.2.2, hnone, List.append_nil]

/-- However sends, turns of the publisher, the closing of the queue and the shutdown signal follow each other,
the table is the one that results from the accepted updates that are not queued any more, applied one at a
time. A turn applies the oldest updates as one batch, as many as are queued but 256 at most, or all of them at
the shutdown signal, and raises the version by one if any of them takes effect. A publisher that has ended, at
the signal or because nobody sends, has applied all updates and never changes the table again. -/
theorem updates_applied_in_order (capacity : Nat) (batches : List (List TableUpdate))
    (run : after? ⟨Publisher.create capacity, RankingTable.ofBatches batches⟩ events = some r) :
    (∃ applied, accepted events = applied ++ r.publisher.feed.queued ∧
        r.table.members = ((RankingTable.ofBatches batches).applyEach applied).members ∧
        r.table.snapshot.entries = ((RankingTable.ofBatches batches).applyEach applied).snapshot.entries) ∧
      (∀ turn q, r.perform? (.turn turn) = some q →
        let count := match turn with
          | .begin => 0
          | .publish => min 256 r.publisher.feed.queued.length
          | .flush => r.publisher.feed.queued.length
          | .finish => 0
        let batch := r.publisher.feed.queued.take count
        q.table = (r.table.apply batch).1 ∧ q.publisher.feed.queued = r.publisher.feed.queued.drop count ∧
          (r.table.AffectedBy batch → q.table.snapshot.version = r.table.snapshot.version + 1) ∧
          (¬r.table.AffectedBy batch → q.table.snapshot.version = r.table.snapshot.version)) ∧
      (r.publisher.phase = .ended → r.publisher.feed.queued = [] ∧
        (r.publisher.signalled = true ∨ r.publisher.feed.sending = false) ∧
        ∀ more q, r.after? more = some q → q.table = r.table ∧ accepted more = []) := by
  have hstart := RankingTable.published_ofBatches batches
  have h : Delivers (RankingTable.ofBatches batches) (accepted events) r :=
    (Delivers.create capacity hstart).after? run
  refine ⟨?_, fun turn q happens => ?_, fun hended => ?_⟩
  · obtain ⟨applied, hupdates, hmembers⟩ := h.applied
    refine ⟨applied, hupdates, ?_, h.entries_eq hstart hmembers⟩
    rw [hmembers, RankingTable.members_applyEach]
  · obtain ⟨htable, hqueued⟩ := turn_batch happens
    have hversion := r.table.version_apply
      (r.publisher.feed.queued.take (r.publisher.taken (r.publisher.moveOf turn)))
    rw [← htable] at hversion
    cases turn <;> exact ⟨htable, hqueued, hversion⟩
  · obtain ⟨-, hqueued, hreason⟩ := h.ended hended
    exact ⟨hqueued, hreason, fun more q run => table_of_ended h hended run⟩

/-- A publisher that publishes once more after the signal and then follows it has applied everything. -/
theorem updates_applied_after_signal :
    ∃ r, after? ⟨Publisher.create 4, RankingTable.ofBatches []⟩ [.turn .begin, .send (.register "a" 1), .signal,
        .turn .publish, .send (.register "b" 2), .send (.remove "a" 1), .turn .flush] = some r ∧
      r.table.snapshot.entries = (RankingTable.empty.applyEach
        [.register "a" 1, .register "b" 2, .remove "a" 1]).snapshot.entries := by
  have hplayed : (after? ⟨Publisher.create 4, RankingTable.ofBatches []⟩ [.turn .begin, .send (.register "a" 1),
      .signal, .turn .publish, .send (.register "b" 2), .send (.remove "a" 1), .turn .flush]).map
        (fun r => r.publisher.phase) = some .ended := by
    decide +kernel
  obtain ⟨r, run, hphase⟩ := Option.map_eq_some_iff.mp hplayed
  obtain ⟨⟨applied, hupdates, -, hentries⟩, -, hended⟩ := updates_applied_in_order 4 [] run
  rw [(hended hphase).1, List.append_nil] at hupdates
  refine ⟨r, run, ?_⟩
  rw [hentries, ← hupdates]
  rfl

end PublishedRanking

end OutboundWatch
