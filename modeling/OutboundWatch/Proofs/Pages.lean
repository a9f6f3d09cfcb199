import OutboundWatch.Proofs.Admission
import OutboundWatch.Proofs.Finality
import OutboundWatch.Proofs.Grading
import OutboundWatch.Proofs.Readers

/-!
# What the admin pages agree on

The pages take what they show from the ranking, from the held tag and from the states, each in its own way. They tell
one story in every state that an observatory comes to, because a held tag is registered, the ranking has one entry
for each registration, and no measured time is a reserved key.
-/

namespace OutboundWatch

lemma Status.BelowReserved.isSentinel_iff {s : Status} (h : s.BelowReserved) :
    isSentinel s.lastDuration = true ↔ s.label ≠ .qualified := by
  rw [isSentinel, decide_eq_true_iff, Span.le_def, ne_eq, h.label_eq_qualified_iff, Nat.not_lt]

/-- No time that an observatory has measured is a reserved key. An entry shows the verdict of its cycle on results
that were all completed within the timeout, and what is qualified is within the ceiling. -/
lemma Reachable.belowReserved {o : Observatory} (ho : Reachable o) : ∀ s ∈ o.ranking.entries, s.BelowReserved := by
  have hpublished := ho.published
  obtain ⟨config, world, started, records, steps, hstart, run⟩ := ho
  have htracks := ((Tracks.create config world).registrations
    (Observatory.registrations_of_start hstart)).run run
  intro s hs
  have hmember := (hpublished.mem_entries_iff s).mp hs
  have hregistered := htracks.ordered.agreement.ranked s.tag
  rw [hmember] at hregistered
  obtain ⟨c, hc, -⟩ := Option.map_eq_some_iff.mp hregistered.symm
  obtain ⟨done, more, hresults, -, hflow⟩ := htracks.flows s.tag c hc
  have hverdict : s = _ := Option.some.inj (hmember.symm.trans hflow.ranked)
  apply Status.belowReserved_of_graded (Observatory.ceiling_lt_reserved config.classifier.qualityCeilingMs)
  rw [hverdict, ← Classifier.qualityCeiling_create config.classifier.failureThreshold
    (Span.ofMillis config.classifier.qualityCeilingMs)]
  apply Classifier.graded_observeAll
  intro r hr
  apply run.within_of_completed
  rw [hresults]
  exact List.mem_append_left _ hr

/-- The ranking has the registered tags. -/
lemma Reachable.mem_ranked_tags_iff {o : Observatory} (ho : Reachable o) (tag : String) :
    tag ∈ o.ranking.entries.map Status.tag ↔ o.registry.contains tag = true := by
  have hpublished := ho.published
  have hsame := ho.agreement.ranked tag
  apply Iff.trans _ (o.registry.candidates.contains_iff tag).symm
  constructor
  · intro hranked
    obtain ⟨s, hs, rfl⟩ := List.mem_map.mp hranked
    rw [(hpublished.mem_entries_iff s).mp hs] at hsame
    obtain ⟨c, hc, -⟩ := Option.map_eq_some_iff.mp hsame.symm
    exact ⟨c, hc⟩
  · rintro ⟨c, hc⟩
    rw [Registry.get?, hc] at hsame
    obtain ⟨s, hs, -⟩ := Option.map_eq_some_iff.mp hsame
    obtain rfl := hpublished.keyed tag s hs
    exact List.mem_map_of_mem ((hpublished.mem_entries_iff s).mpr hs)

lemma Snapshot.usable_eq_countP (ranking : Snapshot) : ranking.usable = ranking.entries.countP Status.isUsable := by
  unfold usable availability
  dsimp only
  split
  · rename_i n hn
    split at hn <;> cases hn
    rfl
  · rename_i hnone
    split at hnone
    · rename_i hzero
      exact hzero.symm
    · cases hnone

lemma Snapshot.usable_pos_iff (ranking : Snapshot) : 0 < ranking.usable ↔ ranking.availability ≠ .noneUsable := by
  rw [usable_eq_countP]
  unfold availability
  dsimp only
  split
  · rename_i hzero
    simp [hzero]
  · rename_i hsome
    simpa using Nat.pos_of_ne_zero hsome

namespace Admin

/-- What the view of a candidate tells of its entry. -/
structure CandidateView.Describes (view : CandidateView) (s : Status) : Prop where
  tag : view.tag = s.tag
  state : view.state = s.label
  lastDuration : view.lastDuration = if isSentinel s.lastDuration then none else some s.lastDuration.inMillis
  lastMeasured : view.lastMeasured.isSome = true ↔ view.state = .qualified ∨ view.state = .unqualified
  lastFailure : view.lastFailure.isSome = true ↔ view.state = .failed

lemma CandidateView.describes_ofStatus {s : Status} (h : s.BelowReserved) (rank : Nat) :
    (ofStatus rank s).Describes s := by
  have hsentinel := h.isSentinel_iff
  obtain ⟨tag, generation, state, lastProbe, failures, borderline⟩ := s
  cases state with
  | qualified rtt =>
    exact ⟨rfl, rfl, (if_neg fun h => hsentinel.mp h rfl).symm, iff_of_true rfl (.inl rfl), iff_of_false nofun nofun⟩
  | unqualified rtt =>
    exact ⟨rfl, rfl, (if_pos (hsentinel.mpr nofun)).symm, iff_of_true rfl (.inr rfl), iff_of_false nofun nofun⟩
  | untested =>
    exact ⟨rfl, rfl, (if_pos (hsentinel.mpr nofun)).symm, iff_of_false nofun nofun, iff_of_false nofun nofun⟩
  | failed reason =>
    exact ⟨rfl, rfl, (if_pos (hsentinel.mpr nofun)).symm, iff_of_false nofun nofun, iff_of_true rfl rfl⟩

section Views

variable {entries : List Status}

/-- The views of some entries, the first one at a place. The induction is along the entries. -/
lemma forall₂_views (hreserved : ∀ s ∈ entries, s.BelowReserved) (first : Nat) :
    List.Forall₂ CandidateView.Describes
      ((entries.zipIdx first).map fun (s, place) => CandidateView.ofStatus (place + 1) s) entries := by
  induction entries generalizing first with
  | nil => exact .nil
  | cons s rest ih =>
    rw [List.forall_mem_cons] at hreserved
    exact .cons (CandidateView.describes_ofStatus hreserved.1 _) (ih hreserved.2 (first + 1))

lemma rank_views (first : Nat) :
    ((entries.zipIdx first).map fun (s, place) => CandidateView.ofStatus (place + 1) s).map CandidateView.rank =
      List.range' (first + 1) entries.length := by
  induction entries generalizing first with
  | nil => rfl
  | cons s rest ih =>
    rw [List.zipIdx_cons, List.map_cons, List.map_cons, ih, List.length_cons, List.range'_succ]
    rfl

lemma tag_views (first : Nat) :
    ((entries.zipIdx first).map fun (s, place) => CandidateView.ofStatus (place + 1) s).map CandidateView.tag =
      entries.map Status.tag := by
  rw [List.map_map]
  exact (List.map_map (f := Prod.fst) (g := Status.tag)).symm.trans (by rw [List.zipIdx_map_fst])

lemma state_views (first : Nat) :
    ((entries.zipIdx first).map fun (s, place) => CandidateView.ofStatus (place + 1) s).map CandidateView.state =
      entries.map Status.label := by
  rw [List.map_map]
  exact (List.map_map (f := Prod.fst) (g := Status.label)).symm.trans (by rw [List.zipIdx_map_fst])

/-- A view tells by its state whether the entry is usable. -/
lemma countP_views (first : Nat) :
    ((entries.zipIdx first).map fun (s, place) => CandidateView.ofStatus (place + 1) s).countP
        (fun view => view.state = .qualified ∨ view.state = .unqualified) = entries.countP Status.isUsable := by
  let usable (label : StateLabel) : Bool := label = .qualified ∨ label = .unqualified
  generalize hviews : ((entries.zipIdx first).map fun (s, place) => CandidateView.ofStatus (place + 1) s) = views
  have hstates : views.map CandidateView.state = entries.map Status.label := hviews ▸ state_views first
  calc views.countP (usable ∘ CandidateView.state) = (views.map CandidateView.state).countP usable :=
        List.countP_map.symm
    _ = (entries.map Status.label).countP usable := by rw [hstates]
    _ = entries.countP (usable ∘ Status.label) := List.countP_map
    _ = entries.countP Status.isUsable := by
        apply List.countP_congr
        intro s _
        simpa [usable] using Status.isUsable_iff_label.symm

end Views

variable {table : RankingTable}

/-- The view of a tag is made from the entry at the position of the tag. -/
lemma ofRanking?_eq (h : table.Published) (tag : String) :
    (table.members.get? tag = none ∧ CandidateView.ofRanking? table.snapshot tag = none) ∨
      ∃ s place, table.snapshot.entries[place]? = some s ∧ s.tag = tag ∧
        CandidateView.ofRanking? table.snapshot tag = some (CandidateView.ofStatus (place + 1) s) := by
  obtain ⟨hget, hnone⟩ := h.position_of_member tag
  unfold CandidateView.ofRanking?
  cases hposition : table.snapshot.position? tag with
  | none => exact .inl ⟨hnone.mp hposition, rfl⟩
  | some place =>
    rw [hposition, Option.bind_some] at hget
    have hplace : place < table.snapshot.entries.length := (List.findIdx?_eq_some_iff_getElem.mp hposition).1
    rw [List.getElem?_eq_getElem hplace] at hget
    have htag : table.snapshot.entries[place].tag = tag := by simpa using List.find?_some hget
    rw [hget]
    exact .inr ⟨_, place, List.getElem?_eq_getElem hplace, htag, rfl⟩

/-- The view that a tag leads to is the one in the list. -/
lemma ofRanking?_of_mem (h : table.Published) {view : CandidateView}
    (hview : view ∈ table.snapshot.entries.zipIdx.map fun (s, place) => CandidateView.ofStatus (place + 1) s) :
    CandidateView.ofRanking? table.snapshot view.tag = some view := by
  obtain ⟨⟨s, place⟩, hplace, rfl⟩ := List.mem_map.mp hview
  have hat : table.snapshot.entries[place]? = some s := List.mem_zipIdx_iff_getElem?.mp hplace
  have hs : s ∈ table.snapshot.entries := List.mem_of_getElem? hat
  obtain ⟨habsent, -⟩ | ⟨other, otherPlace, hother, htag, hview⟩ := ofRanking?_eq h s.tag
  · rw [(h.mem_entries_iff s).mp hs] at habsent
    cases habsent
  · obtain rfl := h.eq_of_tag (List.mem_of_getElem? hother) hs htag
    have hsame : otherPlace = place := by
      apply (List.getElem?_inj (List.getElem?_eq_some_iff.mp hother).1 h.nodup_tags.of_map).mp
      rw [hother, hat]
    rw [← hsame]
    exact hview

variable {o : Observatory} {now : Moment}

/-- A reader with the key gets a response for a path, and the observatory stays as it is. -/
def Shows (o : Observatory) (now : Moment) (path : List Char) (response : Response) : Prop :=
  ∀ key request, Presents request key → request.method = "GET" → pathOf request.target = path →
    (respond now key request).run o = ((response, []), o)

lemma shows_of_route {path : List Char} {route : Route} (hroute : route? path = some route) {response : Response}
    (hpage : (page now route).run o = (response, o)) : Shows o now path response := by
  intro key request hkey hmethod hpath
  have hanswer : answer now request = page now route := by
    rw [answer, hpath, hroute]
    exact if_pos hmethod
  rw [respond, guarded_of_presents hkey, hanswer, StateT.run_map, hpage]
  rfl

lemma route?_candidate {encoded : List Char} (hsome : encoded ≠ []) (hslash : '/' ∉ encoded) :
    route? ("/admin/candidates/".toList ++ encoded) = some (.candidate encoded) := by
  have hsplit : ("/admin/candidates/".toList ++ encoded).splitOn '/' =
      [[], "admin".toList, "candidates".toList, encoded] := by
    have hjoined : "/admin/candidates/".toList ++ encoded =
        ['/'].intercalate [[], "admin".toList, "candidates".toList, encoded] := by
      simp [List.intercalate, List.intersperse]
    rw [hjoined]
    apply List.splitOn_intercalate
    · simp [hslash]
    · simp
  rw [route?, hsplit]
  exact if_pos ⟨by decide, by decide, hsome⟩

lemma run_candidatePage {encoded : List Char} {tag : String}
    (htag : Percent.textOf? (Percent.decode encoded) = some tag) :
    (page now (.candidate encoded)).run o = (match CandidateView.ofRanking? o.ranking tag with
      | some view => ⟨200, .candidate view⟩
      | none => ⟨404, .failure ("candidate not registered: " ++ tag)⟩, o) := by
  rw [page, candidatePage, htag]
  dsimp only
  simp only [StateT.run_bind, StateT.run_get, pure_bind]
  cases CandidateView.ofRanking? o.ranking tag <;> rfl

/-- In every state that an observatory comes to, whoever has the key finds on the ranking page one view for each
registered candidate, in ranking order, with places counted from one; on the page of a candidate the same view, or
that it is not registered; on the status page the number of views and of those with a usable state; and on the page
of the best whether there are any, which is whether a selection returns one, and the view of the held candidate. -/
theorem pages_agree (ho : Reachable o) (now : Moment) :
    ∃ views system best, Shows o now "/admin/ranking".toList ⟨200, .ranking views⟩ ∧
      Shows o now "/admin/status".toList ⟨200, .system system⟩ ∧
      Shows o now "/admin/best".toList ⟨200, .best best⟩ ∧
      (List.Forall₂ CandidateView.Describes views o.ranking.entries ∧
        views.map CandidateView.rank = List.range' 1 views.length ∧ (views.map CandidateView.tag).Nodup ∧
        ∀ tag, tag ∈ views.map CandidateView.tag ↔ o.registry.contains tag = true) ∧
      (∀ encoded tag, encoded ≠ [] → '/' ∉ encoded → Percent.textOf? (Percent.decode encoded) = some tag →
        (∀ view ∈ views, view.tag = tag →
          Shows o now ("/admin/candidates/".toList ++ encoded) ⟨200, .candidate view⟩) ∧
        (o.registry.contains tag = false → Shows o now ("/admin/candidates/".toList ++ encoded)
          ⟨404, .failure ("candidate not registered: " ++ tag)⟩)) ∧
      (system.candidates = views.length ∧
        system.usable = views.countP fun view => view.state = .qualified ∨ view.state = .unqualified) ∧
      (best.available = true ↔ 0 < system.usable) ∧
      (0 < system.usable ↔ ∃ chosen, o.selectBest.2.1 = some chosen) ∧
      (best.held.isSome = true ↔ o.heldBest.isSome = true) ∧
      ∀ tag, o.heldBest = some tag → ∃ view ∈ views, view.tag = tag ∧ best.held = some view := by
  have hpublished := ho.published
  have hlength : (rankingView o).length = o.ranking.entries.length := by
    rw [rankingView, List.length_map, List.length_zipIdx]
  have htags : (rankingView o).map CandidateView.tag = o.ranking.entries.map Status.tag := tag_views 0
  have hregistered : ∀ tag, tag ∈ (rankingView o).map CandidateView.tag ↔ o.registry.contains tag = true := by
    intro tag
    rw [htags]
    exact ho.mem_ranked_tags_iff tag
  have hlooked : ∀ view ∈ rankingView o, CandidateView.ofRanking? o.ranking view.tag = some view :=
    fun view hview => ofRanking?_of_mem hpublished hview
  have hheld : ∀ tag, o.heldBest = some tag →
      ∃ view ∈ rankingView o, view.tag = tag ∧ (bestView o).held = some view := by
    intro tag htag
    obtain ⟨view, hview, rfl⟩ := List.mem_map.mp ((hregistered tag).mpr (ho.agreement.held tag htag))
    refine ⟨view, hview, rfl, ?_⟩
    rw [bestView, htag, Option.bind_some, hlooked view hview]
  have hranking : route? "/admin/ranking".toList = some .ranking := rfl
  have hsystem : route? "/admin/status".toList = some .system := rfl
  have hbest : route? "/admin/best".toList = some .best := rfl
  refine ⟨rankingView o, systemView o now, bestView o, shows_of_route hranking rfl, shows_of_route hsystem rfl,
    shows_of_route hbest rfl, ⟨forall₂_views ho.belowReserved 0, ?_, ?_, hregistered⟩, ?_, ⟨hlength.symm, ?_⟩, ?_, ?_,
    ?_, hheld⟩
  · rw [hlength]
    exact rank_views 0
  · rw [htags]
    exact hpublished.nodup_tags
  · intro encoded tag hsome hslash htag
    constructor
    · rintro view hview rfl
      apply shows_of_route (route?_candidate hsome hslash)
      rw [run_candidatePage htag, hlooked view hview]
    · intro habsent
      apply shows_of_route (route?_candidate hsome hslash)
      obtain ⟨-, hnone⟩ | ⟨s, place, hat, rfl, -⟩ := ofRanking?_eq hpublished tag
      · rw [run_candidatePage htag, Observatory.ranking, Routing.ranking, hnone]
      · have hranked := (ho.mem_ranked_tags_iff s.tag).mp (List.mem_map_of_mem (List.mem_of_getElem? hat))
        rw [hranked] at habsent
        cases habsent
  · exact o.ranking.usable_eq_countP.trans (countP_views 0).symm
  · rw [bestView, decide_eq_true_iff]
    exact o.ranking.usable_pos_iff.symm
  · have hgoverned : Routing.Governed o.routing.selector.margin o.routing := ⟨hpublished, rfl⟩
    have hnone : o.selectBest.2.1 = none ↔ o.ranking.availability = .noneUsable :=
      Routing.selectBest_eq_none_iff.trans (Routing.choose_eq_none_iff hgoverned ho.belowReserved)
    rw [systemView, Snapshot.usable_pos_iff, ← Option.ne_none_iff_exists', ne_eq, ne_eq, hnone]
  · cases hbest : o.heldBest with
    | none => simp [bestView, hbest]
    | some tag =>
      obtain ⟨view, -, -, hview⟩ := hheld tag hbest
      simp [hview]

/-- After a probe and a selection, the page of the best has the view that the page of the candidate has, under a tag
that is escaped in the path. -/
theorem pages_agree_on_held :
    let request (target : String) : Request := ⟨"GET", target, [("authorization", bytesOf "Bearer k")]⟩
    ∃ o, Reachable o ∧ o.heldBest = some "a b" ∧ ∃ view best,
      view.tag = "a b" ∧ best.held = some view ∧ best.available = true ∧
      (respond 0 "k" (request "/admin/best?")).run o = ((⟨200, .best best⟩, []), o) ∧
      (respond 0 "k" (request "/admin/candidates/a%20b")).run o = ((⟨200, .candidate view⟩, []), o) := by
  intro request
  have hplayed : ((Observatory.create Config.bare World.desert).play? [
      .register "a b" ⟨"a", fun _ => .finishes (Span.ofMillis 7) none⟩, .cycle 0 0 .advance, .cycle 0 0 .advance,
      .cycle 7000000 0 .advance, .deliver 7000000 0, .publisher .begin, .publisher (.publish 1), .selectBest]).map
        (fun played => (played.2.heldBest, played.2.selectBest.2.1.isSome)) = some (some "a b", true) := by
    decide +kernel
  obtain ⟨⟨steps, o⟩, hsteps, hselected⟩ := Option.map_eq_some_iff.mp hplayed
  obtain ⟨hheld, hchosen⟩ := Prod.mk.inj hselected
  have ho : Reachable o := reachable_bare.run (Run.of_play? hsteps)
  obtain ⟨views, system, best, -, -, hbest, -, hcandidates, -, havailable, husable, -, hview⟩ := pages_agree ho 0
  obtain ⟨view, hin, htag, hshown⟩ := hview "a b" hheld
  have hkey (target : String) : Presents (request target) "k" :=
    (isAuthorized_iff "k" (request "")).mp (by decide +kernel)
  refine ⟨o, ho, hheld, view, best, htag, hshown, ?_, hbest "k" _ (hkey _) rfl (by decide), ?_⟩
  · exact havailable.mpr (husable.mpr (Option.isSome_iff_exists.mp hchosen))
  · have hpage := (hcandidates "a%20b".toList "a b" (by decide) (by decide) (by decide +kernel)).1 view hin htag
    exact hpage "k" _ (hkey _) rfl (by decide)

end Admin

end OutboundWatch
