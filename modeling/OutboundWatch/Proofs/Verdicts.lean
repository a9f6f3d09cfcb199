import OutboundWatch.Health.Classifier
import OutboundWatch.Proofs.Ranking

/-!
# Verdicts

The results of a registration lead to one status after the other. A queue that holds the next ones of them
in order carries the published status along, however it is cut into batches.
-/

namespace OutboundWatch

namespace Classifier

variable (classifier : Classifier) (tag : String) (generation : Nat)

/-- The status of a registration after some results. -/
def verdict (results : List (WallTime × ProbeResult)) : Status :=
  ⟨tag, generation, classifier.observeAll Health.fresh results⟩

/-- The statuses after each of `more`, when `done` came before. -/
def verdicts (done : List (WallTime × ProbeResult)) : List (WallTime × ProbeResult) → List Status
  | [] => []
  | r :: rest => classifier.verdict tag generation (done ++ [r]) :: verdicts (done ++ [r]) rest

variable {classifier tag generation}

lemma observeAll_append_singleton (h : Health) (results : List (WallTime × ProbeResult))
    (r : WallTime × ProbeResult) :
    classifier.observeAll h (results ++ [r]) =
      classifier.observe r.1 (classifier.observeAll h results) r.2 := by
  simp [observeAll]

lemma length_verdicts (done more : List (WallTime × ProbeResult)) :
    (classifier.verdicts tag generation done more).length = more.length := by
  induction more generalizing done with
  | nil => rfl
  | cons r rest ih => simp [verdicts, ih]

lemma verdicts_append (done xs ys : List (WallTime × ProbeResult)) :
    classifier.verdicts tag generation done (xs ++ ys) =
      classifier.verdicts tag generation done xs ++ classifier.verdicts tag generation (done ++ xs) ys := by
  induction xs generalizing done with
  | nil => simp [verdicts]
  | cons r rest ih => simp [verdicts, ih]

lemma foldl_verdicts (done more : List (WallTime × ProbeResult)) :
    (classifier.verdicts tag generation done more).foldl (fun _ later => later)
        (classifier.verdict tag generation done) = classifier.verdict tag generation (done ++ more) := by
  induction more generalizing done with
  | nil => simp [verdicts]
  | cons r rest ih => simpa [verdicts] using ih (done ++ [r])

lemma eq_verdicts_of_append {done more : List (WallTime × ProbeResult)} {xs ys zs : List Status}
    (h : xs ++ ys ++ zs = classifier.verdicts tag generation done more) :
    xs = classifier.verdicts tag generation done (more.take xs.length) ∧
      ys ++ zs = classifier.verdicts tag generation (done ++ more.take xs.length) (more.drop xs.length) := by
  have hlength := congrArg List.length h
  simp only [List.length_append, length_verdicts] at hlength
  rw [← List.take_append_drop xs.length more, verdicts_append, List.append_assoc] at h
  have hfirst : (classifier.verdicts tag generation done (more.take xs.length)).length = xs.length := by
    rw [length_verdicts, List.length_take]
    omega
  exact List.append_inj h hfirst.symm

end Classifier

/-- The status that an update observes, if it is about a generation. -/
def TableUpdate.observation? (generation : Nat) : TableUpdate → Option Status
  | .observe status => if status.generation = generation then some status else none
  | _ => none

/-- The observed statuses of a generation in a list of updates. -/
def observationsOf (generation : Nat) (updates : List TableUpdate) : List Status :=
  updates.filterMap (TableUpdate.observation? generation)

@[simp] lemma observationsOf_append (generation : Nat) (xs ys : List TableUpdate) :
    observationsOf generation (xs ++ ys) = observationsOf generation xs ++ observationsOf generation ys :=
  List.filterMap_append

/-- Of a batch, a member sees the observations of its generation, and is left with the last one. -/
lemma foldl_supersede {s : Status} {batch : List TableUpdate}
    (hown :
      ∀ later, TableUpdate.observe later ∈ batch → later.generation = s.generation → later.tag = s.tag) :
    batch.foldl Status.supersede s = (observationsOf s.generation batch).foldl (fun _ later => later) s := by
  induction batch generalizing s with
  | nil => rfl
  | cons update rest ih =>
    have hrest :
        ∀ later, TableUpdate.observe later ∈ rest → later.generation = s.generation → later.tag = s.tag :=
      fun later hlater => hown later (List.mem_cons_of_mem _ hlater)
    cases update with
    | register tag generation => exact ih hrest
    | remove tag generation => exact ih hrest
    | observe later =>
      by_cases hgeneration : later.generation = s.generation
      · have htag := hown later List.mem_cons_self hgeneration
        have hnext := ih (s := later) fun next hnext heq =>
          (hrest next hnext (heq.trans hgeneration)).trans htag.symm
        simpa [Status.supersede, observationsOf, TableUpdate.observation?, hgeneration, htag] using hnext
      · have hnext := ih hrest
        simpa [Status.supersede, observationsOf, TableUpdate.observation?, hgeneration] using hnext

end OutboundWatch
