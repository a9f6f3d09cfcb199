import OutboundWatch.Admin.Router
import OutboundWatch.Proofs.Runs

/-!
# Who may read the admin pages

A request gets past the guard if its first authorization field is the scheme and the key, byte for byte, and
in no other case. What others get tells them nothing: it is made from their request alone, so neither the
observatory nor the key has a part in it. And whoever asks, the observatory stays as it is.
-/

namespace OutboundWatch

namespace Admin

/-- The first authorization field of a request is plain text that consists of the scheme and a key. -/
def Presents (request : Request) (key : String) : Prop :=
  ∃ value, request.header? "authorization" = some value ∧
    (∀ b ∈ value, b = 9 ∨ 0x20 ≤ b ∧ b < 0x7f) ∧ value = bytesOf ("Bearer " ++ key)

lemma bytesOf_append (s t : String) : bytesOf (s ++ t) = bytesOf s ++ bytesOf t := by
  simp [bytesOf]

lemma isPlain_iff (value : List UInt8) :
    isPlain value = true ↔ ∀ b ∈ value, b = 9 ∨ 0x20 ≤ b ∧ b < 0x7f := by
  simp [isPlain]

/-- A difference that was found stays, and the rest adds one if it has one. -/
lemma foldl_differences_eq_zero_iff {a b : List UInt8} (hlength : a.length = b.length) (acc : UInt8) :
    (a.zip b).foldl (fun acc pair => acc ||| (pair.1 ^^^ pair.2)) acc = 0 ↔ acc = 0 ∧ a = b := by
  induction a generalizing b acc with
  | nil =>
    obtain rfl := List.length_eq_zero_iff.mp hlength.symm
    simp
  | cons x xs ih =>
    cases b with
    | nil => cases hlength
    | cons y ys =>
      have hrest : xs.length = ys.length := Nat.succ.inj hlength
      rw [List.zip_cons_cons, List.foldl_cons, ih hrest, UInt8.or_eq_zero_iff, UInt8.xor_eq_zero_iff,
        List.cons.injEq, and_assoc]

/-- The comparison that does not stop at the first difference is equality. -/
theorem keysMatch_iff (a b : List UInt8) : keysMatch a b = true ↔ a = b := by
  unfold keysMatch
  split
  · rename_i hlength
    exact ⟨fun h => (Bool.false_ne_true h).elim, fun h => (hlength (congrArg List.length h)).elim⟩
  · rename_i hlength
    rw [beq_iff_eq, foldl_differences_eq_zero_iff (not_not.mp hlength)]
    simp

lemma isAuthorized_iff (key : String) (request : Request) :
    isAuthorized key request = true ↔ Presents request key := by
  unfold isAuthorized Presents
  cases request.header? "authorization" with
  | none => simp
  | some value =>
    simp only [Bool.and_eq_true, isPlain_iff, keysMatch_iff, List.isPrefixOf_iff_prefix, bytesOf_append,
      Option.some.injEq, exists_eq_left']
    constructor
    · rintro ⟨⟨hplain, rest, rfl⟩, hkey⟩
      rw [List.drop_left] at hkey
      exact ⟨hplain, by rw [hkey, keyScheme]⟩
    · rintro ⟨hplain, rfl⟩
      exact ⟨⟨hplain, List.prefix_append _ _⟩, List.drop_left⟩

/-- A program that answers without changing the observatory, and never with a refusal. -/
def OnlyReads (program : StateM Observatory Response) : Prop :=
  ∀ o, (program.run o).2 = o ∧ (program.run o).1.status ≠ 401

lemma onlyReads_pure {response : Response} (h : response.status ≠ 401) : OnlyReads (pure response) :=
  fun _ => ⟨rfl, h⟩

lemma onlyReads_page (now : Moment) (route : Route) : OnlyReads (page now route) := by
  have hshown : (200 : Nat) ≠ 401 := by decide
  have hunknown : (404 : Nat) ≠ 401 := by decide
  cases route with
  | system => exact fun o => ⟨rfl, hshown⟩
  | ranking => exact fun o => ⟨rfl, hshown⟩
  | best => exact fun o => ⟨rfl, hshown⟩
  | candidate encoded =>
    simp only [page, candidatePage]
    split
    · exact onlyReads_pure (by decide)
    · intro o
      simp only [StateT.run_bind, StateT.run_get, pure_bind]
      split
      · exact ⟨rfl, hshown⟩
      · exact ⟨rfl, hunknown⟩

lemma onlyReads_answer (now : Moment) (request : Request) : OnlyReads (answer now request) := by
  unfold answer
  split
  · exact onlyReads_pure (by decide)
  · rename_i route _
    split
    · exact onlyReads_page now route
    · split
      · exact onlyReads_page now route
      · exact onlyReads_pure (by decide)

variable {key : String} {request : Request}

lemma guarded_of_presents (h : Presents request key) (next : Handler) :
    guarded key next request = (fun response => (response, [])) <$> next request := by
  rw [guarded, if_pos ((isAuthorized_iff key request).mpr h), map_eq_pure_bind]

lemma guarded_of_not_presents (h : ¬ Presents request key) (next : Handler) :
    guarded key next request = pure (refusal request) := by
  rw [guarded, if_neg fun hkey => h ((isAuthorized_iff key request).mp hkey)]

/-- What is behind the guard is not asked about refused requests, and does no more than read for the others. -/
lemma run_respond (now : Moment) (o : Observatory) :
    ((respond now key request).run o).2 = o ∧
      (((respond now key request).run o).1.1.status = 401 ↔ ¬ Presents request key) := by
  by_cases hkey : Presents request key
  · obtain ⟨hsame, hstatus⟩ := onlyReads_answer now request o
    rw [respond, guarded_of_presents hkey]
    exact ⟨hsame, fun h => (hstatus h).elim, fun h => (h hkey).elim⟩
  · rw [respond, guarded_of_not_presents hkey]
    exact ⟨rfl, fun _ => hkey, fun _ => rfl⟩

lemma run_respond_of_not_presents (hkey : ¬ Presents request key) (now : Moment) (o : Observatory) :
    ((respond now key request).run o).1 = refusal request := by
  rw [respond, guarded_of_not_presents hkey]
  rfl

/-- A request reaches what is behind the guard, whatever that is, if it presents the key. All others are
answered without it, with a response that neither the observatory nor the moment nor the key has a part in.
No request changes the observatory. -/
theorem requests_guarded (key : String) (request : Request) :
    (Presents request key →
      ∀ next, guarded key next request = (fun response => (response, [])) <$> next request) ∧
    (¬ Presents request key →
      (∀ next, guarded key next request = pure (refusal request)) ∧
      ∀ other, ¬ Presents request other → ∀ now later o p,
        ((respond now key request).run o).1 = ((respond later other request).run p).1) ∧
    (∀ now o, ((respond now key request).run o).2 = o ∧
      (((respond now key request).run o).1.1.status = 401 ↔ ¬ Presents request key)) ∧
    ∀ presented expected, keysMatch presented expected = true ↔ presented = expected := by
  refine ⟨guarded_of_presents, fun hkey => ⟨guarded_of_not_presents hkey, ?_⟩, run_respond, keysMatch_iff⟩
  intro other hother now later o p
  rw [run_respond_of_not_presents hkey, run_respond_of_not_presents hother]

/-- The first authorization field decides. A key that is merely the beginning of what is presented is not
enough, and an unknown path is behind the guard as well. -/
theorem key_presented_exactly :
    let presenting (values : List String) : Request :=
      ⟨"DELETE", "/nowhere", values.map fun value => ("authorization", bytesOf value)⟩
    Presents (presenting ["Bearer k", "Basic k"]) "k" ∧ ¬ Presents (presenting ["Bearer kk", "Bearer k"]) "k" ∧
      ∀ now o, (((respond now "k" (presenting ["Bearer k", "Basic k"])).run o).1.1.status ≠ 401) ∧
        ((respond now "k" (presenting ["Bearer kk", "Bearer k"])).run o).1 =
          ((respond now "" (presenting ["Bearer kk", "Bearer k"])).run o).1 := by
  intro presenting
  have hkey : Presents (presenting ["Bearer k", "Basic k"]) "k" := (isAuthorized_iff _ _).mp (by decide +kernel)
  have hlonger : ¬ Presents (presenting ["Bearer kk", "Bearer k"]) "k" := fun h =>
    absurd ((isAuthorized_iff _ _).mpr h) (by decide +kernel)
  have hempty : ¬ Presents (presenting ["Bearer kk", "Bearer k"]) "" := fun h =>
    absurd ((isAuthorized_iff _ _).mpr h) (by decide +kernel)
  refine ⟨hkey, hlonger, fun now o => ⟨fun hrefused => ?_, ?_⟩⟩
  · exact (((requests_guarded _ _).2.2.1 now o).2.mp hrefused) hkey
  · exact ((requests_guarded _ _).2.1 hlonger).2 _ hempty now now o o

/-- A request and what it got. -/
structure Exchange where
  request : Request
  reply : Response × List Record

/-- Steps of an observatory and the requests that are answered in between, in whatever order they come. -/
inductive Served (key : String) : Observatory → List Step → List Exchange → Observatory → Prop
  | refl (o : Observatory) : Served key o [] [] o
  | step {o p q : Observatory} {steps : List Step} {exchanges : List Exchange} {event : Event}
      {records : List Record} (served : Served key o steps exchanges p)
      (happens : p.perform? event = some (q, records)) :
      Served key o (steps ++ [⟨p, event, q, records⟩]) exchanges q
  | request {o p : Observatory} {steps : List Step} {exchanges : List Exchange}
      (served : Served key o steps exchanges p) (now : Moment) (request : Request) :
      Served key o steps (exchanges ++ [⟨request, ((respond now key request).run p).1⟩])
        ((respond now key request).run p).2

namespace Served

variable {o p : Observatory} {steps : List Step} {exchanges : List Exchange}

/-- Requests can be left out of a history: the observatory has taken the same steps without them. -/
theorem run (served : Served key o steps exchanges p) : Run o steps p := by
  induction served with
  | refl => exact .refl
  | step _ happens ih => exact ih.step happens
  | request _ now request ih =>
    rw [(run_respond now _).1]
    exact ih

lemma reply_of_not_presents (served : Served key o steps exchanges p) :
    ∀ e ∈ exchanges, ¬ Presents e.request key → e.reply = refusal e.request := by
  induction served with
  | refl => exact fun e he => by cases he
  | step _ _ ih => exact ih
  | request _ now request ih =>
    intro e he hkey
    rcases List.mem_append.mp he with hold | hnew
    · exact ih e hold hkey
    · obtain rfl := List.mem_singleton.mp hnew
      exact run_respond_of_not_presents hkey now _

lemma exchanges_of_not_presents (served : Served key o steps exchanges p)
    (hkey : ∀ e ∈ exchanges, ¬ Presents e.request key) :
    exchanges = (exchanges.map Exchange.request).map fun request => ⟨request, refusal request⟩ := by
  have hsame : ∀ e ∈ exchanges, e = ⟨e.request, refusal e.request⟩ := fun e he => by
    rw [← served.reply_of_not_presents e he (hkey e he)]
  rw [List.map_map]
  exact (List.map_id exchanges).symm.trans (List.map_congr_left hsame)

/-- Whoever asks without the key cannot tell two histories from each other, whatever the observatories do in
them and whatever their keys are. -/
theorem exchanges_eq {other : String} {o' p' : Observatory} {steps' : List Step} {exchanges' : List Exchange}
    (served : Served key o steps exchanges p) (served' : Served other o' steps' exchanges' p')
    (hrequests : exchanges.map Exchange.request = exchanges'.map Exchange.request)
    (hkey : ∀ e ∈ exchanges, ¬ Presents e.request key)
    (hother : ∀ e ∈ exchanges', ¬ Presents e.request other) :
    exchanges = exchanges' := by
  rw [served.exchanges_of_not_presents hkey, served'.exchanges_of_not_presents hother, hrequests]

end Served

end Admin

end OutboundWatch
