import Mathlib.Tactic.Common
import OutboundWatch.Time.Clockwork

/-!
# Loops that come to their end

The loops of a clockwork carry a bound on the number of their steps. With a large enough bound they end by
themselves, and then the bound does not show: what is due is done when every thing that is done brings the
system nearer to rest, and a wait is over when every jump of the clock brings it nearer to what is waited for.
-/

namespace OutboundWatch.Timeline

variable {σ : Type} [Clockwork σ] {t u v : Timeline σ} {done : σ → Bool}

/-- All that is due is done in a number of steps, after which nothing is due. -/
def SettlesTo (t u : Timeline σ) : Prop :=
  Clockwork.work? u.now u.system = none ∧ ∃ enough, ∀ bound, enough ≤ bound → t.settle bound = u

/-- A wait ends in `u` whatever its bound is, if the bound is large enough. -/
def AwaitsTo (t : Timeline σ) (done : σ → Bool) (u : Timeline σ) : Prop :=
  ∃ enough, ∀ bound, enough ≤ bound → t.awaitUntil done bound = u

lemma SettlesTo.refl (hidle : Clockwork.work? t.now t.system = none) : t.SettlesTo t := by
  refine ⟨hidle, 0, fun bound _ => ?_⟩
  cases bound with
  | zero => rfl
  | succ bound => simp [settle, hidle]

lemma SettlesTo.step {system : σ} {records : List Record}
    (happens : Clockwork.work? t.now t.system = some (system, records))
    (h : (t.proceed system records).SettlesTo u) : t.SettlesTo u := by
  obtain ⟨hidle, enough, hsettles⟩ := h
  refine ⟨hidle, enough + 1, fun bound hle => ?_⟩
  cases bound with
  | zero => omega
  | succ bound => simp [settle, happens, hsettles bound (by omega)]

/-- A system settles if a measure gets smaller with everything that it does. -/
theorem exists_settlesTo {P : σ → Prop} (measure : σ → Nat) {now : Moment}
    (hstep : ∀ s s' records, P s → Clockwork.work? now s = some (s', records) →
      P s' ∧ measure s' < measure s)
    (hnow : t.now = now) (ht : P t.system) : ∃ u, t.SettlesTo u ∧ u.now = now ∧ P u.system := by
  induction hmeasure : measure t.system using Nat.strongRecOn generalizing t with
  | _ n ih =>
    cases hwork : Clockwork.work? t.now t.system with
    | none => exact ⟨t, .refl hwork, hnow, ht⟩
    | some result =>
      obtain ⟨system, records⟩ := result
      obtain ⟨hkept, hless⟩ := hstep t.system system records ht (hnow ▸ hwork)
      obtain ⟨u, hu, hlast, hp⟩ := ih (measure system) (hmeasure ▸ hless)
        (t := t.proceed system records) hnow hkept rfl
      exact ⟨u, hu.step hwork, hlast, hp⟩

lemma AwaitsTo.of_done (h : t.SettlesTo u) (hdone : done u.system = true) : t.AwaitsTo done u := by
  obtain ⟨-, enough, hsettles⟩ := h
  refine ⟨enough + 1, fun bound hle => ?_⟩
  cases bound with
  | zero => omega
  | succ bound => simp [awaitUntil, hsettles (bound + 1) (by omega), hdone]

/-- A wait that is not over jumps to the next moment at which something is due. -/
lemma AwaitsTo.of_jump (h : t.SettlesTo u) (hwaits : done u.system = false) {due : Moment}
    (hdue : u.nextDue? = some due) (hrest : ({ u with now := due } : Timeline σ).AwaitsTo done v) :
    t.AwaitsTo done v := by
  obtain ⟨-, enough, hsettles⟩ := h
  obtain ⟨later, hawaits⟩ := hrest
  refine ⟨enough + later + 1, fun bound hle => ?_⟩
  cases bound with
  | zero => omega
  | succ bound => simp [awaitUntil, hsettles (bound + 1) (by omega), hwaits, hdue, hawaits bound (by omega)]

lemma exists_nextDue? {moment : Moment} (hmem : moment ∈ Clockwork.dueTimes t.system) (hlater : t.now < moment) :
    ∃ due, t.nextDue? = some due ∧ t.now < due ∧ due ≤ moment := by
  have hfound : moment ∈ (Clockwork.dueTimes t.system).filter (t.now < ·) :=
    List.mem_filter.mpr ⟨hmem, decide_eq_true hlater⟩
  cases hdue : t.nextDue? with
  | none => simp [List.min?_eq_none_iff.mp hdue] at hfound
  | some due =>
    obtain ⟨hin, hleast⟩ := List.min?_eq_some_iff.mp hdue
    exact ⟨due, rfl, of_decide_eq_true (List.mem_filter.mp hin).2, hleast moment hfound⟩

end OutboundWatch.Timeline
