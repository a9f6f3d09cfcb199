import OutboundWatch.Telemetry.Journal

/-!
# Clockwork

A system that works by the clock has, at any moment, either something to do or a list of moments at
which it will have something to do. Its clock jumps from one of these moments to the next, and at each
of them everything is done that is due. All loops carry a bound on the number of their steps.
-/

namespace OutboundWatch

/-- A system that works by the clock. -/
class Clockwork (σ : Type) where
  /-- The next thing to do at a moment, done, with the records that it makes. -/
  work? : Moment → σ → Option (σ × List Record)
  dueTimes : σ → List Moment

/-- A system, its clock and its journal. -/
structure Timeline (σ : Type) where
  now : Moment
  system : σ
  journal : Journal

namespace Timeline

variable {σ : Type} [Clockwork σ]

def start (system : σ) : Timeline σ := ⟨0, system, Journal.empty⟩

def millis (t : Timeline σ) : Nat := t.now / nanosPerMilli

def proceed (t : Timeline σ) (system : σ) (records : List Record) : Timeline σ :=
  { t with system := system, journal := t.journal.add t.now records }

def settle (t : Timeline σ) : Nat → Timeline σ
  | 0 => t
  | bound + 1 =>
    match Clockwork.work? t.now t.system with
    | none => t
    | some (system, records) => settle (t.proceed system records) bound

/-- The earliest moment after now at which there is something to do. -/
def nextDue? (t : Timeline σ) : Option Moment :=
  ((Clockwork.dueTimes t.system).filter (t.now < ·)).min?

/-- Move the clock to a moment and do everything that is due on the way. -/
def advanceTo (t : Timeline σ) (moment : Moment) : Nat → Timeline σ
  | 0 => t
  | bound + 1 =>
    let settled := t.settle (bound + 1)
    match settled.nextDue? with
    | none => { settled with now := max settled.now moment }
    | some due =>
      if due ≤ moment then advanceTo { settled with now := due } moment bound
      else { settled with now := max settled.now moment }

def advanceBy (t : Timeline σ) (millis bound : Nat) : Timeline σ :=
  t.advanceTo (t.now + millis * nanosPerMilli) bound

/-- Move the clock until the system satisfies a condition or nothing is left to do. -/
def awaitUntil (t : Timeline σ) (done : σ → Bool) : Nat → Timeline σ
  | 0 => t
  | bound + 1 =>
    let settled := t.settle (bound + 1)
    if done settled.system then settled
    else
      match settled.nextDue? with
      | none => settled
      | some due => awaitUntil { settled with now := due } done bound

end Timeline

instance : Clockwork Unit := ⟨fun _ _ => none, fun _ => []⟩

end OutboundWatch
