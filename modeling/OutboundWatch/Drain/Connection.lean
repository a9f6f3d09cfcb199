import OutboundWatch.Drain.Transfer
import OutboundWatch.Telemetry.Notice

/-!
# Connections and their phases

A connection routed to a candidate passes through its phases in one direction only. Its consumer
acknowledges bytes while it holds the connection, and gives it up by draining or dropping it.
-/

namespace OutboundWatch

inductive DrainPhase where
  /-- The candidate has not lost its place since the connection was opened. -/
  | active
  /-- The candidate was demoted; the connection ends by itself. -/
  | draining
  | retired
  /-- The connection was closed before its drain was complete. -/
  | forceClosed
  deriving DecidableEq

namespace DrainPhase

def name : DrainPhase → String
  | active => "Active"
  | draining => "Draining"
  | retired => "Retired"
  | forceClosed => "ForceClosed"

def rank : DrainPhase → Nat
  | active => 0
  | draining => 1
  | retired => 2
  | forceClosed => 3

/-- The phase with a given rank; every other number stands for the first phase. -/
def ofRank : Nat → DrainPhase
  | 1 => draining
  | 2 => retired
  | 3 => forceClosed
  | _ => active

theorem ofRank_rank (p : DrainPhase) : ofRank p.rank = p := by cases p <;> rfl

end DrainPhase

/-- A connection that has not been released. -/
structure Connection where
  id : Nat
  tag : String
  phase : DrainPhase
  /-- Bytes that the consumer has read, counted modulo `2 ^ 64`. -/
  acknowledged : UInt64
  /-- The drain under way, if the consumer has handed the connection over to one. -/
  transfer : Option Transfer

namespace Connection

/-- Whether the connection has not yet reached `phase`. -/
def isBefore (c : Connection) (phase : DrainPhase) : Bool := decide (c.phase.rank < phase.rank)

/-- Move to `phase` unless the connection is in it or in a later one. -/
def advance (c : Connection) (phase : DrainPhase) : Connection :=
  if c.isBefore phase then { c with phase := phase } else c

theorem rank_phase_advance (c : Connection) (phase : DrainPhase) :
    (c.advance phase).phase.rank = max c.phase.rank phase.rank := by
  by_cases h : c.phase.rank < phase.rank
  · simp only [advance, isBefore, h, decide_true, if_true]
    omega
  · simp only [advance, isBefore, h, decide_false, Bool.false_eq_true, if_false]
    omega

def isHeld (c : Connection) : Bool := c.transfer.isNone

def acknowledge (c : Connection) (size : UInt64) : Connection :=
  { c with acknowledged := c.acknowledged + size }

def debugText (c : Connection) : String :=
  "DrainHandle \x7b id: ConnectionId(" ++ toString c.id ++ "), tag: " ++ Quoted.text c.tag ++
    ", phase: " ++ c.phase.name ++ ", acknowledged: " ++ toString c.acknowledged.toNat ++ " \x7d"

end Connection

/-- Why a drain did not complete. -/
inductive DrainError where
  | io (error : IoError)
  | forceClosed
  deriving DecidableEq

def DrainError.message : DrainError → String
  | io error => "drain read failed: " ++ error.text
  | forceClosed => "connection force-closed before drain completed"

/-- Byte counts of a completed drain. -/
structure DrainSummary where
  acknowledged : UInt64
  drained : Nat
  deriving DecidableEq

/-- How a drain ended, and what its sink got. -/
structure DrainReport where
  id : Nat
  result : Except DrainError DrainSummary
  sink : Sink
  phase : DrainPhase

end OutboundWatch
