import OutboundWatch.Probe.Outcome

/-!
# Health of a candidate

The state carries the data that each of its cases needs. Its ranking key is the measured time when
the candidate is qualified and one of three reserved spans otherwise, so that one order on spans
ranks all candidates.
-/

namespace OutboundWatch

def rttFailed : Span := Span.belowLongest 0

def rttUntested : Span := Span.belowLongest 1

def rttUnqualified : Span := Span.belowLongest 2

/-- Whether a span is one of the three reserved ranking keys. -/
def isSentinel (rtt : Span) : Bool := decide (rttUnqualified ≤ rtt)

/-- A state without its data. -/
inductive StateLabel where
  | untested
  | qualified
  | unqualified
  | failed
  deriving DecidableEq

namespace StateLabel

def name : StateLabel → String
  | untested => "untested"
  | qualified => "qualified"
  | unqualified => "unqualified"
  | failed => "failed"

def gauge : StateLabel → Nat
  | untested => 0
  | qualified => 1
  | unqualified => 2
  | failed => 3

end StateLabel

inductive HealthState where
  /-- Not measured since registration or since the last failure. -/
  | untested
  | qualified (rtt : Span)
  /-- Reachable beyond the quality ceiling; the time is kept for reports. -/
  | unqualified (rtt : Span)
  | failed (reason : ProbeFailure)
  deriving DecidableEq

namespace HealthState

def lastDuration : HealthState → Span
  | qualified rtt => rtt
  | unqualified _ => rttUnqualified
  | untested => rttUntested
  | failed _ => rttFailed

/-- The measured time, in the states that carry one. -/
def measured : HealthState → Option Span
  | qualified rtt => some rtt
  | unqualified rtt => some rtt
  | untested => none
  | failed _ => none

def isUsable : HealthState → Bool
  | qualified _ => true
  | unqualified _ => true
  | untested => false
  | failed _ => false

def label : HealthState → StateLabel
  | untested => .untested
  | qualified _ => .qualified
  | unqualified _ => .unqualified
  | failed _ => .failed

end HealthState

/-- The health record of one registration of a candidate. -/
structure Health where
  state : HealthState
  lastProbe : Option WallTime
  consecutiveFailures : UInt32
  /-- Failures since the last success that a qualified candidate has survived. -/
  consecutiveBorderline : UInt32
  deriving DecidableEq

def Health.fresh : Health := ⟨.untested, none, 0, 0⟩

end OutboundWatch
