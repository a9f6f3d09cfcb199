import OutboundWatch.Time.SpanText

/-!
# Outcomes of a probe

A probe makes one round trip under a timeout. It yields the measured time of the round trip or the
reason why there is none.
-/

namespace OutboundWatch

/-- Why a probe produced no measurement. -/
inductive ProbeFailure where
  | timeout (after : Span)
  | connect (text : String)
  | rejected (text : String)
  deriving DecidableEq

namespace ProbeFailure

def message : ProbeFailure → String
  | timeout after => "probe timed out after " ++ after.text
  | connect text => "connection error: " ++ text
  | rejected text => "rejected: " ++ text

/-- Short name of the kind of failure, as the metrics use it. -/
def label : ProbeFailure → String
  | timeout _ => "timeout"
  | connect _ => "connect_error"
  | rejected _ => "rejected"

end ProbeFailure

/-- Outcome of one probe. -/
inductive ProbeResult where
  | success (rtt : Span)
  | failure (reason : ProbeFailure)
  deriving DecidableEq

namespace ProbeResult

def isSuccess : ProbeResult → Bool
  | success _ => true
  | failure _ => false

/-- Name of the outcome, as the metrics use it. -/
def outcome : ProbeResult → String
  | success _ => "success"
  | failure reason => reason.label

end ProbeResult

/-- How the far end behaves in one round trip. -/
inductive RoundTrip where
  /-- The round trip ends after `delay`, well or with a failure of its own. -/
  | finishes (delay : Span) (failure : Option ProbeFailure)
  | hangs

namespace RoundTrip

def instant : RoundTrip := .finishes Span.zero none

/-- What a probe with the given timeout makes of the round trip. A round trip that ends exactly at the
timeout has finished. -/
def judge (timeout : Span) : RoundTrip → ProbeResult
  | finishes delay failure =>
    if delay ≤ timeout then
      match failure with
      | none => .success delay
      | some reason => .failure reason
    else .failure (.timeout timeout)
  | hangs => .failure (.timeout timeout)

def lasting (timeout : Span) : RoundTrip → Span
  | finishes delay _ => if delay ≤ timeout then delay else timeout
  | hangs => timeout

def isCutOff (timeout : Span) : RoundTrip → Bool
  | finishes delay _ => decide (¬ delay ≤ timeout)
  | hangs => true

end RoundTrip

/-- Something that can be probed: a description for logs and its behaviour in the n-th round trip. -/
structure ProbeTarget where
  description : String
  reply : Nat → RoundTrip

/-- A target that plays a list of round trips and repeats the last one; with no list every round trip is
an immediate success. -/
def ProbeTarget.scripted (description : String) (trips : List RoundTrip) : ProbeTarget where
  description := description
  reply := fun n => (trips[n]?).getD (trips.getLastD RoundTrip.instant)

end OutboundWatch
