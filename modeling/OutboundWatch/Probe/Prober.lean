import OutboundWatch.Probe.Outcome
import OutboundWatch.Telemetry.Journal

/-!
# Probing

One round trip of a target, judged under a timeout. A round trip that is cut off and one that fails by
itself are reported differently.
-/

namespace OutboundWatch

/-- What is reported about a round trip that did not succeed. -/
def RoundTrip.report (description : String) (timeout : Span) (trip : RoundTrip) : List Record :=
  match trip.judge timeout with
  | .success _ => []
  | .failure reason =>
    if trip.isCutOff timeout then [.notice (.probeTimedOut description timeout)]
    else [.notice (.probeFailed description reason)]

/-- The result of one probe and the moment at which it was there. -/
structure TimedResult where
  result : ProbeResult
  doneAt : Moment

/-- Probe a target so many times, each time as soon as the last probe is over. Everything is measured
under one tag. -/
def ProbeTarget.probeTimes (target : ProbeTarget) (tag : String) (timeout : Span) (times : Nat) :
    List TimedResult × Journal :=
  let (results, _, journal) := (List.range times).foldl
    (fun (acc : List TimedResult × Moment × Journal) n =>
      let (results, now, journal) := acc
      let trip := target.reply n
      let doneAt := now + (trip.lasting timeout).nanos
      let result := trip.judge timeout
      (⟨result, doneAt⟩ :: results, doneAt,
        journal.add doneAt (trip.report target.description timeout ++ [.measure (.probe tag result)])))
    ([], 0, Journal.empty)
  (results.reverse, journal)

end OutboundWatch
