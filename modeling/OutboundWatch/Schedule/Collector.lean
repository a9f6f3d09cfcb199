import OutboundWatch.Ranking.Feed
import OutboundWatch.Schedule.Scheduler
import OutboundWatch.Time.Clockwork

/-!
# Collected reports

A scheduler whose reports are taken as soon as they are made, and kept with their moments.
-/

namespace OutboundWatch

structure Collector where
  scheduler : Scheduler
  /-- Whether reports are still taken; without a taker a cycle that reports ends. -/
  taking : Bool
  /-- Reports since they were last looked at, the latest first. -/
  reports : List (Moment × Status)

namespace Collector

def create (scheduler : Scheduler) : Collector := ⟨scheduler, true, []⟩

/-- Take the reports that have come in, by moment and then by tag. -/
def takeReports (c : Collector) : Collector × List (Moment × Status) :=
  ({ c with reports := [] }, c.reports.reverse.mergeSort fun a b =>
    decide (a.1 < b.1) || (decide (a.1 = b.1) && decide (a.2.tag ≤ b.2.tag)))

instance : Clockwork Collector where
  work? now c :=
    match c.scheduler.report? with
    | some (cycle, status) =>
      if c.taking then
        some ({ c with
          scheduler := c.scheduler.reported now cycle
          reports := (now, status) :: c.reports }, [])
      else
        let (scheduler, records) := c.scheduler.exit now cycle
        some ({ c with scheduler := scheduler }, records)
    | none =>
      (c.scheduler.work? now).map fun (scheduler, records) =>
        ({ c with scheduler := scheduler }, records)
  dueTimes c := c.scheduler.dueTimes

end Collector

end OutboundWatch
