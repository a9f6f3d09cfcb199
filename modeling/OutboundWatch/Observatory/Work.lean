import OutboundWatch.Observatory.State
import OutboundWatch.Time.Clockwork

/-!
# What an observatory does by itself

Cycles probe and report, the publisher publishes, drains go on, and a stop passes through its stages.
-/

namespace OutboundWatch.Observatory

/-- A cycle hands its status to the publisher. When nobody takes it any more, the cycle ends. Nothing
happens while the queue is full. -/
def deliver? (o : Observatory) (now : Moment) (cycle : Cycle) (status : Status) :
    Option (Observatory × List Record) :=
  match o.publisher.feed.send? (.observe status) with
  | some feed =>
    some ({ o with
      publisher := { o.publisher with feed := feed }
      scheduler := o.scheduler.reported now cycle }, [])
  | none =>
    if o.publisher.feed.receiving then none
    else
      let (scheduler, records) := o.scheduler.exit now cycle
      some ({ o with scheduler := scheduler }, records)

/-- The next part of a stop, when the part before it is complete. -/
def proceedStop? (o : Observatory) (now : Moment) : Option (Observatory × List Record) :=
  match o.stage with
  | .joining cycles =>
    if cycles.any fun id => (o.scheduler.get? id).isSome then none
    else some ({ o with stage := .flushing }, [])
  | .flushing =>
    if o.publisher.isRunning then none
    else
      match o.routing.drains.beginClosing? now with
      | none => some ({ o with stage := .overflowed }, [])
      | some (drains, ticket) =>
        some ({ o with routing := { o.routing with drains := drains }, stage := .draining ticket }, [])
  | .draining ticket =>
    match o.routing.drains.takeClosed ticket with
    | (_, none) => none
    | (drains, some forced) =>
      some ({ o with routing := { o.routing with drains := drains }, stage := .stopped forced },
        [.notice (.observatoryStopped forced)])
  | .running => none
  | .stopped _ => none
  | .overflowed => none

/-- The next thing the publisher has to do, done. -/
def publisherWork? (o : Observatory) : Option (Observatory × List Record) :=
  (o.publisher.work? o.routing.table).map fun (publisher, table, records) =>
    ({ o with publisher := publisher, routing := { o.routing with table := table } }, records)

/-- The next delivery of a status, done. -/
def deliveryWork? (o : Observatory) (now : Moment) : Option (Observatory × List Record) :=
  o.scheduler.report?.bind fun (cycle, status) => o.deliver? now cycle status

/-- The next thing the cycles have to do, done. -/
def schedulerWork? (o : Observatory) (now : Moment) : Option (Observatory × List Record) :=
  (o.scheduler.work? now).map fun (scheduler, records) =>
    ({ o with scheduler := scheduler }, records)

/-- The next thing that the drains have to do, done. -/
def drainWork? (o : Observatory) (now : Moment) : Option (Observatory × List Record) :=
  (o.routing.drains.work? now).map fun (drains, records) =>
    ({ o with routing := { o.routing with drains := drains } }, records)

instance : Clockwork Observatory where
  work? now o :=
    o.publisherWork? <|> o.deliveryWork? now <|> o.schedulerWork? now <|> o.drainWork? now <|>
      o.proceedStop? now
  dueTimes o := o.scheduler.dueTimes ++ o.routing.drains.dueTimes

/-- Whether a call of `stop` waits for nothing any more: it has its result or has none to come. -/
def isAnswered (o : Observatory) (call : StopCall) : Bool :=
  (o.stopResult? call).isSome || decide (o.stage = .overflowed)

end OutboundWatch.Observatory
