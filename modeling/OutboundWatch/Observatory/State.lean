import OutboundWatch.Observatory.Error
import OutboundWatch.Observatory.Signal
import OutboundWatch.Observatory.World
import OutboundWatch.Ranking.Feed
import OutboundWatch.Routing
import OutboundWatch.Schedule.Scheduler

/-!
# The observatory

Candidates are registered, probed in cycles, ranked by a publisher, and selected for new connections,
whose phases are tracked. The four parts are kept in step by the operations below: a registration enters
the ranking and gets a cycle at once, an unregistration ends all that belongs to it.
-/

namespace OutboundWatch

/-- How far a stop has come. -/
inductive StopStage where
  | running
  | joining (cycles : List Nat)
  | flushing
  | draining (ticket : Nat)
  | stopped (forced : Nat)
  | overflowed
  deriving DecidableEq

/-- Which call of `stop` it is. -/
inductive StopCall where
  | first
  | repeated
  deriving DecidableEq

structure Observatory where
  config : Config
  network : Network
  registry : Registry
  routing : Routing
  scheduler : Scheduler
  publisher : Publisher
  signal : Signal
  stage : StopStage

/-- What an operation leads to: the state after it, what it has reported, and its result. -/
structure Effect (α : Type) where
  after : Observatory
  records : List Record
  result : Except ObservatoryError α

/-- What changes with the registry as long as it is locked, and what the change has reported. -/
structure Followers where
  routing : Routing
  scheduler : Scheduler
  records : List Record

namespace Followers

/-- A new candidate is ranked as untested and gets a cycle. -/
def enter (candidate : Candidate) (followers : Followers) : Followers :=
  { followers with
    routing := (followers.routing.apply [.register candidate.tag candidate.generation]).1
    scheduler := followers.scheduler.spawn candidate.tag candidate.generation candidate.target }

/-- The cycle of a candidate that leaves is told to stop, and the ranking loses it. -/
def leave (tag : String) (candidate : Candidate) (followers : Followers) : Followers :=
  let (scheduler, _, cancelled) := followers.scheduler.cancel tag
  { routing := (followers.routing.apply [.remove tag candidate.generation]).1
    scheduler := scheduler
    records := followers.records ++ cancelled }

end Followers

namespace Observatory

def feedCapacity : Nat := 1024

def maxPermits : Nat := UInt64.size / 8 - 1

def isStopped (o : Observatory) : Bool := decide (o.stage ≠ .running)

def ranking (o : Observatory) : Snapshot := o.routing.ranking

def heldBest (o : Observatory) : Option String := o.routing.held

def openConnections (o : Observatory) : Nat := o.routing.drains.openCount

def probesInFlight (o : Observatory) : Nat := o.scheduler.inFlight

/-- The registered candidates in ascending order of their tags. -/
def candidates (o : Observatory) : List Candidate := o.registry.sorted

def cycleSettings (config : Config) (epoch : WallTime) : CycleSettings where
  interval := config.probe.interval
  timeout := config.probe.timeout
  jitterRatio := config.probe.jitterRatio
  classifier := Classifier.create config.classifier.failureThreshold
    (Span.ofMillis config.classifier.qualityCeilingMs)
  epoch := epoch

def create (config : Config) (world : World) : Observatory where
  config := config
  network := world.network
  registry := Registry.empty
  routing := Routing.create config.selector.switchMargin config.drain.grace
  scheduler := Scheduler.create (cycleSettings config world.epoch) config.probe.concurrency.toNat
    world.chance
  publisher := Publisher.create feedCapacity
  signal := Signal.create
  stage := .running

/-- Register a candidate: it is ranked as untested and gets a cycle. -/
def register (o : Observatory) (tag : String) (target : ProbeTarget)
    (source : Option TargetConfig) : Effect Nat :=
  if o.isStopped then ⟨o, [], .error .stopped⟩
  else
    match o.registry.insertWith tag target source Followers.enter ⟨o.routing, o.scheduler, []⟩ with
    | (_, _, .error e) => ⟨o, [], .error (.ofRegistry e)⟩
    | (registry, followers, .ok candidate) =>
      ⟨{ o with registry := registry, routing := followers.routing, scheduler := followers.scheduler },
        followers.records ++
          [.notice (.candidateRegistered tag candidate.generation candidate.target.description)],
        .ok candidate.generation⟩

def registerConfigured (o : Observatory) (candidate : CandidateConfig) : Effect Nat :=
  match candidate.target.build with
  | .error reason => ⟨o, [], .error (.invalidTarget candidate.tag reason)⟩
  | .ok target =>
    o.register candidate.tag (o.network.probeTarget target o.registry.nextGeneration)
      (some candidate.target)

/-- Unregister a candidate: its cycle is told to stop, it leaves the ranking and loses its place as held
best, and its connections are retired. -/
def unregister (o : Observatory) (tag : String) : Effect Unit :=
  match o.registry.removeWith tag (Followers.leave tag) ⟨o.routing, o.scheduler, []⟩ with
  | (_, _, none) => ⟨o, [], .error (.unknownCandidate tag)⟩
  | (registry, followers, some _) =>
    let released := followers.routing.release tag
    let (drains, count, retired) := released.drains.retire tag
    ⟨{ o with
        registry := registry
        routing := { released with drains := drains }
        scheduler := followers.scheduler },
      followers.records ++ retired ++ [.notice (.candidateUnregistered tag count)], .ok ()⟩

def selectBest (o : Observatory) : Observatory × Option Status × List Record :=
  let (routing, chosen, records) := o.routing.selectBest
  ({ o with routing := routing }, chosen, records)

def openConnection (o : Observatory) (tag : String) : Effect Nat :=
  if o.isStopped then ⟨o, [], .error .stopped⟩
  else if o.registry.contains tag then
    let (drains, id, records) := o.routing.drains.openConnection tag
    ⟨{ o with routing := { o.routing with drains := drains } }, records, .ok id⟩
  else ⟨o, [], .error (.unknownCandidate tag)⟩

/-- Register the candidates of a list until one is refused. -/
def registerAll (o : Observatory) : List CandidateConfig → Effect Unit
  | [] => ⟨o, [], .ok ()⟩
  | candidate :: rest =>
    let first := o.registerConfigured candidate
    match first.result with
    | .error e => ⟨first.after, first.records, .error e⟩
    | .ok _ =>
      let others := first.after.registerAll rest
      { others with records := first.records ++ others.records }

/-- Start an observatory with the candidates of a valid configuration. -/
def start (config : Config) (world : World) :
    Except StartError (Observatory × List Record) :=
  if config.errors ≠ [] then .error (.invalidConfig config.errors)
  else if maxPermits < config.probe.concurrency.toNat then .error .tooManyPermits
  else
    let begun := (create config world).registerAll config.candidates
    match begun.result with
    | .error e => .error (.candidate e)
    | .ok () =>
      .ok (begun.after,
        [Record.notice (.observatoryStarting config.probe.intervalMs config.probe.timeoutMs
            config.probe.concurrency config.classifier.failureThreshold
            config.classifier.qualityCeilingMs)] ++
          begun.records ++ [.notice (.observatoryStarted config.candidates.length)])

/-- Stop. Only the first call does anything: the signal is given, and all cycles and the publisher learn
of it. -/
def stop (o : Observatory) : Observatory × StopCall × List Record :=
  if o.isStopped then (o, .repeated, [])
  else
    ({ o with
        signal := o.signal.trigger
        scheduler := o.scheduler.requestStopAll.dismissAll
        publisher := o.publisher.signal
        stage := .joining (o.scheduler.running.values.map RunningCycle.id) },
      .first, [.notice .observatoryStopping])

/-- The number of forced connections that a call of `stop` returns, once it returns. -/
def stopResult? (o : Observatory) : StopCall → Option Nat
  | .repeated => some 0
  | .first =>
    match o.stage with
    | .stopped forced => some forced
    | _ => none

end Observatory

end OutboundWatch
