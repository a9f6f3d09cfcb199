import OutboundWatch.Health.State
import OutboundWatch.Text.Quoted

/-!
# Notices

Everything that the observatory reports to its log. A notice carries the values it is about; its
level, its message and its named fields are functions of it.
-/

namespace OutboundWatch

inductive Level where
  | trace
  | debug
  | info
  | warn
  | error
  deriving DecidableEq

def Level.name : Level → String
  | trace => "TRACE"
  | debug => "DEBUG"
  | info => "INFO"
  | warn => "WARN"
  | error => "ERROR"

def connectionName (id : Nat) : String := "conn-" ++ toString id

inductive Notice where
  | publisherStarting
  | publisherStopped
  | rankingPublished (batch version : Nat)
  | outboundSelected (tag : String) (rtt : Option Span)
  | outboundChanged (previous tag : String) (rtt : Option Span)
  | connectionOpened (id : Nat) (tag : String)
  | connectionReleased (id : Nat)
  | connectionsDraining (tag : String) (count : Nat)
  | connectionsRetiring (tag : String) (count : Nat)
  | connectionsForced (count : Nat) (grace : Span)
  | connectionDrained (id : Nat) (tag : String) (acknowledged : UInt64) (drained : Nat)
  | drainFailed (id : Nat) (tag : String) (text : String)
  | drainInterrupted (id : Nat) (tag : String)
  | cycleStarting (tag target : String)
  | cycleStopped (tag : String)
  | cycleCancelled (tag : String) (generation : Nat)
  | probeSkipped (tag : String)
  | probeFailed (target : String) (failure : ProbeFailure)
  | probeTimedOut (target : String) (timeout : Span)
  | candidateFailed (tag : String) (before : StateLabel) (failures : UInt32) (reason : ProbeFailure)
  | stateChanged (tag : String) (before after : StateLabel) (rtt : Option Span)
  | observatoryStarting (intervalMs timeoutMs concurrency : UInt64) (failureThreshold : UInt32)
      (qualityCeilingMs : UInt64)
  | observatoryStarted (candidates : Nat)
  | candidateRegistered (tag : String) (generation : Nat) (target : String)
  | candidateUnregistered (tag : String) (retired : Nat)
  | candidatesReconciled (added removed replaced : List String)
  | observatoryStopping
  | observatoryStopped (forced : Nat)
  | requestRejected (path : String)
  | adminListening (address : String)
  | adminStopped

namespace Notice

def level : Notice → Level
  | publisherStarting => .debug
  | publisherStopped => .debug
  | rankingPublished _ _ => .trace
  | outboundSelected _ _ => .info
  | outboundChanged _ _ _ => .info
  | connectionOpened _ _ => .trace
  | connectionReleased _ => .trace
  | connectionsDraining _ _ => .info
  | connectionsRetiring _ _ => .info
  | connectionsForced _ _ => .warn
  | connectionDrained _ _ _ _ => .debug
  | drainFailed _ _ _ => .warn
  | drainInterrupted _ _ => .warn
  | cycleStarting _ _ => .debug
  | cycleStopped _ => .debug
  | cycleCancelled _ _ => .debug
  | probeSkipped _ => .warn
  | probeFailed _ _ => .debug
  | probeTimedOut _ _ => .debug
  | candidateFailed _ _ _ _ => .warn
  | stateChanged _ _ _ _ => .info
  | observatoryStarting _ _ _ _ _ => .info
  | observatoryStarted _ => .info
  | candidateRegistered _ _ _ => .info
  | candidateUnregistered _ _ => .info
  | candidatesReconciled _ _ _ => .info
  | observatoryStopping => .info
  | observatoryStopped _ => .info
  | requestRejected _ => .debug
  | adminListening _ => .info
  | adminStopped => .info

def message : Notice → String
  | publisherStarting => "Ranking publisher starting"
  | publisherStopped => "Ranking publisher stopped"
  | rankingPublished _ _ => "Ranking published"
  | outboundSelected _ _ => "Selected outbound"
  | outboundChanged _ _ _ => "Selected outbound changed"
  | connectionOpened _ _ => "Connection opened"
  | connectionReleased _ => "Connection released"
  | connectionsDraining _ _ => "Draining connections of demoted candidate"
  | connectionsRetiring _ _ => "Retiring connections of removed candidate"
  | connectionsForced _ _ => "Force-closing connections after drain grace period"
  | connectionDrained _ _ _ _ => "Connection drained"
  | drainFailed _ _ _ => "Drain failed, force-closing connection"
  | drainInterrupted _ _ => "Drain interrupted by force close"
  | cycleStarting _ _ => "Probe cycle starting"
  | cycleStopped _ => "Probe cycle stopped"
  | cycleCancelled _ _ => "Probe cycle cancelled"
  | probeSkipped _ => "Probe skipped, concurrency limit saturated"
  | probeFailed _ _ => "Probe failed"
  | probeTimedOut _ _ => "Probe timed out"
  | candidateFailed _ _ _ _ => "Candidate failed"
  | stateChanged _ _ _ _ => "Candidate state changed"
  | observatoryStarting _ _ _ _ _ => "Observatory starting"
  | observatoryStarted _ => "Observatory started"
  | candidateRegistered _ _ _ => "Candidate registered"
  | candidateUnregistered _ _ => "Candidate unregistered"
  | candidatesReconciled _ _ _ => "Candidate set reconciled"
  | observatoryStopping => "Observatory stopping"
  | observatoryStopped _ => "Observatory stopped"
  | requestRejected _ => "Rejected admin request"
  | adminListening _ => "Admin API listening"
  | adminStopped => "Admin API stopped"

def fields : Notice → List (String × String)
  | publisherStarting => []
  | publisherStopped => []
  | rankingPublished batch version =>
    [("batch", toString batch), ("version", toString version)]
  | outboundSelected tag rtt => [("to", tag), ("rtt", Span.optionText rtt)]
  | outboundChanged previous tag rtt =>
    [("from", previous), ("to", tag), ("rtt", Span.optionText rtt)]
  | connectionOpened id tag => [("connection_id", connectionName id), ("candidate", tag)]
  | connectionReleased id => [("connection_id", connectionName id)]
  | connectionsDraining tag count => [("candidate", tag), ("connections", toString count)]
  | connectionsRetiring tag count => [("candidate", tag), ("connections", toString count)]
  | connectionsForced count grace => [("connections", toString count), ("grace", grace.text)]
  | connectionDrained id tag acknowledged drained =>
    [("connection_id", connectionName id), ("candidate", tag),
      ("acknowledged", toString acknowledged.toNat), ("drained", toString drained)]
  | drainFailed id tag text =>
    [("connection_id", connectionName id), ("candidate", tag), ("error", text)]
  | drainInterrupted id tag => [("connection_id", connectionName id), ("candidate", tag)]
  | cycleStarting tag target => [("candidate", tag), ("target", target)]
  | cycleStopped tag => [("candidate", tag)]
  | cycleCancelled tag generation => [("candidate", tag), ("generation", toString generation)]
  | probeSkipped tag => [("candidate", tag)]
  | probeFailed target failure => [("target", target), ("error", failure.message)]
  | probeTimedOut target timeout => [("target", target), ("timeout", timeout.text)]
  | candidateFailed tag before failures reason =>
    [("candidate", tag), ("from", before.name), ("failures", toString failures.toNat),
      ("reason", reason.message)]
  | stateChanged tag before after rtt =>
    [("candidate", tag), ("from", before.name), ("to", after.name), ("rtt", Span.optionText rtt)]
  | observatoryStarting intervalMs timeoutMs concurrency failureThreshold qualityCeilingMs =>
    [("interval_ms", toString intervalMs.toNat), ("timeout_ms", toString timeoutMs.toNat),
      ("concurrency", toString concurrency.toNat),
      ("failure_threshold", toString failureThreshold.toNat),
      ("quality_ceiling_ms", toString qualityCeilingMs.toNat)]
  | observatoryStarted candidates => [("candidates", toString candidates)]
  | candidateRegistered tag generation target =>
    [("candidate", tag), ("generation", toString generation), ("target", target)]
  | candidateUnregistered tag retired =>
    [("candidate", tag), ("retired_connections", toString retired)]
  | candidatesReconciled added removed replaced =>
    [("added", Quoted.listText added), ("removed", Quoted.listText removed),
      ("replaced", Quoted.listText replaced)]
  | observatoryStopping => []
  | observatoryStopped forced => [("force_closed", toString forced)]
  | requestRejected path => [("path", path)]
  | adminListening address => [("address", address)]
  | adminStopped => []

end Notice

end OutboundWatch
