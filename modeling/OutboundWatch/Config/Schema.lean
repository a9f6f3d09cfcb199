import OutboundWatch.Probe.Target
import OutboundWatch.Selection.Margin

/-!
# The configuration

The settings of an observatory, by section, with the defaults of the sections that have some.
-/

namespace OutboundWatch

/-- When and how candidates are probed. -/
structure ProbeSettings where
  intervalMs : UInt64 := 10000
  timeoutMs : UInt64 := 5000
  concurrency : UInt64 := 8
  /-- The part of the interval over which probes are spread. -/
  jitterRatio : Binary64 := Binary64.ofDecimal false 1 (-1)
  deriving DecidableEq

namespace ProbeSettings

def interval (s : ProbeSettings) : Span := Span.ofMillis s.intervalMs

def timeout (s : ProbeSettings) : Span := Span.ofMillis s.timeoutMs

end ProbeSettings

/-- When a candidate counts as failed or slow. -/
structure ClassifierSettings where
  failureThreshold : UInt32
  qualityCeilingMs : UInt64
  deriving DecidableEq

/-- How the best candidate is held. -/
structure SelectorSettings where
  switchMargin : SwitchMargin
  deriving DecidableEq

/-- How long open connections may go on after a stop. -/
structure DrainSettings where
  graceSecs : UInt64 := 10
  deriving DecidableEq

def DrainSettings.grace (s : DrainSettings) : Span := Span.ofSeconds s.graceSecs

structure ReportingSettings where
  logLevel : String := "info"
  metricsEnabled : Bool := false
  metricsAddress : String := "127.0.0.1:9090"
  deriving DecidableEq

structure AdminSettings where
  enabled : Bool := false
  apiKey : String := "CHANGE_ME_IN_PRODUCTION"
  bindAddress : String := "127.0.0.1:8081"
  deriving DecidableEq

/-- A candidate and how it is probed. -/
structure CandidateConfig where
  tag : String
  target : TargetConfig
  deriving DecidableEq

structure Config where
  probe : ProbeSettings := {}
  classifier : ClassifierSettings
  selector : SelectorSettings
  drain : DrainSettings := {}
  reporting : ReportingSettings := {}
  admin : AdminSettings := {}
  candidates : List CandidateConfig := []
  deriving DecidableEq

end OutboundWatch
