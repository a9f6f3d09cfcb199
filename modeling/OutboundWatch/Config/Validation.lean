import OutboundWatch.Config.Schema
import OutboundWatch.Text.Blank

/-!
# Validation of a configuration

A configuration is valid when every setting is in its range and the candidates have distinct tags that
are not blank and targets that pass their check. Everything that is wrong is reported once, in the
order of the settings.
-/

namespace OutboundWatch

/-- One thing that is wrong with a configuration. -/
structure ValidationError where
  field : String
  message : String
  deriving DecidableEq

def ValidationError.text (e : ValidationError) : String := e.field ++ ": " ++ e.message

def validationText (errors : List ValidationError) : String :=
  "Validation failed: " ++ String.intercalate ", " (errors.map ValidationError.text)

namespace Config

def errorIf (bad : Bool) (field message : String) : List ValidationError :=
  if bad then [⟨field, message⟩] else []

def probeErrors (s : ProbeSettings) : List ValidationError :=
  errorIf (s.intervalMs == 0) "probe.interval_ms" "must be greater than 0" ++
  (if s.timeoutMs = 0 then [⟨"probe.timeout_ms", "must be greater than 0"⟩]
    else errorIf (decide (0 < s.intervalMs) && decide (s.intervalMs ≤ s.timeoutMs))
      "probe.timeout_ms" "must be less than probe.interval_ms") ++
  errorIf (s.concurrency == 0) "probe.concurrency" "must be greater than 0" ++
  errorIf (!s.jitterRatio.inUnitInterval) "probe.jitter_ratio" "must be in [0, 1)"

def classifierErrors (s : ClassifierSettings) (timeoutMs : UInt64) : List ValidationError :=
  errorIf (s.failureThreshold == 0) "classifier.failure_threshold" "must be greater than 0" ++
  (if s.qualityCeilingMs = 0 then [⟨"classifier.quality_ceiling_ms", "must be greater than 0"⟩]
    else errorIf (decide (timeoutMs < s.qualityCeilingMs))
      "classifier.quality_ceiling_ms" "must not exceed probe.timeout_ms")

def marginErrors : SwitchMargin → List ValidationError
  | .relative ratio =>
    errorIf (!ratio.inUnitInterval) "selector.switch_margin.relative" "must be in [0, 1)"
  | .absoluteMs _ => []

def reportingErrors (s : ReportingSettings) : List ValidationError :=
  errorIf (s.metricsEnabled && !Net.isSocketAddress s.metricsAddress)
    "observability.metrics_address" "must be a socket address"

/-- What is wrong with the tag of a candidate, given the tags of those before it that are not blank. -/
def tagErrors (field : String) (seen : List String) (tag : String) : List ValidationError :=
  if isBlankText tag then [⟨field ++ ".tag", "must not be empty"⟩]
  else errorIf (seen.contains tag) (field ++ ".tag") ("duplicate tag '" ++ tag ++ "'")

def targetErrors (field : String) (target : TargetConfig) : List ValidationError :=
  match target.check with
  | .ok () => []
  | .error e => [⟨field ++ ".target", e.message⟩]

/-- What is wrong with the candidates from the one at `index` on. -/
def candidateErrors (index : Nat) (seen : List String) :
    List CandidateConfig → List ValidationError
  | [] => []
  | candidate :: rest =>
    let field := "candidates[" ++ toString index ++ "]"
    tagErrors field seen candidate.tag ++ targetErrors field candidate.target ++
      candidateErrors (index + 1)
        (if isBlankText candidate.tag then seen else candidate.tag :: seen) rest

def errors (c : Config) : List ValidationError :=
  probeErrors c.probe ++ classifierErrors c.classifier c.probe.timeoutMs ++
    marginErrors c.selector.switchMargin ++ reportingErrors c.reporting ++
    candidateErrors 0 [] c.candidates

def isValid (c : Config) : Bool := c.errors.isEmpty

end Config

end OutboundWatch
