import OutboundWatch.Config.Schema
import OutboundWatch.Text.Document

/-!
# Configurations as documents

The structured form of a configuration, by section.
-/

namespace OutboundWatch

open Document

def TargetConfig.document : TargetConfig → Document
  | tcp address => object [("kind", text "tcp"), ("address", text address)]
  | http url => object [("kind", text "http"), ("url", text url)]
  | proxy endpoint url =>
    object [("kind", text "proxy"), ("proxy", text endpoint), ("url", text url)]

def CandidateConfig.document (c : CandidateConfig) : Document :=
  object [("tag", text c.tag), ("target", c.target.document)]

def SwitchMargin.document : SwitchMargin → Document
  | relative ratio => object [("relative", double ratio)]
  | absoluteMs ms => object [("absolute_ms", number ms.toNat)]

namespace Config

def sections (c : Config) : List (String × Document) :=
  [("probe", object [
      ("interval_ms", number c.probe.intervalMs.toNat),
      ("timeout_ms", number c.probe.timeoutMs.toNat),
      ("concurrency", number c.probe.concurrency.toNat),
      ("jitter_ratio", double c.probe.jitterRatio)]),
    ("classifier", object [
      ("failure_threshold", number c.classifier.failureThreshold.toNat),
      ("quality_ceiling_ms", number c.classifier.qualityCeilingMs.toNat)]),
    ("selector", object [("switch_margin", c.selector.switchMargin.document)]),
    ("drain", object [("grace_secs", number c.drain.graceSecs.toNat)]),
    ("observability", object [
      ("log_level", text c.reporting.logLevel),
      ("metrics_enabled", bool c.reporting.metricsEnabled),
      ("metrics_address", text c.reporting.metricsAddress)]),
    ("admin", object [
      ("enabled", bool c.admin.enabled),
      ("api_key", text c.admin.apiKey),
      ("bind_address", text c.admin.bindAddress)])]

def document (c : Config) : Document :=
  object (c.sections ++ [("candidates", list (c.candidates.map CandidateConfig.document))])

end Config

end OutboundWatch
