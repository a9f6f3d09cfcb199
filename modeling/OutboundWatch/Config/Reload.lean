import OutboundWatch.Config.Load

/-!
# Reloading

A file that has been saved again is loaded again. Its candidates are passed on if they differ from those
of the last configuration that was accepted; the other settings cannot change while an observatory runs,
so that a change of them is only noticed. A file that cannot be loaded changes nothing.
-/

namespace OutboundWatch

namespace Config

def sortedCandidates (c : Config) : List CandidateConfig :=
  c.candidates.mergeSort fun a b => decide (a.tag ≤ b.tag)

end Config

/-- Whether two numbers are written alike, where every number that is not finite is written as nothing. -/
def Binary64.writtenAlike (x y : Binary64) : Bool :=
  if x.isFinite && y.isFinite then x.same y else !x.isFinite && !y.isFinite

def ProbeSettings.writtenAlike (a b : ProbeSettings) : Bool :=
  a.jitterRatio.writtenAlike b.jitterRatio && decide ({ a with jitterRatio := b.jitterRatio } = b)

def SwitchMargin.writtenAlike : SwitchMargin → SwitchMargin → Bool
  | relative x, relative y => x.writtenAlike y
  | absoluteMs m, absoluteMs n => m == n
  | _, _ => false

/-- Whether two configurations agree in everything but their candidates. -/
def Config.sameTunables (a b : Config) : Bool :=
  a.probe.writtenAlike b.probe && decide (a.classifier = b.classifier) &&
    a.selector.switchMargin.writtenAlike b.selector.switchMargin && decide (a.drain = b.drain) &&
    decide (a.reporting = b.reporting) && decide (a.admin = b.admin)

/-- What a reload has changed. -/
structure ReloadDiff where
  /-- The new candidates in the order of the file, if they are others than before. -/
  candidates : Option (List CandidateConfig)
  tunablesChanged : Bool
  deriving DecidableEq

/-- The last configuration that was accepted. -/
structure ReloadGate where
  accepted : Config

/-- Compare a configuration with the last one and remember it. The order of the candidates does not
matter. -/
def ReloadGate.admit (gate : ReloadGate) (next : Config) : ReloadGate × ReloadDiff :=
  (⟨next⟩, {
    candidates :=
      if next.sortedCandidates = gate.accepted.sortedCandidates then none else some next.candidates
    tunablesChanged := !next.sameTunables gate.accepted })

/-- What comes of a saved file. -/
inductive Reload where
  | rejected (reason : LoadError)
  | admitted (diff : ReloadDiff)

def ReloadGate.reload (gate : ReloadGate) (file : StoredFile) : ReloadGate × Reload :=
  match Config.load file with
  | .error reason => (gate, .rejected reason)
  | .ok next =>
    let (gate, diff) := gate.admit next
    (gate, .admitted diff)

end OutboundWatch
