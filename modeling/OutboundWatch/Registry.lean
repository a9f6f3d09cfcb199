import OutboundWatch.Config.Schema
import OutboundWatch.TagMap
import OutboundWatch.Text.Blank

/-!
# The registry of candidates

Which candidates are under observation. Every registration gets a generation of its own, so that what
belongs to an earlier registration of a tag can be told apart.
-/

namespace OutboundWatch

/-- One registration. -/
structure Candidate where
  tag : String
  generation : Nat
  target : ProbeTarget
  /-- The definition it came from, if it was configured. -/
  source : Option TargetConfig

def Candidate.debugText (c : Candidate) : String :=
  "Candidate \x7b tag: " ++ Quoted.text c.tag ++ ", generation: " ++ toString c.generation ++
    ", target: " ++ Quoted.text c.target.description ++ " \x7d"

/-- Why a candidate cannot be registered. -/
inductive RegistryError where
  | emptyTag
  | duplicate (tag : String)
  deriving DecidableEq

structure Registry where
  candidates : TagMap Candidate
  nextGeneration : Nat

namespace Registry

def empty : Registry := ⟨TagMap.empty, 1⟩

def get? (r : Registry) (tag : String) : Option Candidate := r.candidates.get? tag

def contains (r : Registry) (tag : String) : Bool := r.candidates.contains tag

def size (r : Registry) : Nat := r.candidates.size

def tags (r : Registry) : List String := r.candidates.sortedTags

/-- The registered candidates in ascending order of their tags. -/
def sorted (r : Registry) : List Candidate := r.tags.filterMap r.get?

/-- Register a tag under the next generation. What else has to change with the registry is changed by the hook,
which is given the new candidate before anyone can see it. -/
def insertWith {σ : Type} (r : Registry) (tag : String) (target : ProbeTarget) (source : Option TargetConfig)
    (onInsert : Candidate → σ → σ) (parts : σ) : Registry × σ × Except RegistryError Candidate :=
  if isBlankText tag then (r, parts, .error .emptyTag)
  else if r.contains tag then (r, parts, .error (.duplicate tag))
  else
    let candidate : Candidate := ⟨tag, r.nextGeneration, target, source⟩
    (⟨r.candidates.insert tag candidate, r.nextGeneration + 1⟩, onInsert candidate parts, .ok candidate)

/-- Register a tag where nothing else has to change. -/
def insert (r : Registry) (tag : String) (target : ProbeTarget) (source : Option TargetConfig) :
    Registry × Except RegistryError Candidate :=
  let (after, _, result) := r.insertWith tag target source (fun _ parts => parts) ()
  (after, result)

/-- Remove a tag, if it is registered. The hook is given its candidate before it is gone. -/
def removeWith {σ : Type} (r : Registry) (tag : String) (onRemove : Candidate → σ → σ) (parts : σ) :
    Registry × σ × Option Candidate :=
  match r.get? tag with
  | none => (r, parts, none)
  | some candidate =>
    ({ r with candidates := r.candidates.erase tag }, onRemove candidate parts, some candidate)

/-- Remove a tag where nothing else has to change. -/
def remove (r : Registry) (tag : String) : Registry × Option Candidate :=
  let (after, _, removed) := r.removeWith tag (fun _ parts => parts) ()
  (after, removed)

end Registry

end OutboundWatch
