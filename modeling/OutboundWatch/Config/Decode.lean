import OutboundWatch.Config.Schema
import OutboundWatch.Numeric.Shortest
import OutboundWatch.Text.Quoted
import OutboundWatch.Toml.Value

/-!
# Configurations from values

A configuration is read from the members of a table in the order in which they stand there, so that the
first bad one is reported; what is missing is reported afterwards. Members that are not known are ignored.
A record may also be given as an array of its fields in order.
-/

namespace OutboundWatch

open Toml (Value Members)

/-- Why a value does not describe a configuration. -/
inductive SchemaError where
  | missingField (name : String)
  | unknownVariant (name : String) (known : List String)
  | wrongType (found expected : String)
  | wrongValue (found expected : String)
  /-- A choice without exactly one member, or a record with the wrong number of fields. -/
  | wrongShape
  deriving DecidableEq

namespace SchemaError

def ticked (name : String) : String := "\x60" ++ name ++ "\x60"

/-- The names that are known, as a phrase. -/
def oneOf : List String → String
  | [] => "there are no variants"
  | [a] => ticked a
  | [a, b] => ticked a ++ " or " ++ ticked b
  | names => "one of " ++ String.intercalate ", " (names.map ticked)

/-- The text of an error. A wrong shape has none. -/
def message? : SchemaError → Option String
  | missingField name => some ("missing field " ++ ticked name)
  | unknownVariant name known =>
    some ("unknown variant " ++ ticked name ++ ", expected " ++ oneOf known)
  | wrongType found expected => some ("invalid type: " ++ found ++ ", expected " ++ expected)
  | wrongValue found expected => some ("invalid value: " ++ found ++ ", expected " ++ expected)
  | wrongShape => none

end SchemaError

abbrev Decoded (α : Type) := Except SchemaError α

/-! ### Plain values -/

/-- What a value is, as errors name it. -/
def Toml.Value.description : Value → String
  | .text s => "string " ++ Quoted.text s
  | .integer n => "integer " ++ SchemaError.ticked (toString n)
  | .float x => "floating point " ++ SchemaError.ticked x.plainText
  | .boolean true => "boolean " ++ SchemaError.ticked "true"
  | .boolean false => "boolean " ++ SchemaError.ticked "false"
  | .moment | .table .. => "map"
  | .array _ | .tables .. => "sequence"

namespace Decode

def refuse {α : Type} (expected : String) (v : Value) : Decoded α :=
  .error (.wrongType v.description expected)

def text : Value → Decoded String
  | .text s => .ok s
  | v => refuse "a string" v

def flag : Value → Decoded Bool
  | .boolean b => .ok b
  | v => refuse "a boolean" v

def whole (expected : String) (bound : Nat) : Value → Decoded Nat
  | .integer n =>
    if 0 ≤ n ∧ n < bound then .ok n.toNat
    else .error (.wrongValue (Value.integer n).description expected)
  | v => refuse expected v

def word32 (v : Value) : Decoded UInt32 := UInt32.ofNat <$> whole "u32" UInt32.size v
def word64 (v : Value) : Decoded UInt64 := UInt64.ofNat <$> whole "u64" UInt64.size v
def size (v : Value) : Decoded UInt64 := UInt64.ofNat <$> whole "usize" UInt64.size v

def double : Value → Decoded Binary64
  | .float x => .ok x
  | .integer n => .ok (Binary64.ofInt n)
  | v => refuse "f64" v

def items? : Value → Option (List Value)
  | .array items => some items
  | .tables earlier last => some ((earlier ++ [last]).map (.table .header))
  | _ => none

def list {α : Type} (item : Value → Decoded α) (v : Value) : Decoded (List α) :=
  match items? v with
  | some items => items.mapM item
  | none => refuse "a sequence" v

/-! ### Records -/

/-- The fields of a record that are given. -/
structure Fields where
  given : Members
  named : Bool

namespace Fields

def ofItems (names : List String) (items : List Value) : Fields := ⟨names.zip items, false⟩

def ofValue (expected : String) (names : List String) (v : Value) : Decoded Fields :=
  match v, items? v with
  | .table _ members, _ => .ok ⟨members, true⟩
  | .moment, _ => .ok ⟨[], true⟩
  | _, some items => .ok (ofItems names items)
  | _, none => refuse expected v

/-- Read the given fields into a record, one after the other. -/
def readInto {σ : Type} (fields : Fields) (start : σ) (field : σ → String → Value → Decoded σ) :
    Decoded σ :=
  fields.given.foldlM (fun s m => field s m.1 m.2) start

def need {α : Type} (fields : Fields) (name : String) : Option α → Decoded α
  | some a => .ok a
  | none => .error (if fields.named then .missingField name else .wrongShape)

end Fields

/-! ### Sections -/

def probe (v : Value) : Decoded ProbeSettings := do
  let fields ← Fields.ofValue "struct ProbeConfig"
    ["interval_ms", "timeout_ms", "concurrency", "jitter_ratio"] v
  fields.readInto {} fun s name v => match name with
    | "interval_ms" => return { s with intervalMs := ← word64 v }
    | "timeout_ms" => return { s with timeoutMs := ← word64 v }
    | "concurrency" => return { s with concurrency := ← size v }
    | "jitter_ratio" => return { s with jitterRatio := ← double v }
    | _ => return s

def classifier (v : Value) : Decoded ClassifierSettings := do
  let fields ← Fields.ofValue "struct ClassifierConfig"
    ["failure_threshold", "quality_ceiling_ms"] v
  let (threshold, ceiling) ← fields.readInto ((none, none) : Option UInt32 × Option UInt64)
    fun s name v => match name with
      | "failure_threshold" => return (some (← word32 v), s.2)
      | "quality_ceiling_ms" => return (s.1, some (← word64 v))
      | _ => return s
  return ⟨← fields.need "failure_threshold" threshold, ← fields.need "quality_ceiling_ms" ceiling⟩

def marginNames : List String := ["relative", "absolute_ms"]

/-- A margin is a table with one member that names its kind. -/
def switchMargin : Value → Decoded SwitchMargin
  | .text name =>
    if marginNames.contains name then .error (.wrongType "unit variant" "newtype variant")
    else .error (.unknownVariant name marginNames)
  | .table _ [("relative", v)] => .relative <$> double v
  | .table _ [("absolute_ms", v)] => .absoluteMs <$> word64 v
  | .table _ [(name, _)] => .error (.unknownVariant name marginNames)
  | _ => .error .wrongShape

def selector (v : Value) : Decoded SelectorSettings := do
  let fields ← Fields.ofValue "struct SelectorConfig" ["switch_margin"] v
  let margin ← fields.readInto (none : Option SwitchMargin) fun s name v => match name with
    | "switch_margin" => return some (← switchMargin v)
    | _ => return s
  return ⟨← fields.need "switch_margin" margin⟩

def drain (v : Value) : Decoded DrainSettings := do
  let fields ← Fields.ofValue "struct DrainConfig" ["grace_secs"] v
  fields.readInto {} fun s name v => match name with
    | "grace_secs" => return { s with graceSecs := ← word64 v }
    | _ => return s

def reporting (v : Value) : Decoded ReportingSettings := do
  let fields ← Fields.ofValue "struct ObservabilityConfig"
    ["log_level", "metrics_enabled", "metrics_address"] v
  fields.readInto {} fun s name v => match name with
    | "log_level" => return { s with logLevel := ← text v }
    | "metrics_enabled" => return { s with metricsEnabled := ← flag v }
    | "metrics_address" => return { s with metricsAddress := ← text v }
    | _ => return s

def admin (v : Value) : Decoded AdminSettings := do
  let fields ← Fields.ofValue "struct AdminConfig" ["enabled", "api_key", "bind_address"] v
  fields.readInto {} fun s name v => match name with
    | "enabled" => return { s with enabled := ← flag v }
    | "api_key" => return { s with apiKey := ← text v }
    | "bind_address" => return { s with bindAddress := ← text v }
    | _ => return s

/-! ### Candidates -/

def targetKinds : List String := ["tcp", "http", "proxy"]

/-- The fields of a kind of target. All of them are texts. -/
def targetFields : String → List String
  | "tcp" => ["address"]
  | "http" => ["url"]
  | _ => ["proxy", "url"]

def targetKind : Value → Decoded String
  | .text name =>
    if targetKinds.contains name then .ok name else .error (.unknownVariant name targetKinds)
  | v => refuse "variant identifier" v

def targetOfKind (kind : String) (fields : Fields) : Decoded TargetConfig := do
  let texts ← fields.readInto ([] : List (String × String)) fun s name v =>
    if (targetFields kind).contains name then return (name, ← text v) :: s else return s
  let url := (texts.lookup "url").getD defaultProbeUrl
  match kind with
  | "tcp" => return .tcp (← fields.need "address" (texts.lookup "address"))
  | "http" => return .http url
  | _ => return .proxy (← fields.need "proxy" (texts.lookup "proxy")) url

/-- A target. Its fields are read once its kind is known. As an array it has its kind in front and
nothing behind its fields. -/
def target (v : Value) : Decoded TargetConfig :=
  match v, items? v with
  | .table _ members, _ => do
    let fields : Fields := ⟨members, true⟩
    let kind ← targetKind (← fields.need "kind" (members.lookup "kind"))
    targetOfKind kind fields
  | .moment, _ | _, some [] => .error (.missingField "kind")
  | _, some (first :: others) => do
    let kind ← targetKind first
    let target ← targetOfKind kind (Fields.ofItems (targetFields kind) others)
    if (targetFields kind).length < others.length then .error .wrongShape else .ok target
  | _, none => refuse "internally tagged enum TargetConfig" v

def candidate (v : Value) : Decoded CandidateConfig := do
  let fields ← Fields.ofValue "struct CandidateConfig" ["tag", "target"] v
  let (tag, target) ← fields.readInto ((none, none) : Option String × Option TargetConfig)
    fun s name v => match name with
      | "tag" => return (some (← text v), s.2)
      | "target" => return (s.1, some (← target v))
      | _ => return s
  return ⟨← fields.need "tag" tag, ← fields.need "target" target⟩

end Decode

/-! ### Configurations -/

/-- The sections of a configuration that are given, and the defaults of those that have some. -/
structure ConfigParts where
  probe : ProbeSettings := {}
  classifier : Option ClassifierSettings := none
  selector : Option SelectorSettings := none
  drain : DrainSettings := {}
  reporting : ReportingSettings := {}
  admin : AdminSettings := {}
  candidates : List CandidateConfig := []

/-- Read the configuration whose sections are the members of a table. -/
def Config.decode (members : Members) : Decoded Config := do
  let fields : Decode.Fields := ⟨members, true⟩
  let parts ← fields.readInto ({} : ConfigParts) fun s name v => match name with
    | "probe" => return { s with probe := ← Decode.probe v }
    | "classifier" => return { s with classifier := some (← Decode.classifier v) }
    | "selector" => return { s with selector := some (← Decode.selector v) }
    | "drain" => return { s with drain := ← Decode.drain v }
    | "observability" => return { s with reporting := ← Decode.reporting v }
    | "admin" => return { s with admin := ← Decode.admin v }
    | "candidates" => return { s with candidates := ← Decode.list Decode.candidate v }
    | _ => return s
  return {
    probe := parts.probe
    classifier := ← fields.need "classifier" parts.classifier
    selector := ← fields.need "selector" parts.selector
    drain := parts.drain
    reporting := parts.reporting
    admin := parts.admin
    candidates := parts.candidates }

end OutboundWatch
