import OutboundWatch.Config.Decode
import OutboundWatch.Config.Validation
import OutboundWatch.Toml.Document

/-!
# Loading a configuration

A configuration file is read, parsed and validated. Each of the three can fail in its own way.
-/

namespace OutboundWatch

/-- What stands at the path of a configuration file. -/
inductive StoredFile where
  | missing
  | directory
  | content (bytes : List UInt8)

/-- Why a file has no text. -/
inductive ReadError where
  | notFound
  | isDirectory
  | notText
  deriving DecidableEq

def ReadError.message : ReadError → String
  | notFound => "No such file or directory (os error 2)"
  | isDirectory => "Is a directory (os error 21)"
  | notText => "stream did not contain valid UTF-8"

def StoredFile.read : StoredFile → Except ReadError String
  | missing => .error .notFound
  | directory => .error .isDirectory
  | content bytes =>
    match String.fromUTF8? (ByteArray.mk bytes.toArray) with
    | some text => .ok text
    | none => .error .notText

/-- Why there is no configuration. -/
inductive LoadError where
  | unreadable (reason : ReadError)
  | malformed
  | mismatched (reason : SchemaError)
  | invalid (errors : List ValidationError)
  deriving DecidableEq

def firstLine (text : String) : String :=
  let line := text.toList.takeWhile (· ≠ '\n')
  String.ofList (if line.length < text.length ∧ line.getLast? = some '\r' then line.dropLast else line)

/-- A line about the error, where there is one. -/
def LoadError.headline? : LoadError → Option String
  | unreadable reason => some ("IO error: " ++ reason.message)
  | malformed => none
  | mismatched reason => reason.message?.map firstLine
  | invalid errors => some (validationText errors)

namespace Config

/-- The configuration itself, if it is valid. -/
def accept (c : Config) : Except LoadError Config :=
  if c.isValid then .ok c else .error (.invalid c.errors)

def parse (text : String) : Except LoadError Config :=
  match Toml.parse? text with
  | none => .error .malformed
  | some members =>
    match Config.decode members with
    | .error reason => .error (.mismatched reason)
    | .ok c => c.accept

/-- Read, parse and validate a configuration file. -/
def load (file : StoredFile) : Except LoadError Config :=
  match file.read with
  | .error reason => .error (.unreadable reason)
  | .ok text => parse text

end Config

end OutboundWatch
