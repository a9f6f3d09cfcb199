import OutboundWatch.Config.Validation
import OutboundWatch.Registry

/-!
# Errors of an observatory

Why a registration, a reconciliation or an opening is refused, and why an observatory does not start.
-/

namespace OutboundWatch

inductive ObservatoryError where
  | emptyTag
  | duplicateCandidate (tag : String)
  | unknownCandidate (tag : String)
  | invalidTarget (tag : String) (reason : TargetError)
  | stopped
  deriving DecidableEq

namespace ObservatoryError

def ofRegistry : RegistryError → ObservatoryError
  | .emptyTag => emptyTag
  | .duplicate tag => duplicateCandidate tag

def message : ObservatoryError → String
  | emptyTag => "candidate tag must not be empty"
  | duplicateCandidate tag => "candidate already registered: " ++ tag
  | unknownCandidate tag => "candidate not registered: " ++ tag
  | invalidTarget tag reason =>
    "invalid target for candidate " ++ tag ++ ": " ++ reason.message
  | stopped => "observatory is stopped"

end ObservatoryError

/-- Why an observatory does not start. -/
inductive StartError where
  | invalidConfig (errors : List ValidationError)
  | tooManyPermits
  | candidate (error : ObservatoryError)
  deriving DecidableEq

def StartError.message : StartError → String
  | invalidConfig errors => "configuration error: " ++ validationText errors
  | tooManyPermits => "too many permits"
  | candidate error => error.message

end OutboundWatch
