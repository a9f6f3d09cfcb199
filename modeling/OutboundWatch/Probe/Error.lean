/-!
# Target errors

Why the definition of a probe target cannot be used.
-/

namespace OutboundWatch

inductive TargetError where
  | invalidAddress (address : String)
  | invalidUrl (url reason : String)
  | unsupportedScheme (url scheme : String)
  deriving DecidableEq

def TargetError.message : TargetError → String
  | invalidAddress address => "invalid address '" ++ address ++ "': expected host:port"
  | invalidUrl url reason => "invalid url '" ++ url ++ "': " ++ reason
  | unsupportedScheme url scheme => "unsupported scheme '" ++ scheme ++ "' in '" ++ url ++ "'"

end OutboundWatch
