import OutboundWatch.Net.HostPort
import OutboundWatch.Net.Url
import OutboundWatch.Probe.Error
import OutboundWatch.Probe.Outcome
import OutboundWatch.Text.Quoted

/-!
# Probe targets

The definition of a target says what is probed: a plain connection, a web page, or a web page through
a proxy. A definition is checked before it is used; a checked one can be built.
-/

namespace OutboundWatch

/-- What a candidate is probed with. -/
inductive TargetConfig where
  | tcp (address : String)
  | http (url : String)
  | proxy (endpoint url : String)
  deriving DecidableEq

/-- A target that can be probed. -/
inductive BuiltTarget where
  | tcp (address : String)
  | http (url : Net.Url) (proxy : Option Net.Url)

/-- The page that is probed when a definition names none. -/
def defaultProbeUrl : String := "https://www.gstatic.com/generate_204"

def pageSchemes : List String := ["http", "https"]
def proxySchemes : List String := ["socks5", "socks5h", "http", "https"]

def checkAddress (address : String) : Except TargetError Unit :=
  if Net.isHostPort address then .ok () else .error (.invalidAddress address)

def readUrl (raw : String) (schemes : List String) : Except TargetError Net.Url :=
  let unsupported (scheme : List Char) : Except TargetError Net.Url :=
    .error (.unsupportedScheme raw (String.ofList scheme))
  match Net.Url.parse raw with
  | .error reason => .error (.invalidUrl raw reason.message)
  | .ok (.hosted url) =>
    if schemes.contains (String.ofList url.scheme) then .ok url else unsupported url.scheme
  | .ok (.hostless scheme) =>
    if schemes.contains (String.ofList scheme) then .error (.invalidUrl raw "missing host")
    else unsupported scheme

namespace TargetConfig

def check : TargetConfig → Except TargetError Unit
  | tcp address => checkAddress address
  | http url => do
    let _ ← readUrl url pageSchemes
  | proxy endpoint url => do
    let _ ← readUrl url pageSchemes
    let _ ← readUrl endpoint proxySchemes

def build : TargetConfig → Except TargetError BuiltTarget
  | tcp address => do
    checkAddress address
    return .tcp address
  | http url => return .http (← readUrl url pageSchemes) none
  | proxy endpoint url => do
    let page ← readUrl url pageSchemes
    return .http page (some (← readUrl endpoint proxySchemes))

end TargetConfig

namespace BuiltTarget

def description : BuiltTarget → String
  | tcp address => "tcp://" ++ address
  | http url none => url.text
  | http url (some proxy) => url.text ++ " via " ++ proxy.text

def debugText : BuiltTarget → String
  | tcp address => "TcpTarget \x7b address: " ++ Quoted.text address ++ " \x7d"
  | http url proxy =>
    "HttpTarget \x7b url: " ++ Quoted.text url.text ++ ", proxy: " ++
      Quoted.optionText (proxy.map Net.Url.text) ++ " \x7d"

end BuiltTarget

end OutboundWatch
