import Mathlib.Tactic
import OpenfortivpnRs.SocketAddr

/-!
# Configuration (`config.rs`)

`Config` with its defaults.  Ports, delays and counts are natural numbers; what reads them from a text
keeps them in their range.
-/

namespace OpenfortivpnRs

def defaultGatewayPort : ℕ := 443
def sha256DigestHexLen : ℕ := 64
def defaultLogVerbosity : ℕ := 3
def maxLogVerbosity : ℕ := 6

inductive TlsVersion
  | tls10 | tls11 | tls12 | tls13
  deriving DecidableEq, Repr

structure Config where
  gatewayHost : String := ""
  gatewayPort : ℕ := defaultGatewayPort
  username : String := ""
  password : Option String := none
  cookie : Option String := none
  cookieOnStdin : Bool := false
  samlPort : Option ℕ := none
  samlSessionId : Option String := none
  otp : Option String := none
  otpPrompt : Option String := none
  otpDelay : ℕ := 0
  noFtmPush : Bool := false
  pinentry : Option String := none
  realm : Option String := none
  ifaceName : Option String := none
  sni : Option String := none
  setRoutes : Bool := true
  setDns : Bool := true
  halfInternetRoutes : Bool := false
  reconnectDelay : Option ℕ := none
  maxReconnects : ℕ := 0
  useSyslog : Bool := false
  logVerbosity : ℕ := defaultLogVerbosity
  useResolvconf : Bool := true
  userAgent : String := "Mozilla/5.0 SV1"
  hostcheck : Option String := none
  checkVirtualDesktop : Option String := none
  pppdUsePeerdns : Bool := false
  pppdLog : Option String := none
  pppdPlugin : Option String := none
  pppdIpparam : Option String := none
  pppdIfname : Option String := none
  pppdCall : Option String := none
  pppdAcceptRemote : Bool := true
  pppSystem : Option String := none
  caFile : Option String := none
  userCert : Option String := none
  userKey : Option String := none
  pemPassphrase : Option String := none
  insecureSsl : Bool := false
  cipherList : Option String := none
  minTls : Option TlsVersion := none
  seclevel1 : Bool := false
  trustedCerts : List String := []
  proxy : Option SocketAddr := none
  deriving DecidableEq, Repr

/-- `Config::default`. -/
def Config.default : Config := {}

end OpenfortivpnRs
