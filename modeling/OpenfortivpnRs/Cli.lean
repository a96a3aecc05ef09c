import OpenfortivpnRs.Config

/-!
# The command line (`cli.rs`)

What the options of the command line hold once they are parsed; `--version` ends the program before
any of them is looked at.
-/

namespace OpenfortivpnRs

structure Cli where
  gateway : Option String := none
  /-- A path, as its bytes. -/
  config : Option (List UInt8) := none
  username : Option String := none
  password : Option String := none
  cookie : Option String := none
  cookieOnStdin : Bool := false
  samlLogin : Option ℕ := none
  otp : Option String := none
  otpPrompt : Option String := none
  otpDelay : Option ℕ := none
  noFtmPush : Bool := false
  pinentry : Option String := none
  realm : Option String := none
  ifname : Option String := none
  sni : Option String := none
  setRoutes : Option Bool := none
  noRoutes : Bool := false
  halfInternetRoutes : Option Bool := none
  setDns : Option Bool := none
  noDns : Bool := false
  caFile : Option String := none
  userCert : Option String := none
  userKey : Option String := none
  pemPassphrase : Option String := none
  useSyslog : Bool := false
  useResolvconf : Option Bool := none
  userAgent : Option String := none
  hostcheck : Option String := none
  checkVirtualDesktop : Option String := none
  trustedCert : List String := []
  insecureSsl : Bool := false
  cipherList : Option String := none
  minTls : Option String := none
  seclevel1 : Bool := false
  reconnectDelay : Option ℕ := none
  persistent : Option ℕ := none
  maxReconnects : Option ℕ := none
  verbose : ℕ := 0
  quiet : ℕ := 0
  pppdUsePeerdns : Option Bool := none
  pppdNoPeerdns : Bool := false
  pppdLog : Option String := none
  pppdPlugin : Option String := none
  pppdIfname : Option String := none
  pppdIpparam : Option String := none
  pppdCall : Option String := none
  pppdAcceptRemote : Option Bool := none
  pppSystem : Option String := none
  proxy : Option SocketAddr := none
  deriving DecidableEq, Repr

end OpenfortivpnRs
