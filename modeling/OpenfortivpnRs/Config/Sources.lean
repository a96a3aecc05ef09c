import OpenfortivpnRs.Cli
import OpenfortivpnRs.Config.File

/-!
# Where the configuration comes from (`config.rs`)

`from_sources` starts from the defaults, merges the configuration file in when one is given, and
applies the options of the command line one after another.  A step `if let Some(value) = …` that
sets a field is written as the value the field has behind it.
-/

namespace OpenfortivpnRs.Config

/-! ### The configuration file -/

def mergeOption {α : Type} (dst src : Option α) : Option α := if src.isSome then src else dst

def merge (self other : Config) : Config :=
  { self with
    gatewayHost := if other.gatewayHost ≠ "" then other.gatewayHost else self.gatewayHost
    gatewayPort := if other.gatewayPort ≠ defaultGatewayPort then other.gatewayPort else self.gatewayPort
    username := if other.username ≠ "" then other.username else self.username
    password := mergeOption self.password other.password
    cookie := mergeOption self.cookie other.cookie
    cookieOnStdin := self.cookieOnStdin || other.cookieOnStdin
    samlPort := mergeOption self.samlPort other.samlPort
    samlSessionId := mergeOption self.samlSessionId other.samlSessionId
    otp := mergeOption self.otp other.otp
    otpPrompt := mergeOption self.otpPrompt other.otpPrompt
    otpDelay := if other.otpDelay ≠ 0 then other.otpDelay else self.otpDelay
    noFtmPush := self.noFtmPush || other.noFtmPush
    pinentry := mergeOption self.pinentry other.pinentry
    realm := mergeOption self.realm other.realm
    ifaceName := mergeOption self.ifaceName other.ifaceName
    sni := mergeOption self.sni other.sni
    setRoutes := other.setRoutes
    setDns := other.setDns
    halfInternetRoutes := other.halfInternetRoutes
    reconnectDelay := mergeOption self.reconnectDelay other.reconnectDelay
    maxReconnects := if other.maxReconnects ≠ 0 then other.maxReconnects else self.maxReconnects
    useSyslog := self.useSyslog || other.useSyslog
    logVerbosity := other.logVerbosity
    useResolvconf := other.useResolvconf
    userAgent := if other.userAgent ≠ Config.default.userAgent then other.userAgent else self.userAgent
    hostcheck := mergeOption self.hostcheck other.hostcheck
    checkVirtualDesktop := mergeOption self.checkVirtualDesktop other.checkVirtualDesktop
    pppdUsePeerdns := other.pppdUsePeerdns
    pppdLog := mergeOption self.pppdLog other.pppdLog
    pppdPlugin := mergeOption self.pppdPlugin other.pppdPlugin
    pppdIpparam := mergeOption self.pppdIpparam other.pppdIpparam
    pppdIfname := mergeOption self.pppdIfname other.pppdIfname
    pppdCall := mergeOption self.pppdCall other.pppdCall
    pppdAcceptRemote := other.pppdAcceptRemote
    pppSystem := mergeOption self.pppSystem other.pppSystem
    caFile := mergeOption self.caFile other.caFile
    userCert := mergeOption self.userCert other.userCert
    userKey := mergeOption self.userKey other.userKey
    pemPassphrase := mergeOption self.pemPassphrase other.pemPassphrase
    insecureSsl := self.insecureSsl || other.insecureSsl
    cipherList := mergeOption self.cipherList other.cipherList
    minTls := mergeOption self.minTls other.minTls
    seclevel1 := self.seclevel1 || other.seclevel1
    trustedCerts := self.trustedCerts ++ other.trustedCerts
    proxy := mergeOption self.proxy other.proxy }

/-- `from_file`, with what reading a file gives. -/
def fromFile (readToString : List UInt8 → Except IoError String) (path : List UInt8) : Result Config :=
  match readToString path with
  | .error err => .error (.io err)
  | .ok contents => parseConfigFile contents

/-! ### The command line -/

/-- The gateway. -/
def applyGateway (self : Config) (cli : Cli) : Result Config :=
  match cli.gateway with
  | none => .ok self
  | some gateway =>
    match parseGateway gateway with
    | .error err => .error err
    | .ok (host, port) => .ok { self with gatewayHost := host, gatewayPort := port.getD self.gatewayPort }

/-- The options from `--username` on to `--check-virtual-desktop`. -/
def applyLogin (self : Config) (cli : Cli) : Config :=
  let self := { self with username := cli.username.getD self.username }
  let self := { self with password := cli.password.or self.password }
  let self := { self with cookie := (cli.cookie.map svpnCookieWithPrefix).or self.cookie }
  let self := { self with cookieOnStdin := if cli.cookieOnStdin then true else self.cookieOnStdin }
  let self := { self with samlPort := cli.samlLogin.or self.samlPort }
  let self := { self with otp := cli.otp.or self.otp }
  let self := { self with otpPrompt := cli.otpPrompt.or self.otpPrompt }
  let self := { self with otpDelay := cli.otpDelay.getD self.otpDelay }
  let self := { self with noFtmPush := if cli.noFtmPush then true else self.noFtmPush }
  let self := { self with pinentry := cli.pinentry.or self.pinentry }
  let self := { self with realm := cli.realm.or self.realm }
  let self := { self with ifaceName := cli.ifname.or self.ifaceName }
  let self := { self with sni := cli.sni.or self.sni }
  let self := { self with setRoutes := cli.setRoutes.getD self.setRoutes }
  let self := { self with setRoutes := if cli.noRoutes then false else self.setRoutes }
  let self := { self with halfInternetRoutes := cli.halfInternetRoutes.getD self.halfInternetRoutes }
  let self := { self with setDns := cli.setDns.getD self.setDns }
  let self := { self with setDns := if cli.noDns then false else self.setDns }
  let self := { self with caFile := cli.caFile.or self.caFile }
  let self := { self with userCert := cli.userCert.or self.userCert }
  let self := { self with userKey := cli.userKey.or self.userKey }
  let self := { self with pemPassphrase := cli.pemPassphrase.or self.pemPassphrase }
  let self := { self with useSyslog := if cli.useSyslog then true else self.useSyslog }
  let self := { self with logVerbosity := cliLogVerbosity cli.verbose cli.quiet }
  let self := { self with useResolvconf := cli.useResolvconf.getD self.useResolvconf }
  let self := { self with userAgent := cli.userAgent.getD self.userAgent }
  let self := { self with hostcheck := cli.hostcheck.or self.hostcheck }
  { self with checkVirtualDesktop := cli.checkVirtualDesktop.or self.checkVirtualDesktop }

/-- `--trusted-cert`, each time it is given. -/
def applyTrustedCerts (self : Config) (cli : Cli) : Result Config :=
  cli.trustedCert.foldlM pushTrustedCert self

/-- `--insecure-ssl` and `--cipher-list`. -/
def applyCiphers (self : Config) (cli : Cli) : Config :=
  let self := { self with insecureSsl := if cli.insecureSsl then true else self.insecureSsl }
  { self with cipherList := cli.cipherList.or self.cipherList }

/-- `--min-tls`. -/
def applyMinTls (self : Config) (cli : Cli) : Result Config :=
  match cli.minTls with
  | none => .ok self
  | some value =>
    match parseTlsVersion value with
    | .error err => .error err
    | .ok version => .ok { self with minTls := some version }

/-- The options from `--seclevel-1` on. -/
def applyTunnel (self : Config) (cli : Cli) : Config :=
  let self := { self with seclevel1 := if cli.seclevel1 then true else self.seclevel1 }
  let self := { self with reconnectDelay := (cli.reconnectDelay.or cli.persistent).or self.reconnectDelay }
  let self := { self with maxReconnects := cli.maxReconnects.getD self.maxReconnects }
  let self := { self with pppdUsePeerdns := cli.pppdUsePeerdns.getD self.pppdUsePeerdns }
  let self := { self with pppdUsePeerdns := if cli.pppdNoPeerdns then false else self.pppdUsePeerdns }
  let self := { self with pppdLog := cli.pppdLog.or self.pppdLog }
  let self := { self with pppdPlugin := cli.pppdPlugin.or self.pppdPlugin }
  let self := { self with pppdIfname := cli.pppdIfname.or self.pppdIfname }
  let self := { self with pppdIpparam := cli.pppdIpparam.or self.pppdIpparam }
  let self := { self with pppdCall := cli.pppdCall.or self.pppdCall }
  let self := { self with pppdAcceptRemote := cli.pppdAcceptRemote.getD self.pppdAcceptRemote }
  let self := { self with pppSystem := cli.pppSystem.or self.pppSystem }
  { self with proxy := cli.proxy.or self.proxy }

/-- `apply_cli`: the options, each of which is applied to what those before it have left. -/
def applyCli (self : Config) (cli : Cli) : Result Config := do
  let self ← self.applyGateway cli
  let self := self.applyLogin cli
  let self ← self.applyTrustedCerts cli
  let self := self.applyCiphers cli
  let self ← self.applyMinTls cli
  return self.applyTunnel cli

/-! ### Both -/

def fromSources (readToString : List UInt8 → Except IoError String) (cli : Cli) : Result Config :=
  match cli.config with
  | none => Config.default.applyCli cli
  | some configPath =>
    match fromFile readToString configPath with
    | .error err => .error err
    | .ok file => (Config.default.merge file).applyCli cli

end OpenfortivpnRs.Config
