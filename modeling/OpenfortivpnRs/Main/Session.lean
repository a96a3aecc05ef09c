import OpenfortivpnRs.Auth.Saml
import OpenfortivpnRs.Main.Machine

/-!
# Preparing a tunnel and leaving it (`tunnel/session.rs`)

The client logs in on one connection and asks for its allocation there; on a second one it fetches the
configuration and asks for the tunnel.
-/

namespace OpenfortivpnRs.Main

open Lib Auth Text Tunnel

/-- An open connection, as far as a run looks at it. -/
structure TlsConnection where
  peerCertSha256 : String
  verification : Tls.CertificateVerification
  tcpPeerAddr : SocketAddr
  deriving DecidableEq, Repr

/-- `TlsConnection::connect` on what it meets. -/
def connected (sha256 : List UInt8 → List UInt8) (config : Config) : Meeting → Result TlsConnection
  | .error err => .error err
  | .ok (tcpPeerAddr, handshake) =>
    match Tls.connectStream sha256 config handshake with
    | .error err => .error err
    | .ok verification =>
      .ok ⟨Tls.certSha256Hex sha256 (handshake.certs.headD []), verification, tcpPeerAddr⟩

structure PreparedTunnel where
  cookie : String
  vpnConfig : VpnConfigXml
  peerCertSha256 : String
  certificateVerification : Tls.CertificateVerification
  tcpPeerAddr : SocketAddr

/-- What `send_start_tunnel_request` writes. -/
def startTunnelRequest (cookie : String) : List UInt8 :=
  asBytes ("GET /remote/sslvpn-tunnel HTTP/1.1\r\nHost: sslvpn\r\nCookie: " ++ cookie ++ "\r\n\r\n")

variable {σ : Type} (machine : Machine σ)

def connect (config : Config) : Run σ TlsConnection := do
  let met ← Recording.ask (machine.connect config) .connect
  Run.ofResult (connected machine.sha256 config met)

def logIn (config : Config) : Run σ AuthSession :=
  match config.samlSessionId with
  | some samlSessionId =>
    Run.converse (authenticateWithSamlSession machine.gateway config samlSessionId.toList)
  | none => Run.converse (authenticate machine.gateway config)

def prepare (config : Config) : Run σ PreparedTunnel := do
  let authStream ← connect machine config
  let authSession ← logIn machine config
  let cookie := authSession.cookie
  Run.converse (requestVpnAllocation machine.gateway config cookie authSession.portalRedirect)
  let tunnelStream ← connect machine config
  let vpnConfig ← Run.converse (getVpnConfig machine.gateway config cookie)
  let request := startTunnelRequest cookie
  writeAll machine request (.startTunnel request)
  return ⟨cookie, vpnConfig, authStream.peerCertSha256, authStream.verification, tunnelStream.tcpPeerAddr⟩

def logout (config : Config) (cookie : String) : Run σ Unit := do
  let _ ← connect machine config
  Run.converse (logOut machine.gateway config cookie)

end OpenfortivpnRs.Main
