import Mathlib.Tactic

/-!
# Errors

`OpenfortivpnError` with the text each error displays, and the part of `std::io::Error` the program
looks at: its kind, and the text it displays.
-/

namespace OpenfortivpnRs

/-- The kinds of `std::io::ErrorKind` the program or its standard library calls tell apart. -/
inductive ErrorKind where
  | wouldBlock | timedOut | interrupted | unexpectedEof | writeZero | other
  deriving DecidableEq, Repr

/-- An I/O error: its kind and what it displays. -/
structure IoError where
  kind : ErrorKind
  text : String
  deriving DecidableEq, Repr

inductive OpenfortivpnError where
  | io (err : IoError)
  | tlsHandshake (text : String)
  | missingPeerCertificate
  | certificateVerification (text : String)
  | httpProtocol (text : String)
  | permissionDenied
  | auth (text : String)
  | pppd (text : String)
  | network (text : String)
  | badBoolean (text : String)
  | badInteger (key value : String)
  | badPort (key value : String)
  | badTlsVersion (text : String)
  | badCertificateDigest (text : String)
  | unknownConfigKey (text : String)
  | hdlcBufferTooSmall
  | hdlcNoFrameFound
  | hdlcInvalidFrame
  | hdlcBadChecksum
  deriving DecidableEq, Repr

/-- What an error displays. -/
def OpenfortivpnError.display : OpenfortivpnError → String
  | io err => "I/O error: " ++ err.text
  | tlsHandshake text => "TLS handshake failed: " ++ text
  | missingPeerCertificate => "server did not present a TLS certificate"
  | certificateVerification text => "TLS certificate verification failed: " ++ text
  | httpProtocol text => "HTTP protocol error: " ++ text
  | permissionDenied => "VPN gateway denied permission"
  | auth text => "authentication error: " ++ text
  | pppd text => "pppd error: " ++ text
  | network text => "network configuration error: " ++ text
  | badBoolean text => "bad boolean value: " ++ text
  | badInteger key value => "bad integer value for " ++ key ++ ": " ++ value
  | badPort key value => "bad port for " ++ key ++ ": " ++ value
  | badTlsVersion text => "bad TLS version: " ++ text
  | badCertificateDigest text => "bad certificate sha256 digest: " ++ text
  | unknownConfigKey text => "unknown configuration key: " ++ text
  | hdlcBufferTooSmall => "HDLC output buffer too small"
  | hdlcNoFrameFound => "no HDLC frame found"
  | hdlcInvalidFrame => "invalid HDLC frame"
  | hdlcBadChecksum => "bad HDLC checksum"

/-- `crate::error::Result`. -/
abbrev Result (α : Type) : Type := Except OpenfortivpnError α

end OpenfortivpnRs
