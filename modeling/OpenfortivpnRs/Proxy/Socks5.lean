import OpenfortivpnRs.Proxy.Session
import OpenfortivpnRs.Ipv4Addr
import OpenfortivpnRs.Reader
import OpenfortivpnRs.Lib.Bytes
import OpenfortivpnRs.Lib.Triple

/-!
# The SOCKS5 handshake (`proxy/socks5.rs`)

A client is a socket whose operations have any results; `failed` says that one of them was an error.
The handshake is a program over the socket that may stop with an error, and `replies` are the codes of
the SOCKS replies it has written.
-/

namespace OpenfortivpnRs.Proxy

open Text Lib Lib.Bytes

/-- The socket of a client: the stream, the results of the socket options to come (where none is left,
success), the codes of the replies written and whether an operation has failed. -/
structure ClientSocket where
  stream : TcpStream
  options : List (Except IoError Unit)
  replies : List UInt8
  failed : Bool
  deriving DecidableEq

/-- The bytes the client is yet to send. -/
def ClientSocket.bytes (client : ClientSocket) : List UInt8 := (Reader.mk client.stream.reads).bytes

/-- A part of the program that works on a client. -/
abbrev ClientM (α : Type) : Type := EStateM OpenfortivpnError ClientSocket α

namespace ClientM

/-- `Read::read_exact`. -/
def readExact (n : ℕ) : ClientM (List UInt8) := fun client =>
  let (result, reader) := (Reader.mk client.stream.reads).readExact n
  let client := { client with stream := { client.stream with reads := reader.reads } }
  match result with
  | .ok bytes => .ok bytes client
  | .error err => .error (.io err) { client with failed := true }

/-- `Write::write_all` and `flush`. -/
def writeAll (bytes : List UInt8) : ClientM Unit := fun client =>
  let (result, stream) := Proxy.writeAll client.stream bytes
  match result with
  | .ok () => .ok () { client with stream := stream }
  | .error err => .error (.io err) { client with stream := stream, failed := true }

/-- `set_nonblocking`, `set_read_timeout`, `set_write_timeout` or `try_clone`. -/
def setOption : ClientM Unit := fun client =>
  match client.options with
  | [] => .ok () client
  | .ok () :: options => .ok () { client with options := options }
  | .error err :: options => .error (.io err) { client with options := options, failed := true }

/-- A SOCKS reply was written. -/
def replied (reply : UInt8) : ClientM Unit := fun client =>
  .ok () { client with replies := client.replies ++ [reply] }

end ClientM

namespace Socks5

open ClientM

def version : UInt8 := 0x05
def methodNoAuth : UInt8 := 0x00
def methodNoAcceptable : UInt8 := 0xff
def commandConnect : UInt8 := 0x01
def atypIpv4 : UInt8 := 0x01
def atypDomain : UInt8 := 0x03
def atypIpv6 : UInt8 := 0x04
def replySucceeded : UInt8 := 0x00
def replyGeneralFailure : UInt8 := 0x01
def replyHostUnreachable : UInt8 := 0x04
def replyCommandNotSupported : UInt8 := 0x07
def replyAddressTypeNotSupported : UInt8 := 0x08

inductive SocksTarget
  | ipv4 (addr : Ipv4Addr)
  | domain (domain : String)
  deriving DecidableEq, Repr

structure SocksConnectRequest where
  target : SocksTarget
  port : UInt16
  deriving DecidableEq, Repr

/-- `write_success` for the address `bound`. -/
def writeSuccess (bound : Ipv4Addr) (port : UInt16) : ClientM Unit := do
  ClientM.writeAll ([version, replySucceeded, 0x00, atypIpv4] ++ bound.octets ++ toBeBytes port)
  replied replySucceeded

def writeError (reply : UInt8) : ClientM Unit := do
  ClientM.writeAll [version, reply, 0x00, atypIpv4, 0, 0, 0, 0, 0, 0]
  replied reply

def writeFailure (reply : UInt8) : ClientM Unit := writeError reply

def negotiateNoAuth : ClientM Unit := do
  let header ← readExact 2
  if header.getD 0 0 ≠ version then
    throw (.network ("unsupported SOCKS version " ++ toString (header.getD 0 0)))
  let methods ← readExact (header.getD 1 0).toNat
  if methodNoAuth ∈ methods then
    ClientM.writeAll [version, methodNoAuth]
  else
    ClientM.writeAll [version, methodNoAcceptable]
    throw (.network "SOCKS5 client did not offer no-auth method")

def readIpv4Connect : ClientM SocksConnectRequest := do
  let tail ← readExact 6
  return {
    target := .ipv4 ⟨tail.getD 0 0, tail.getD 1 0, tail.getD 2 0, tail.getD 3 0⟩
    port := fromBeBytes (tail.getD 4 0) (tail.getD 5 0) }

def readDomainConnect : ClientM SocksConnectRequest := do
  let len ← readExact 1
  let domain ← readExact (len.getD 0 0).toNat
  let port ← readExact 2
  match fromUtf8 domain with
  | none => throw (.network "SOCKS5 domain target is not valid UTF-8")
  | some domain =>
    return {
      target := .domain (.ofList domain)
      port := fromBeBytes (port.getD 0 0) (port.getD 1 0) }

def discardBytes (len : ℕ) : ClientM Unit := do
  let _ ← readExact len

def readConnectCommand : ClientM SocksConnectRequest := do
  let header ← readExact 4
  if header.getD 0 0 ≠ version then
    throw (.network ("unsupported SOCKS request version " ++ toString (header.getD 0 0)))
  if header.getD 1 0 ≠ commandConnect then
    writeError replyCommandNotSupported
    throw (.network ("unsupported SOCKS5 command " ++ toString (header.getD 1 0)))
  let atyp := header.getD 3 0
  if atyp = atypIpv4 then readIpv4Connect
  else if atyp = atypDomain then readDomainConnect
  else if atyp = atypIpv6 then
    discardBytes 18
    writeError replyAddressTypeNotSupported
    throw (.network "SOCKS5 IPv6 requests are not supported in IPv4-only proxy mode")
  else
    writeError replyAddressTypeNotSupported
    throw (.network ("unsupported SOCKS5 address type " ++ toString atyp))

def readConnectRequest : ClientM SocksConnectRequest := do
  negotiateNoAuth
  readConnectCommand

end Socks5

end OpenfortivpnRs.Proxy
