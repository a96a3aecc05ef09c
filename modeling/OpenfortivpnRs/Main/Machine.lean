import OpenfortivpnRs.Auth.Allocation
import OpenfortivpnRs.Lib.Protocol
import OpenfortivpnRs.Net.Apply
import OpenfortivpnRs.Proxy.RouteTable
import OpenfortivpnRs.Tls
import OpenfortivpnRs.Tunnel.Interface
import OpenfortivpnRs.Tunnel.Pppd

/-!
# The machine the client runs on

What `main.rs` and the code it calls ask of the system, as functions on a state `σ` that may be
anything.  Every answer that matters to how a run goes is put on the record of the run as a `Deed`.
-/

namespace OpenfortivpnRs.Main

open Lib Auth Http Tunnel

abbrev Pid : Type := ℕ

/-- What `waitpid` reports; `other` is a child that is stopped, traced or goes on. -/
inductive WaitStatus where
  | exited | signaled | stillAlive | other
  deriving DecidableEq, Repr

/-- The errors of `waitpid`, by what the program tells apart. -/
inductive Errno where
  | echild
  | other (text : String)
  deriving DecidableEq, Repr

inductive Signal where
  | sigterm | sigkill
  deriving DecidableEq, Repr

/-- What the forwarding loop meets: the streams of pppd and of the tunnel, once they do not block, and
what every turn of the loop starts with. -/
structure Streams where
  nonblocking : Result Unit
  pty : Proxy.TcpStream
  tls : Proxy.TcpStream
  polls : List Forward.Poll

/-- What connecting meets: the address of the peer and the handshake, or the error of `connect_tcp`. -/
abbrev Meeting : Type := Result (SocketAddr × Tls.Handshake)

structure Machine (σ : Type) where
  sha256 : List UInt8 → List UInt8
  /-- `current_platform`. -/
  platform : Option Net.Platform
  connect (config : Config) : σ → Meeting × σ
  /-- Requests on the connection that was opened last, and questions to the user. -/
  gateway : Gateway σ
  /-- A write to that connection, and its flush. -/
  writeAll (bytes : List UInt8) : σ → Except IoError Unit × σ
  /-- `read_packet` of the transport on it. -/
  readPacket : σ → Result PppPacket × σ
  setTimeouts : σ → Except IoError Unit × σ
  forkpty : σ → Except String Pid × σ
  waitpid (pid : Pid) (nohang : Bool) : σ → Except Errno WaitStatus × σ
  kill (pid : Pid) (signal : Signal) : σ → Unit × σ
  streams : σ → Streams × σ
  /-- What `getifaddrs` gives until the network setup thread stops waiting. -/
  interfaces : σ → List (Except IoError (List InterfaceAddress)) × σ
  host : Net.Host σ
  /-- `runtime::run` of the proxy. -/
  serve (listen : SocketAddr) (ppp : PppEngine) (routeTable : Proxy.ProxyRouteTable)
    (dnsServers : List Ipv4Addr) : σ → Result Unit × σ
  stopRequested : σ → Bool × σ
  /-- A second of sleep. -/
  sleep : σ → Unit × σ
  /-- How often a loop comes round before its deadline, or before there is no more to tell of it. -/
  rounds : σ → ℕ × σ

/-- An entry of the record. -/
inductive Deed where
  /-- `run_tunnel` or `proxy::run` is called. -/
  | attempt
  /-- It has returned. -/
  | returned (result : Result Unit)
  | connect (met : Meeting)
  | exchange (request : Request) (result : Result HttpResponse)
  | startTunnel (bytes : List UInt8) (result : Except IoError Unit)
  | spawn (command : PppdCommand) (result : Except String Pid)
  | forward (streams : Streams)
  /-- The network setup thread is joined that was started for the address; what it has seen of the
  interfaces. -/
  | setUp (addr : Ipv4Addr) (looks : List (Except IoError (List InterfaceAddress)))
    (result : Result (Option Net.AppliedNetworkPlan))
  | rollback (applied : Net.AppliedNetworkPlan) (result : Result Unit)
  | kill (pid : Pid) (signal : Signal)
  | waitpid (pid : Pid) (nohang : Bool) (result : Except Errno WaitStatus)
  /-- A PPP packet of the proxy's own engine. -/
  | send (packet : PppPacket) (result : Except IoError Unit)
  | receive (result : Result PppPacket)
  | serve (result : Result Unit)
  | look (stop : Bool)
  | sleep

/-- What stops a run: an error it returns or a panic, or a wait that has not ended. -/
inductive Halt where
  | stop (why : Stop)
  | waiting
  deriving DecidableEq, Repr

/-- A piece of the program on the machine. -/
abbrev Run (σ α : Type) : Type := Recording Halt σ Deed α

namespace Run

variable {σ α : Type}

def fail (err : OpenfortivpnError) : Run σ α := throw (.stop (.error err))

def ofResult : Result α → Run σ α
  | .ok a => pure a
  | .error err => fail err

/-- The error a run returns, which its caller may look at. -/
def returned : Halt → Option OpenfortivpnError
  | .stop (.error err) => some err
  | _ => none

/-- The result of a run, as a value; a panic is no result. -/
def result (run : Run σ α) : Run σ (Result α) := Recording.attempt returned run

/-- A conversation on the connection that is open, its exchanges put on the record. -/
def converse (login : Login σ α) : Run σ α := fun w =>
  match login ⟨w.world, []⟩ with
  | .ok a c => .ok a ⟨c.state, w.record ++ c.exchanges.map fun exchange => .exchange exchange.1 exchange.2⟩
  | .error why c => .error (.stop why)
      ⟨c.state, w.record ++ c.exchanges.map fun exchange => .exchange exchange.1 exchange.2⟩

end Run

variable {σ : Type} (machine : Machine σ)

def stopRequested : Run σ Bool := Recording.ask machine.stopRequested .look

/-- A write to the connection that is put on the record. -/
def writeAll (bytes : List UInt8) (entry : Except IoError Unit → Deed) : Run σ Unit := do
  match ← Recording.ask (machine.writeAll bytes) entry with
  | .ok () => pure ()
  | .error err => Run.fail (.io err)

end OpenfortivpnRs.Main
