import OpenfortivpnRs.Proxy.Socks5
import OpenfortivpnRs.Text.Utf8

/-!
# SOCKS requests on the wire

`read_connect_request` is generic over what it reads from and writes to.  Here it is a program over any
such interface (`SocksIo`); over the socket of a client it is the one the main loop runs
(`readConnectRequest_client`), and over a reader and a writer that keeps what it is given it is read
against the encoding of a request: it reads each request off the front of its input, and where it
returns, the input it read is the encoding of its result.
-/

namespace OpenfortivpnRs.Proxy

open Text Lib Lib.Bytes Socks5

/-- The operations of a `Read` and a `Write` that a handshake uses; `replied` is told of each SOCKS
reply. -/
structure SocksIo (m : Type → Type) where
  readExact : ℕ → m (List UInt8)
  writeAll : List UInt8 → m Unit
  replied : UInt8 → m Unit

namespace SocksIo

variable {m : Type → Type} [Monad m] [MonadExceptOf OpenfortivpnError m] (io : SocksIo m)

def writeError (reply : UInt8) : m Unit := do
  io.writeAll [version, reply, 0x00, atypIpv4, 0, 0, 0, 0, 0, 0]
  io.replied reply

def negotiateNoAuth : m Unit := do
  let header ← io.readExact 2
  if header.getD 0 0 ≠ version then
    throw (.network ("unsupported SOCKS version " ++ toString (header.getD 0 0)))
  let methods ← io.readExact (header.getD 1 0).toNat
  if methodNoAuth ∈ methods then
    io.writeAll [version, methodNoAuth]
  else
    io.writeAll [version, methodNoAcceptable]
    throw (.network "SOCKS5 client did not offer no-auth method")

def readIpv4Connect : m SocksConnectRequest := do
  let tail ← io.readExact 6
  return {
    target := .ipv4 ⟨tail.getD 0 0, tail.getD 1 0, tail.getD 2 0, tail.getD 3 0⟩
    port := fromBeBytes (tail.getD 4 0) (tail.getD 5 0) }

def readDomainConnect : m SocksConnectRequest := do
  let len ← io.readExact 1
  let domain ← io.readExact (len.getD 0 0).toNat
  let port ← io.readExact 2
  match fromUtf8 domain with
  | none => throw (.network "SOCKS5 domain target is not valid UTF-8")
  | some domain =>
    return {
      target := .domain (.ofList domain)
      port := fromBeBytes (port.getD 0 0) (port.getD 1 0) }

def discardBytes (len : ℕ) : m Unit := do
  let _ ← io.readExact len

def readConnectCommand : m SocksConnectRequest := do
  let header ← io.readExact 4
  if header.getD 0 0 ≠ version then
    throw (.network ("unsupported SOCKS request version " ++ toString (header.getD 0 0)))
  if header.getD 1 0 ≠ commandConnect then
    io.writeError replyCommandNotSupported
    throw (.network ("unsupported SOCKS5 command " ++ toString (header.getD 1 0)))
  let atyp := header.getD 3 0
  if atyp = atypIpv4 then io.readIpv4Connect
  else if atyp = atypDomain then io.readDomainConnect
  else if atyp = atypIpv6 then
    io.discardBytes 18
    io.writeError replyAddressTypeNotSupported
    throw (.network "SOCKS5 IPv6 requests are not supported in IPv4-only proxy mode")
  else
    io.writeError replyAddressTypeNotSupported
    throw (.network ("unsupported SOCKS5 address type " ++ toString atyp))

def readConnectRequest : m SocksConnectRequest := do
  io.negotiateNoAuth
  io.readConnectCommand

end SocksIo

/-- The socket of a client. -/
def clientIo : SocksIo ClientM := ⟨ClientM.readExact, ClientM.writeAll, ClientM.replied⟩

/-- **The main loop runs this program** on the socket of a client. -/
theorem readConnectRequest_client : clientIo.readConnectRequest = Socks5.readConnectRequest := rfl

/-! ### A reader and a writer -/

/-- A writer by the results of its writes to come, and what it has taken; where no result is left it
takes what it is given. -/
structure Writer where
  writes : List (Except IoError ℕ)
  written : List UInt8
  deriving DecidableEq

/-- `Write::write_all`. -/
def Writer.writeAll (writer : Writer) (bytes : List UInt8) : Except IoError Unit × Writer :=
  if bytes = [] then (.ok (), writer)
  else
    match writer with
    | ⟨[], written⟩ => (.ok (), ⟨[], written ++ bytes⟩)
    | ⟨.error err :: writes, written⟩ =>
      if err.kind = .interrupted then Writer.writeAll ⟨writes, written⟩ bytes
      else (.error err, ⟨writes, written⟩)
    | ⟨.ok n :: writes, written⟩ =>
      if n = 0 then (.error ⟨.writeZero, "failed to write whole buffer"⟩, ⟨writes, written⟩)
      else Writer.writeAll ⟨writes, written ++ bytes.take n⟩ (bytes.drop n)
termination_by writer.writes.length

/-- Every write takes something. -/
def Writer.Open (writer : Writer) : Prop := ∀ result ∈ writer.writes, ∃ n, 0 < n ∧ result = .ok n

/-- What a successful `write_all` has written. -/
theorem Writer.writeAll_ok {writer rest : Writer} {bytes : List UInt8}
    (h : writer.writeAll bytes = (.ok (), rest)) : rest.written = writer.written ++ bytes := by
  fun_induction Writer.writeAll writer bytes with
  | case1 writer =>
    cases h
    rw [List.append_nil]
  | case2 bytes hne written =>
    cases h
    rfl
  | case3 bytes hne written err writes hint ih => exact ih h
  | case4 bytes hne written err writes hint => cases h
  | case5 bytes hne written writes => cases h
  | case6 bytes hne written n writes hn ih =>
    rw [ih h, List.append_assoc, List.take_append_drop]

/-- A writer whose writes all take something takes everything. -/
theorem Writer.Open.writeAll {writer : Writer} (h : writer.Open) (bytes : List UInt8) :
    ∃ rest, writer.writeAll bytes = (.ok (), rest) ∧ rest.Open := by
  fun_induction Writer.writeAll writer bytes with
  | case1 writer => exact ⟨writer, rfl, h⟩
  | case2 bytes hne written => exact ⟨_, rfl, h⟩
  | case3 bytes hne written err writes hint ih =>
    obtain ⟨n, -, hn⟩ := h _ List.mem_cons_self
    cases hn
  | case4 bytes hne written err writes hint =>
    obtain ⟨n, -, hn⟩ := h _ List.mem_cons_self
    cases hn
  | case5 bytes hne written writes =>
    obtain ⟨n, hpos, hn⟩ := h _ List.mem_cons_self
    cases hn
    omega
  | case6 bytes hne written n writes hn ih => exact ih fun result hr => h result (List.mem_cons_of_mem _ hr)

/-- A reader and a writer. -/
structure Wire where
  reader : Reader
  writer : Writer
  deriving DecidableEq

abbrev WireM (α : Type) : Type := EStateM OpenfortivpnError Wire α

def wireIo : SocksIo WireM where
  readExact n wire :=
    let (result, reader) := wire.reader.readExact n
    match result with
    | .ok bytes => .ok bytes { wire with reader := reader }
    | .error err => .error (.io err) { wire with reader := reader }
  writeAll bytes wire :=
    let (result, writer) := wire.writer.writeAll bytes
    match result with
    | .ok () => .ok () { wire with writer := writer }
    | .error err => .error (.io err) { wire with writer := writer }
  replied _ wire := .ok () wire

/-! ### Requests as bytes -/

/-- A greeting that offers the methods. -/
def greetingBytes (methods : List UInt8) : List UInt8 := version :: UInt8.ofNat methods.length :: methods

def Socks5.SocksTarget.bytes : SocksTarget → List UInt8
  | .ipv4 addr => atypIpv4 :: addr.octets
  | .domain name => atypDomain :: UInt8.ofNat (asBytes name).length :: asBytes name

/-- A domain fits its length byte. -/
def Socks5.SocksTarget.Fits : SocksTarget → Prop
  | .ipv4 _ => True
  | .domain name => (asBytes name).length ≤ 255

/-- A CONNECT request; the byte behind the command is reserved. -/
def Socks5.SocksConnectRequest.bytes (request : SocksConnectRequest) (reserved : UInt8) : List UInt8 :=
  [version, commandConnect, reserved] ++ (request.target.bytes ++ toBeBytes request.port)

theorem toNat_ofNat_length {bytes : List UInt8} (h : bytes.length ≤ 255) :
    (UInt8.ofNat bytes.length).toNat = bytes.length := by
  rw [UInt8.toNat_ofNat', Nat.mod_eq_of_lt (by omega)]

/-! ### Reading a request -/

/-- The reader and the writer do not fail, these bytes are to come and these were written. -/
structure Wire.Holds (bytes written : List UInt8) (wire : Wire) : Prop where
  reader_open : wire.reader.Open fun _ => False
  writer_open : wire.writer.Open
  bytes : wire.reader.bytes = bytes
  written : wire.writer.written = written

section Complete

variable {written : List UInt8}

theorem holds_readExact {n : ℕ} {out : List UInt8} (rest : List UInt8) (hn : n = out.length) :
    Triple (Wire.Holds (out ++ rest) written) (wireIo.readExact n)
      (fun read wire => read = out ∧ Wire.Holds rest written wire) (fun _ => False) := by
  rintro wire ⟨hreader, hwriter, hbytes, hwritten⟩
  obtain ⟨reader, hread, hrest, hopen⟩ := (Reader.readExact_spec n wire.reader hreader).2 (by
    rw [hbytes, List.length_append]
    omega)
  unfold wireIo
  dsimp only
  rw [hread]
  refine ⟨?_, hopen, hwriter, ?_, hwritten⟩
  · rw [hbytes, hn, List.take_left]
  · rw [hrest, hbytes, hn, List.drop_left]

theorem holds_writeAll (bytes out : List UInt8) :
    Triple (Wire.Holds bytes written) (wireIo.writeAll out)
      (fun _ => Wire.Holds bytes (written ++ out)) (fun _ => False) := by
  rintro wire ⟨hreader, hwriter, hbytes, hwritten⟩
  obtain ⟨writer, hwrite, hopen⟩ := hwriter.writeAll out
  have htaken := Writer.writeAll_ok hwrite
  unfold wireIo
  dsimp only
  rw [hwrite]
  exact ⟨hreader, hopen, hbytes, by rw [← hwritten]; exact htaken⟩

theorem holds_negotiateNoAuth {methods : List UInt8} (hlen : methods.length ≤ 255) (hauth : methodNoAuth ∈ methods)
    (rest : List UInt8) :
    Triple (Wire.Holds (greetingBytes methods ++ rest) written) wireIo.negotiateNoAuth
      (fun _ => Wire.Holds rest (written ++ [version, methodNoAuth])) (fun _ => False) := by
  have hsplit : greetingBytes methods ++ rest = [version, UInt8.ofNat methods.length] ++ (methods ++ rest) := rfl
  unfold SocksIo.negotiateNoAuth
  rw [hsplit]
  refine Triple.bind (holds_readExact (methods ++ rest) rfl) fun header => Triple.of_imp fun hheader => ?_
  subst hheader
  rw [if_neg (fun h => h rfl)]
  refine Triple.bind (holds_readExact rest (toNat_ofNat_length hlen)) fun read => Triple.of_imp fun hread => ?_
  subst hread
  rw [if_pos hauth]
  exact holds_writeAll rest _

theorem holds_readConnectCommand (request : SocksConnectRequest) (hfits : request.target.Fits) (reserved : UInt8)
    (rest : List UInt8) :
    Triple (Wire.Holds (request.bytes reserved ++ rest) written) wireIo.readConnectCommand
      (fun result wire => result = request ∧ Wire.Holds rest written wire) (fun _ => False) := by
  obtain ⟨target, port⟩ := request
  have hport : fromBeBytes (port >>> 8).toUInt8 port.toUInt8 = port := fromBeBytes_toBeBytes port
  unfold SocksIo.readConnectCommand
  cases target with
  | ipv4 addr =>
    have hsplit : SocksConnectRequest.bytes ⟨.ipv4 addr, port⟩ reserved ++ rest =
        [version, commandConnect, reserved, atypIpv4] ++ ((addr.octets ++ toBeBytes port) ++ rest) := rfl
    rw [hsplit]
    refine Triple.bind (holds_readExact _ rfl) fun header => Triple.of_imp fun hheader => ?_
    subst hheader
    rw [if_neg (fun h => h rfl), if_neg (fun h => h rfl), if_pos (by rfl)]
    unfold SocksIo.readIpv4Connect
    refine Triple.bind (holds_readExact rest rfl) fun tail => Triple.of_imp fun htail => ?_
    subst htail
    refine Triple.ret _ fun wire hwire => ⟨?_, hwire⟩
    exact congrArg (SocksConnectRequest.mk (.ipv4 addr)) hport
  | domain domain =>
    have hsplit : SocksConnectRequest.bytes ⟨.domain domain, port⟩ reserved ++ rest =
        [version, commandConnect, reserved, atypDomain] ++ ([UInt8.ofNat (asBytes domain).length] ++
          (asBytes domain ++ (toBeBytes port ++ rest))) := by
      simp [SocksConnectRequest.bytes, SocksTarget.bytes]
    have hdecode : fromUtf8 (asBytes domain) = some domain.toList := fromUtf8_encode domain.toList
    rw [hsplit]
    refine Triple.bind (holds_readExact _ rfl) fun header => Triple.of_imp fun hheader => ?_
    subst hheader
    rw [if_neg (fun h => h rfl), if_neg (fun h => h rfl)]
    show Triple _ (if atypDomain = atypIpv4 then _ else if atypDomain = atypDomain then _ else _) _ _
    rw [if_neg (by decide), if_pos rfl]
    unfold SocksIo.readDomainConnect
    refine Triple.bind (holds_readExact _ rfl) fun len => Triple.of_imp fun hlen => ?_
    subst hlen
    refine Triple.bind (holds_readExact _ (toNat_ofNat_length hfits)) fun name => Triple.of_imp fun hname => ?_
    subst hname
    refine Triple.bind (holds_readExact rest rfl) fun port' => Triple.of_imp fun hport' => ?_
    subst hport'
    rw [hdecode]
    refine Triple.ret _ fun wire hwire => ⟨?_, hwire⟩
    show SocksConnectRequest.mk (.domain (.ofList domain.toList)) _ = _
    rw [String.ofList_toList]
    exact congrArg (SocksConnectRequest.mk (.domain domain)) hport

end Complete

/-! ### What was read -/

/-- Of the input these bytes are read, and these were written. -/
structure Wire.Consumed (input consumed written : List UInt8) (wire : Wire) : Prop where
  input : input = consumed ++ wire.reader.bytes
  written : wire.writer.written = written

section Sound

variable {input consumed written : List UInt8}

theorem consumed_readExact (n : ℕ) :
    Triple (Wire.Consumed input consumed written) (wireIo.readExact n)
      (fun read wire => read.length = n ∧ Wire.Consumed input (consumed ++ read) written wire)
      (fun _ => True) := by
  rintro wire ⟨hinput, hwritten⟩
  unfold wireIo
  dsimp only
  rcases hread : wire.reader.readExact n with ⟨err | read, reader⟩
  · trivial
  · obtain ⟨hlen, hsplit, -⟩ := Reader.readExact_ok n _ hread
    refine ⟨hlen, ?_, hwritten⟩
    rw [hinput, hsplit, List.append_assoc]

theorem consumed_writeAll (out : List UInt8) :
    Triple (Wire.Consumed input consumed written) (wireIo.writeAll out)
      (fun _ => Wire.Consumed input consumed (written ++ out)) (fun _ => True) := by
  rintro wire ⟨hinput, hwritten⟩
  unfold wireIo
  dsimp only
  rcases hwrite : wire.writer.writeAll out with ⟨err | ⟨⟩, writer⟩
  · trivial
  · refine ⟨hinput, ?_⟩
    rw [← hwritten]
    exact Writer.writeAll_ok hwrite

/-- Of a program that returns nothing, or whose result does not matter. -/
theorem triple_any {α : Type} (c : WireM α) {P : Wire → Prop} : Triple P c (fun _ _ => True) (fun _ => True) := by
  intro wire _
  cases c wire <;> trivial

theorem triple_throw {α : Type} (err : OpenfortivpnError) {P : Wire → Prop} {Q : α → Wire → Prop} :
    Triple P (throw err : WireM α) Q (fun _ => True) := Triple.stop err fun _ _ => trivial

theorem triple_throw_bind {α β : Type} (err : OpenfortivpnError) (f : α → WireM β) {P : Wire → Prop}
    {Q : β → Wire → Prop} : Triple P (throw err >>= f) Q (fun _ => True) := fun _ _ => trivial

theorem consumed_negotiateNoAuth :
    Triple (Wire.Consumed input [] written) wireIo.negotiateNoAuth
      (fun _ wire => ∃ methods, methods.length ≤ 255 ∧ methodNoAuth ∈ methods ∧
        Wire.Consumed input (greetingBytes methods) (written ++ [version, methodNoAuth]) wire)
      (fun _ => True) := by
  unfold SocksIo.negotiateNoAuth
  refine Triple.bind (consumed_readExact 2) fun header => Triple.of_imp fun hheader => ?_
  obtain ⟨v, count, rfl⟩ := List.length_eq_two.mp hheader
  by_cases hversion : v = version
  · subst hversion
    rw [if_neg (fun h => h rfl)]
    refine Triple.bind (consumed_readExact _) fun methods => Triple.of_imp fun hcount => ?_
    by_cases hauth : methodNoAuth ∈ methods
    · rw [if_pos hauth]
      refine (consumed_writeAll _).conseq (fun _ h => h) (fun _ wire hwire => ?_) fun _ h => h
      have hlt := count.toNat_lt
      have hlen : methods.length = count.toNat := hcount
      refine ⟨methods, by omega, hauth, ?_⟩
      rw [greetingBytes, hlen, UInt8.ofNat_toNat]
      exact hwire
    · rw [if_neg hauth]
      exact Triple.bind (triple_any _) fun _ => triple_throw _
  · rw [if_pos (show [v, count].getD 0 0 ≠ version from hversion)]
    exact triple_throw_bind _ _

theorem consumed_readIpv4Connect :
    Triple (Wire.Consumed input consumed written) wireIo.readIpv4Connect
      (fun request wire => request.target.Fits ∧ ∃ addr, request.target = .ipv4 addr ∧
        Wire.Consumed input (consumed ++ (addr.octets ++ toBeBytes request.port)) written wire)
      (fun _ => True) := by
  unfold SocksIo.readIpv4Connect
  refine Triple.bind (consumed_readExact 6) fun tail => Triple.of_imp fun htail => ?_
  obtain ⟨a, b, c, d, e, f, rfl⟩ : ∃ a b c d e f, tail = [a, b, c, d, e, f] := by
    obtain _ | ⟨a, _ | ⟨b, _ | ⟨c, _ | ⟨d, _ | ⟨e, _ | ⟨f, _ | ⟨g, more⟩⟩⟩⟩⟩⟩⟩ := tail
    all_goals simp at htail
    exact ⟨a, b, c, d, e, f, rfl⟩
  refine Triple.ret _ fun wire hwire => ⟨trivial, _, rfl, ?_⟩
  have hport : toBeBytes (fromBeBytes e f) = [e, f] := toBeBytes_fromBeBytes e f
  show Wire.Consumed input (consumed ++ ([a, b, c, d] ++ toBeBytes (fromBeBytes e f))) written wire
  rw [hport]
  exact hwire

theorem consumed_readDomainConnect :
    Triple (Wire.Consumed input consumed written) wireIo.readDomainConnect
      (fun request wire => request.target.Fits ∧ ∃ name, request.target = .domain name ∧
        Wire.Consumed input (consumed ++ (UInt8.ofNat (asBytes name).length :: asBytes name ++
          toBeBytes request.port)) written wire)
      (fun _ => True) := by
  unfold SocksIo.readDomainConnect
  refine Triple.bind (consumed_readExact 1) fun len => Triple.of_imp fun hlen => ?_
  obtain ⟨n, rfl⟩ := List.length_eq_one_iff.mp hlen
  refine Triple.bind (consumed_readExact _) fun name => Triple.of_imp fun hname => ?_
  refine Triple.bind (consumed_readExact 2) fun port => Triple.of_imp fun hport => ?_
  obtain ⟨hi, lo, rfl⟩ := List.length_eq_two.mp hport
  cases hdecode : fromUtf8 name with
  | none => exact triple_throw _
  | some chars =>
    have hbytes : asBytes (.ofList chars) = name := by
      rw [asBytes, String.toList_ofList]
      exact (encode_of_fromUtf8 hdecode).symm
    have hcount : name.length = n.toNat := hname
    have hlt := n.toNat_lt
    refine Triple.ret _ fun wire hwire => ⟨?_, _, rfl, ?_⟩
    · show (asBytes (.ofList chars)).length ≤ 255
      rw [hbytes]
      omega
    · show Wire.Consumed input (consumed ++ (UInt8.ofNat (asBytes (.ofList chars)).length ::
        asBytes (.ofList chars) ++ toBeBytes (fromBeBytes hi lo))) written wire
      rw [hbytes, hcount, UInt8.ofNat_toNat, toBeBytes_fromBeBytes]
      simpa using hwire

theorem consumed_readConnectCommand :
    Triple (Wire.Consumed input consumed written) wireIo.readConnectCommand
      (fun request wire => request.target.Fits ∧ ∃ reserved,
        Wire.Consumed input (consumed ++ request.bytes reserved) written wire)
      (fun _ => True) := by
  unfold SocksIo.readConnectCommand
  refine Triple.bind (consumed_readExact 4) fun header => Triple.of_imp fun hheader => ?_
  obtain ⟨v, command, reserved, atyp, rfl⟩ : ∃ v command reserved atyp, header = [v, command, reserved, atyp] := by
    obtain _ | ⟨a, _ | ⟨b, _ | ⟨c, _ | ⟨d, _ | ⟨e, more⟩⟩⟩⟩⟩ := header
    all_goals simp at hheader
    exact ⟨a, b, c, d, rfl⟩
  by_cases hversion : v = version
  · subst hversion
    rw [if_neg (fun h => h rfl)]
    by_cases hcommand : command = commandConnect
    · subst hcommand
      rw [if_neg (fun h => h rfl)]
      show Triple _ (if atyp = atypIpv4 then _ else if atyp = atypDomain then _ else if atyp = atypIpv6 then _
        else _) _ _
      by_cases hipv4 : atyp = atypIpv4
      · subst hipv4
        rw [if_pos rfl]
        refine consumed_readIpv4Connect.conseq (fun _ h => h) ?_ fun _ h => h
        rintro ⟨target, port⟩ wire ⟨hfits, addr, rfl, hwire⟩
        refine ⟨hfits, reserved, ?_⟩
        rw [List.append_assoc] at hwire
        exact hwire
      · rw [if_neg hipv4]
        by_cases hdomain : atyp = atypDomain
        · subst hdomain
          rw [if_pos rfl]
          refine consumed_readDomainConnect.conseq (fun _ h => h) ?_ fun _ h => h
          rintro ⟨target, port⟩ wire ⟨hfits, name, rfl, hwire⟩
          refine ⟨hfits, reserved, ?_⟩
          rw [List.append_assoc] at hwire
          exact hwire
        · rw [if_neg hdomain]
          split
          · exact Triple.bind (triple_any _) fun _ => Triple.bind (triple_any _) fun _ => triple_throw _
          · exact Triple.bind (triple_any _) fun _ => triple_throw _
    · rw [if_pos (show [version, command, reserved, atyp].getD 1 0 ≠ commandConnect from hcommand)]
      exact Triple.bind (triple_any _) fun _ => triple_throw_bind _ _
  · rw [if_pos (show [v, command, reserved, atyp].getD 0 0 ≠ version from hversion)]
    exact triple_throw_bind _ _

end Sound

/-- **Requests are read off the front, and what is read is a request.**  A greeting that offers no
authentication and a CONNECT request behind it are read as this request, whatever follows and however the
bytes come, and 05 00 is written; and where the handshake returns a request, what it has read is such a
greeting and that request. -/
theorem socks_request_round_trip :
    (∀ (reader : Reader) (writer : Writer) (methods : List UInt8) (request : SocksConnectRequest)
      (reserved : UInt8) (more : List UInt8), (reader.Open fun _ => False) → writer.Open →
      methods.length ≤ 255 → methodNoAuth ∈ methods → request.target.Fits →
      reader.bytes = greetingBytes methods ++ (request.bytes reserved ++ more) →
      ∃ wire, wireIo.readConnectRequest ⟨reader, writer⟩ = .ok request wire ∧ wire.reader.bytes = more ∧
        wire.writer.written = writer.written ++ [0x05, 0x00]) ∧
    ∀ (start wire : Wire) (request : SocksConnectRequest),
      wireIo.readConnectRequest start = .ok request wire →
      ∃ methods reserved, methods.length ≤ 255 ∧ methodNoAuth ∈ methods ∧ request.target.Fits ∧
        start.reader.bytes = greetingBytes methods ++ request.bytes reserved ++ wire.reader.bytes ∧
        wire.writer.written = start.writer.written ++ [0x05, 0x00] := by
  constructor
  · intro reader writer methods request reserved more hreader hwriter hlen hauth hfits hbytes
    have hrun : Triple (Wire.Holds (greetingBytes methods ++ (request.bytes reserved ++ more)) writer.written)
        wireIo.readConnectRequest
        (fun result wire => result = request ∧ Wire.Holds more (writer.written ++ [version, methodNoAuth]) wire)
        (fun _ => False) :=
      Triple.bind (holds_negotiateNoAuth hlen hauth _) fun _ => holds_readConnectCommand request hfits reserved more
    have hmatch := hrun ⟨reader, writer⟩ ⟨hreader, hwriter, hbytes, rfl⟩
    rcases hresult : wireIo.readConnectRequest ⟨reader, writer⟩ with ⟨result, wire⟩ | ⟨err, wire⟩
    · rw [hresult] at hmatch
      obtain ⟨rfl, hholds⟩ := hmatch
      exact ⟨wire, rfl, hholds.bytes, hholds.written⟩
    · rw [hresult] at hmatch
      exact hmatch.elim
  · intro start wire request hresult
    have hrun : Triple (Wire.Consumed start.reader.bytes [] start.writer.written) wireIo.readConnectRequest
        (fun request wire => ∃ methods reserved, methods.length ≤ 255 ∧ methodNoAuth ∈ methods ∧
          request.target.Fits ∧ Wire.Consumed start.reader.bytes
            (greetingBytes methods ++ request.bytes reserved)
            (start.writer.written ++ [version, methodNoAuth]) wire) (fun _ => True) := by
      refine Triple.bind consumed_negotiateNoAuth fun _ => ?_
      rintro wire ⟨methods, hlen, hauth, hwire⟩
      have hcommand := consumed_readConnectCommand wire hwire
      cases hrun : wireIo.readConnectCommand wire with
      | error err wire' => trivial
      | ok request wire' =>
        rw [hrun] at hcommand
        obtain ⟨hfits, reserved, hconsumed⟩ := hcommand
        exact ⟨methods, reserved, hlen, hauth, hfits, hconsumed⟩
    obtain ⟨methods, reserved, hlen, hauth, hfits, hconsumed⟩ := hrun.run_ok ⟨rfl, rfl⟩ hresult
    exact ⟨methods, reserved, hlen, hauth, hfits, hconsumed.input, hconsumed.written⟩

/-- A request for a name that comes in two pieces, with payload behind it; the writer takes one byte at a
time. -/
theorem socks_request_round_trip_example :
    ∃ wire, wireIo.readConnectRequest
        ⟨⟨[.ok [5, 2, 2, 0, 5, 1, 0, 3, 2, 0xc3], .ok [0xa9, 0, 80, 71, 69]]⟩, ⟨[.ok 1, .ok 1], []⟩⟩ =
          .ok ⟨.domain "é", 80⟩ wire ∧
      wire.reader.bytes = [71, 69] ∧ wire.writer.written = [0x05, 0x00] := by
  refine socks_request_round_trip.1 _ _ [2, 0] ⟨.domain "é", 80⟩ 0 [71, 69] ?_ ?_ (by decide) (by decide) ?_
    (by decide)
  · intro result hresult
    simp only [List.mem_cons, List.not_mem_nil, or_false] at hresult
    rcases hresult with rfl | rfl <;> simp
  · intro result hresult
    simp only [List.mem_cons, List.not_mem_nil, or_false] at hresult
    rcases hresult with rfl | rfl <;> exact ⟨1, by decide, rfl⟩
  · show (asBytes "é").length ≤ 255
    decide

end OpenfortivpnRs.Proxy
