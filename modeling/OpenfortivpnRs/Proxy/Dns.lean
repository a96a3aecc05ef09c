import OpenfortivpnRs.Proxy.Lookup

/-!
# DNS messages (`proxy/dns.rs`)

The query for an address, framed for TCP, and the parser of the response.  Indexing is total here, a
byte behind the end is 0; the functions whose names end in `Indexed` are the same ones with the checked
indexing of the source.
-/

namespace OpenfortivpnRs.Proxy

open Lib.Bytes

def dnsTypeA : UInt16 := 1
def dnsClassIn : UInt16 := 1
def dnsHeaderLen : ℕ := 12

/-! ### Queries -/

/-- `str::trim_end_matches('.')`. -/
def trimEndDots (name : List Char) : List Char := (name.reverse.dropWhile (· == '.')).reverse

/-- The loop of `encode_name` over the labels. -/
def encodeLabels (name : String) : List (List Char) → List UInt8 → Result (List UInt8)
  | [], out => .ok out
  | label :: labels, out =>
    let bytes := Text.asBytes (.ofList label)
    if bytes = [] ∨ bytes.length > 63 then .error (.network ("bad DNS label in " ++ name))
    else encodeLabels name labels (out ++ UInt8.ofNat bytes.length :: bytes)

/-- `encode_name`. -/
def encodeName (name : String) (out : List UInt8) : Result (List UInt8) :=
  let trimmed := trimEndDots name.toList
  if trimmed = [] then .ok (out ++ [0])
  else do
    let out ← encodeLabels name (trimmed.splitOn '.') out
    return out ++ [0]

/-- `build_tcp_query`. -/
def buildTcpQuery (id : UInt16) (name : String) : Result (List UInt8) := do
  let message := toBeBytes id ++ toBeBytes 0x0100 ++ toBeBytes 1 ++ toBeBytes 0 ++ toBeBytes 0 ++ toBeBytes 0
  let message ← encodeName name message
  let message := message ++ toBeBytes dnsTypeA ++ toBeBytes dnsClassIn
  if message.length > 65535 then .error (.network ("DNS query for " ++ name ++ " is too large"))
  else return toBeBytes (UInt16.ofNat message.length) ++ message

/-! ### Responses -/

section Message

variable (message : List UInt8)

/-- The loop of `skip_name`. -/
def skipNameLoop (offset jumps : ℕ) : Result ℕ :=
  if offset ≥ message.length then .error (.network "truncated DNS name")
  else
    let len := message.getD offset 0
    if len &&& 0xc0 = 0xc0 then
      if offset + 1 ≥ message.length then .error (.network "truncated DNS name pointer")
      else .ok (offset + 2)
    else if len = 0 then .ok (offset + 1)
    else if len &&& 0xc0 ≠ 0 then .error (.network "unsupported DNS label encoding")
    else if jumps + 1 > 128 then .error (.network "DNS name too deep")
    else skipNameLoop (offset + 1 + len.toNat) (jumps + 1)
termination_by message.length - offset
decreasing_by omega

/-- `skip_name`. -/
def skipName (offset : ℕ) : Result ℕ := skipNameLoop message offset 0

/-- The loop of `parse_message` over the questions. -/
def skipQuestions : ℕ → ℕ → Result ℕ
  | 0, offset => .ok offset
  | count + 1, offset => do
    let offset ← skipName message offset
    if offset + 4 > message.length then .error (.network "truncated DNS question")
    else skipQuestions count (offset + 4)

/-- The loop of `parse_message` over the answers. -/
def readAnswers : ℕ → ℕ → List Ipv4Addr → Result (List Ipv4Addr)
  | 0, _, addrs => .ok addrs
  | count + 1, offset, addrs => do
    let offset ← skipName message offset
    if offset + 10 > message.length then .error (.network "truncated DNS answer")
    else
      let rrType := wordAt message offset
      let cls := wordAt message (offset + 2)
      let rdlen := (wordAt message (offset + 8)).toNat
      let offset := offset + 10
      if offset + rdlen > message.length then .error (.network "truncated DNS rdata")
      else if rrType = dnsTypeA ∧ cls = dnsClassIn ∧ rdlen = 4 then
        readAnswers count (offset + rdlen) (addrs ++ [⟨message.getD offset 0, message.getD (offset + 1) 0,
          message.getD (offset + 2) 0, message.getD (offset + 3) 0⟩])
      else readAnswers count (offset + rdlen) addrs

/-- `parse_message`. -/
def parseMessage (expectedId : UInt16) : Result (List Ipv4Addr) :=
  if message.length < dnsHeaderLen then .error (.network "short DNS response")
  else if wordAt message 0 ≠ expectedId then .error (.network "DNS response id mismatch")
  else
    let flags := wordAt message 2
    if flags &&& 0x8000 = 0 then .error (.network "DNS response is not marked as response")
    else if flags &&& 0x000f ≠ 0 then
      .error (.network ("DNS response returned rcode " ++ toString (flags &&& 0x000f).toNat))
    else do
      let offset ← skipQuestions message (wordAt message 4).toNat dnsHeaderLen
      readAnswers message (wordAt message 6).toNat offset []

end Message

/-- `parse_tcp_response`. -/
def parseTcpResponse (frame : List UInt8) (expectedId : UInt16) : Result (List Ipv4Addr) :=
  if frame.length < 2 then .ok []
  else
    let len := (wordAt frame 0).toNat
    if frame.length < 2 + len then .ok []
    else parseMessage ((frame.take (2 + len)).drop 2) expectedId

/-- The functions a lookup uses. -/
def dnsCodec : DnsCodec := ⟨buildTcpQuery, parseTcpResponse⟩

/-! ### With checked indexing -/

/-- A result, or none where the program panics. -/
abbrev Indexed (α : Type) : Type := ExceptT OpenfortivpnError Option α

namespace Indexed

def ofResult {α : Type} (r : Result α) : Indexed α := ExceptT.mk (some r)

/-- `bytes[i]`. -/
def byte (bytes : List UInt8) (i : ℕ) : Indexed UInt8 := ExceptT.lift bytes[i]?

/-- `u16::from_be_bytes([bytes[i], bytes[i + 1]])`. -/
def word (bytes : List UInt8) (i : ℕ) : Indexed UInt16 := do
  let hi ← byte bytes i
  let lo ← byte bytes (i + 1)
  return fromBeBytes hi lo

/-- `&bytes[start..stop]`. -/
def slice (bytes : List UInt8) (start stop : ℕ) : Indexed (List UInt8) :=
  ExceptT.lift (if start ≤ stop ∧ stop ≤ bytes.length then some ((bytes.take stop).drop start) else none)

end Indexed

section Message

open Indexed

variable (message : List UInt8)

def skipNameLoopIndexed (offset jumps : ℕ) : Indexed ℕ :=
  if offset ≥ message.length then throw (.network "truncated DNS name")
  else do
    let len ← byte message offset
    if len &&& 0xc0 = 0xc0 then
      if offset + 1 ≥ message.length then throw (.network "truncated DNS name pointer")
      else return offset + 2
    else if len = 0 then return offset + 1
    else if len &&& 0xc0 ≠ 0 then throw (.network "unsupported DNS label encoding")
    else if jumps + 1 > 128 then throw (.network "DNS name too deep")
    else skipNameLoopIndexed (offset + 1 + len.toNat) (jumps + 1)
termination_by message.length - offset
decreasing_by omega

def skipNameIndexed (offset : ℕ) : Indexed ℕ := skipNameLoopIndexed message offset 0

def skipQuestionsIndexed : ℕ → ℕ → Indexed ℕ
  | 0, offset => return offset
  | count + 1, offset => do
    let offset ← skipNameIndexed message offset
    if offset + 4 > message.length then throw (.network "truncated DNS question")
    else skipQuestionsIndexed count (offset + 4)

def readAnswersIndexed : ℕ → ℕ → List Ipv4Addr → Indexed (List Ipv4Addr)
  | 0, _, addrs => return addrs
  | count + 1, offset, addrs => do
    let offset ← skipNameIndexed message offset
    if offset + 10 > message.length then throw (.network "truncated DNS answer")
    else
      let rrType ← word message offset
      let cls ← word message (offset + 2)
      let rdlen ← word message (offset + 8)
      if offset + 10 + rdlen.toNat > message.length then throw (.network "truncated DNS rdata")
      else if rrType = dnsTypeA ∧ cls = dnsClassIn ∧ rdlen.toNat = 4 then
        let a ← byte message (offset + 10)
        let b ← byte message (offset + 10 + 1)
        let c ← byte message (offset + 10 + 2)
        let d ← byte message (offset + 10 + 3)
        readAnswersIndexed count (offset + 10 + rdlen.toNat) (addrs ++ [⟨a, b, c, d⟩])
      else readAnswersIndexed count (offset + 10 + rdlen.toNat) addrs

def parseMessageIndexed (expectedId : UInt16) : Indexed (List Ipv4Addr) :=
  if message.length < dnsHeaderLen then throw (.network "short DNS response")
  else do
    let id ← word message 0
    if id ≠ expectedId then throw (.network "DNS response id mismatch")
    else
      let flags ← word message 2
      if flags &&& 0x8000 = 0 then throw (.network "DNS response is not marked as response")
      else if flags &&& 0x000f ≠ 0 then
        throw (.network ("DNS response returned rcode " ++ toString (flags &&& 0x000f).toNat))
      else
        let qdcount ← word message 4
        let ancount ← word message 6
        let offset ← skipQuestionsIndexed message qdcount.toNat dnsHeaderLen
        readAnswersIndexed message ancount.toNat offset []

end Message

def parseTcpResponseIndexed (frame : List UInt8) (expectedId : UInt16) : Indexed (List Ipv4Addr) :=
  if frame.length < 2 then return []
  else do
    let len ← Indexed.word frame 0
    if frame.length < 2 + len.toNat then return []
    else
      let message ← Indexed.slice frame 2 (2 + len.toNat)
      parseMessageIndexed message expectedId

end OpenfortivpnRs.Proxy
