import OpenfortivpnRs.Http.Response
import OpenfortivpnRs.Reader

/-!
# Receiving HTTP responses (`http.rs`)

`http_receive` reads until the buffer holds what it looks for: the end of the headers, as many bytes
as `Content-Length` says, or the end of the last chunk.  Without either header the body is what
happens to be buffered.
-/

namespace OpenfortivpnRs.Http

open Text

def maxHeaderSize : ℕ := 64 * 1024
def readChunkSize : ℕ := 4096

/-- `"\r\n\r\n"`. -/
def headersEnd : List UInt8 := [13, 10, 13, 10]

/-- `"\r\n0\r\n"`. -/
def lastChunk : List UInt8 := [13, 10, 48, 13, 10]

@[simp] theorem headersEnd_length : headersEnd.length = 4 := rfl

@[simp] theorem lastChunk_length : lastChunk.length = 5 := rfl

def permissionDeniedMarkers : List (List UInt8) :=
  ["<!--sslvpnerrmsgkey=sslvpn_login_permission_denied-->", "permission_denied denied",
    "Permission denied"].map asBytes

/-- `find_bytes`: the index of the first occurrence. -/
def findBytes (needle : List UInt8) : List UInt8 → Option ℕ
  | [] => none
  | b :: haystack =>
    if needle <+: b :: haystack then some 0 else (findBytes needle haystack).map (· + 1)

/-- `contains_permission_denied_marker`. -/
def containsPermissionDeniedMarker (body : List UInt8) : Bool :=
  permissionDeniedMarkers.any fun marker => (findBytes marker body).isSome

/-- `chunked_body_end`. -/
def chunkedBodyEnd (body : List UInt8) : Option ℕ :=
  (findBytes lastChunk body).map fun marker =>
    let stop := marker + lastChunk.length
    if (body.drop stop).take 2 = [13, 10] then stop + 2 else stop

/-! ### Headers -/

/-- `str::split("\r\n")`. -/
def splitLines (s : List Char) : List (List Char) :=
  match h : splitOnce ['\r', '\n'] s with
  | none => [s]
  | some (line, rest) =>
    have := splitOnce_lt (by simp) h
    line :: splitLines rest
termination_by s.length

/-- The loop of `parse_headers`. -/
def parseHeaderLines : List (List Char) → Result (List (String × String))
  | [] => .ok []
  | line :: lines =>
    if line = [] then .ok []
    else
      match splitOnce [':'] line with
      | none => .error (.httpProtocol ("malformed HTTP header: " ++ .ofList line))
      | some (name, value) => do
        let headers ← parseHeaderLines lines
        return (.ofList (trimEnd (trimStart name)), .ofList (trimEnd (trimStart value))) :: headers

/-- The parts of a status line: `splitn(3, ' ')`. -/
def splitStatusLine (line : List Char) : List Char × Option (List Char) × Option (List Char) :=
  match splitOnce [' '] line with
  | none => (line, none, none)
  | some (version, rest) =>
    match splitOnce [' '] rest with
    | none => (version, some rest, none)
    | some (code, reason) => (version, some code, some reason)

/-- `parse_headers`. -/
def parseHeaders (rawHeaders : List UInt8) : Result (ℕ × String × List (String × String)) :=
  match fromUtf8 rawHeaders with
  | none => .error (.httpProtocol "headers are not valid UTF-8")
  | some text =>
    match splitLines text with
    | [] => .error (.httpProtocol "missing status line")
    | statusLine :: lines =>
      let (version, code, reason) := splitStatusLine statusLine
      if ¬ "HTTP/".toList <+: version then
        .error (.httpProtocol "status line does not start with HTTP/")
      else
        match code with
        | none => .error (.httpProtocol "missing status code")
        | some code =>
          match parseUnsigned (2 ^ 16 - 1) code with
          | none => .error (.httpProtocol "invalid status code")
          | some statusCode => do
            let headers ← parseHeaderLines lines
            return (statusCode, .ofList (reason.getD []), headers)

/-- `header_value`. -/
def headerValue (headers : List (String × String)) (name : String) : Option String :=
  (headers.find? fun (key, _) => eqIgnoreAsciiCase key.toList name.toList).map Prod.snd

/-- The length `Content-Length` gives. -/
def parseContentLength (value : String) : Option ℕ :=
  parseUnsigned (2 ^ 64 - 1) (trimEnd (trimStart value.toList))

/-- `Transfer-Encoding` names `chunked`. -/
def isChunked (headers : List (String × String)) : Bool :=
  match headerValue headers "Transfer-Encoding" with
  | some value => contains (toAsciiLowercase value) "chunked"
  | none => false

/-! ### Reading -/

section Loop

variable {α : Type}

/-- Reads are appended to the buffer until `verdict` decides on it; the end of the stream before that
is the error `closed`. -/
def readUntil (verdict : List UInt8 → Option (Result α)) (closed : OpenfortivpnError)
    (buffer : List UInt8) (reader : Reader) : Result (α × List UInt8) × Reader :=
  match verdict buffer with
  | some (.ok a) => (.ok (a, buffer), reader)
  | some (.error err) => (.error err, reader)
  | none =>
    match h : reader.read readChunkSize with
    | (.error err, rest) => (.error (.io err), rest)
    | (.ok [], rest) => (.error closed, rest)
    | (.ok (b :: chunk), rest) =>
      have : rest.size < reader.size := by
        have := (Reader.read_size (by decide) h).1
        rw [List.length_cons] at this
        omega
      readUntil verdict closed (buffer ++ b :: chunk) rest
termination_by reader.size

end Loop

/-- What a turn of `read_until_headers_complete` decides. -/
def headersVerdict (buffer : List UInt8) : Option (Result ℕ) :=
  match findBytes headersEnd buffer with
  | some headerEnd => some (.ok (headerEnd + 4))
  | none =>
    if maxHeaderSize < buffer.length then
      some (.error (.httpProtocol "HTTP headers exceed maximum size"))
    else none

/-- `read_until_headers_complete`: the end of the headers and the buffer. -/
def readUntilHeadersComplete (reader : Reader) : Result (ℕ × List UInt8) × Reader :=
  readUntil headersVerdict
    (.httpProtocol "connection closed before HTTP headers were complete") [] reader

/-- The condition of the loop that reads as much as `Content-Length` says. -/
def lengthVerdict (expected : ℕ) (body : List UInt8) : Option (Result Unit) :=
  if body.length < expected then none else some (.ok ())

/-- The condition of the loop that reads chunks. -/
def chunkedVerdict (body : List UInt8) : Option (Result Unit) :=
  if (chunkedBodyEnd body).isNone then none else some (.ok ())

/-- The part of `http_receive` that reads the body, of which `body` is there. -/
def receiveBody (headers : List (String × String)) (body : List UInt8) (reader : Reader) :
    Result (List UInt8) × Reader :=
  match headerValue headers "Content-Length" with
  | some contentLength =>
    match parseContentLength contentLength with
    | none => (.error (.httpProtocol "invalid Content-Length"), reader)
    | some expected =>
      match readUntil (lengthVerdict expected)
          (.httpProtocol "connection closed before full HTTP body was received") body reader with
      | (.error err, rest) => (.error err, rest)
      | (.ok ((), body), rest) => (.ok (body.take expected), rest)
  | none =>
    if isChunked headers then
      match readUntil chunkedVerdict
          (.httpProtocol "connection closed before chunked HTTP body ended") body reader with
      | (.error err, rest) => (.error err, rest)
      | (.ok ((), body), rest) =>
        match chunkedBodyEnd body with
        | some stop => (.ok (body.take stop), rest)
        | none => (.ok body, rest)
    else (.ok body, reader)

/-- `http_receive`. -/
def httpReceive (reader : Reader) : Result HttpResponse × Reader :=
  match readUntilHeadersComplete reader with
  | (.error err, rest) => (.error err, rest)
  | (.ok (headerEnd, buffer), rest) =>
    match parseHeaders (buffer.take headerEnd) with
    | .error err => (.error err, rest)
    | .ok (statusCode, reason, headers) =>
      match receiveBody headers (buffer.drop headerEnd) rest with
      | (.error err, rest) => (.error err, rest)
      | (.ok body, rest) =>
        if containsPermissionDeniedMarker body then (.error .permissionDenied, rest)
        else (.ok ⟨statusCode, reason, headers, body⟩, rest)

end OpenfortivpnRs.Http
