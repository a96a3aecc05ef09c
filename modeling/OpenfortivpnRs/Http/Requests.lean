import OpenfortivpnRs.Http.RequestLog
import OpenfortivpnRs.Http.RoundTrip

/-!
# Requests as they are sent (`http.rs`)

What `http_send` writes, and a server that reads it.  A request whose parts fit in their lines is read as
what was asked for, up to its last byte (`readRequest_httpSend`), and a response with a length is received
up to its last byte (`Sendable.httpReceive_eq`).
-/

namespace OpenfortivpnRs.Http

open Text

/-! ### Sending -/

def isManagedRequestHeader (name : String) : Bool :=
  ["user-agent", "content-type", "cookie", "content-length"].contains (toAsciiLowercase name)

section Send

variable (host method path : String) (headers : List (String × String)) (body : List UInt8)

def requestLine : List Char := method.toList ++ ' ' :: (path.toList ++ ' ' :: "HTTP/1.1".toList)

/-- The headers in front of the length. -/
def frontHeaders : List (String × String) :=
  [("Host", host), ("User-Agent", (headerValueIn headers "User-Agent").getD "openfortivpn-rs"), ("Accept", "*/*"),
    ("Accept-Encoding", "identity"), ("Pragma", "no-cache"),
    ("Cache-Control", "no-store, no-cache, must-revalidate"),
    ("If-Modified-Since", "Sat, 1 Jan 2000 00:00:00 GMT"),
    ("Content-Type", (headerValueIn headers "Content-Type").getD "application/x-www-form-urlencoded"),
    ("Cookie", (headerValueIn headers "Cookie").getD "")]

/-- The headers of a request, in order. -/
def sentHeaders (bodyLen : ℕ) : List (String × String) :=
  frontHeaders host headers ++ ("Content-Length", toString bodyLen) ::
    headers.filter fun (name, _) => !isManagedRequestHeader name

/-- What `http_send` writes. -/
def httpSend : List UInt8 :=
  (crlfLines (requestLine method path :: (sentHeaders host headers body.length).map headerLine) ++
    ['\r', '\n']).flatMap String.utf8EncodeChar ++ body

end Send

/-! ### A server's side -/

/-- A request as a server reads it. -/
structure Asked where
  method : String
  path : String
  headers : List (String × String)
  body : List UInt8
  deriving DecidableEq, Repr

def splitRequestLine (line : List Char) : Option (List Char × List Char) := do
  let (method, rest) ← splitOnce [' '] line
  let (path, version) ← splitOnce [' '] rest
  if version = "HTTP/1.1".toList then some (method, path) else none

/-- How long the body of a request is: as its one `Content-Length` says, and no chunks. -/
def bodyLength (headers : List (String × String)) : Option ℕ :=
  if (headerValue headers "Transfer-Encoding").isSome then none
  else
    match headers.filter fun (key, _) => eqIgnoreAsciiCase key.toList "Content-Length".toList with
    | [] => some 0
    | [(_, value)] => parseContentLength value
    | _ => none

/-- The next request and the bytes behind it; nothing while it is not there, and where there is none. -/
def readRequest (bs : List UInt8) : Option (Asked × List UInt8) := do
  let headerEnd ← findBytes headersEnd bs
  let text ← fromUtf8 (bs.take (headerEnd + 4))
  let (method, path) ← splitRequestLine ((splitLines text).headD [])
  let headers ← (parseHeaderLines (splitLines text).tail).toOption
  let length ← bodyLength headers
  let rest := bs.drop (headerEnd + 4)
  if rest.length < length then none
  else some (⟨.ofList method, .ofList path, headers, rest.take length⟩, rest.drop length)

/-- A request is bytes that are there. -/
theorem readRequest_lt {bs rest : List UInt8} {asked : Asked} (h : readRequest bs = some (asked, rest)) :
    rest.length < bs.length := by
  unfold readRequest at h
  simp only [Option.bind_eq_bind, Option.bind_eq_some_iff] at h
  obtain ⟨headerEnd, hfind, text, -, line, -, headers, -, length, -, h⟩ := h
  have hle := findBytes_le hfind
  rw [headersEnd_length] at hle
  split at h
  · cases h
  · cases h
    rw [List.drop_drop, List.length_drop]
    omega

/-! ### Heads -/

section Head

variable {ls : List (List Char)}

theorem splitLines_head (h : ∀ l ∈ ls, '\r' ∉ l) : splitLines (crlfLines ls ++ ['\r', '\n']) = ls ++ [[], []] := by
  have hempty : splitLines ['\r', '\n'] = [] :: splitLines [] := @splitLines_cons [] [] (by decide)
  rw [splitLines_crlfLines _ h, hempty, splitLines]
  rfl

/-- A head ends at its empty line. -/
theorem findBytes_head (more : List UInt8) (hne : ls ≠ []) (h : ∀ l ∈ ls, l ≠ [] ∧ '\r' ∉ l) :
    ∃ i, findBytes headersEnd ((crlfLines ls ++ ['\r', '\n']).flatMap String.utf8EncodeChar ++ more) = some i ∧
      i + 4 = ((crlfLines ls ++ ['\r', '\n']).flatMap String.utf8EncodeChar).length := by
  have hbytes : (crlfLines ls ++ ['\r', '\n']).flatMap String.utf8EncodeChar =
      (ls.map (·.flatMap String.utf8EncodeChar)).flatMap (· ++ [13, 10]) ++ [13, 10] := by
    unfold crlfLines
    rw [List.flatMap_append, List.flatMap_assoc, List.flatMap_map]
    simp only [List.flatMap_append]
    rfl
  obtain ⟨i, hi, hlen⟩ := @findBytes_headersEnd (ls.map (·.flatMap String.utf8EncodeChar)) more (by simpa using hne)
    fun l hl => by
      obtain ⟨line, hline, rfl⟩ := List.mem_map.mp hl
      obtain ⟨c, cs, rfl⟩ := List.exists_cons_of_ne_nil (h line hline).1
      refine ⟨?_, not_mem_encode (c := '\r') (by decide) (h _ hline).2⟩
      rw [List.flatMap_cons]
      exact List.append_ne_nil_of_left_ne_nil String.utf8EncodeChar_ne_nil _
  refine ⟨i, ?_, ?_⟩
  · rw [hbytes, List.append_assoc]
    exact hi
  · rw [hbytes, List.length_append, ← hlen]
    rfl

end Head

/-! ### Values -/

theorem trimmed_of_forall {s : List Char} (h : ∀ c ∈ s, isWhitespace c = false) : Trimmed s := by
  have hkeep (s : List Char) (h : ∀ c ∈ s, isWhitespace c = false) : s.dropWhile isWhitespace = s := by
    cases s with
    | nil => rfl
    | cons c s => rw [List.dropWhile_cons, h c List.mem_cons_self, if_neg Bool.false_ne_true]
  unfold Trimmed trimEnd trimStart
  rw [hkeep s h, hkeep _ fun c hc => h c (List.mem_reverse.mp hc), List.reverse_reverse]

theorem isDigit_of_mem_toString {n : ℕ} : ∀ c ∈ (toString n).toList, c.isDigit = true := by
  intro c hc
  rw [show (toString n).toList = Nat.toDigits 10 n from Nat.toList_repr] at hc
  exact Nat.isDigit_of_mem_toDigits (by decide) (by decide) hc

theorem isWhitespace_of_isDigit {c : Char} (h : c.isDigit = true) : isWhitespace c = false := by
  have hrange : 48 ≤ c.toNat ∧ c.toNat ≤ 57 := by
    unfold Char.isDigit at h
    simpa [UInt32.le_iff_toNat_le] using h
  unfold isWhitespace
  simp only [Bool.or_eq_false_iff, Bool.and_eq_false_iff, decide_eq_false_iff_not, beq_eq_false_iff_ne]
  omega

theorem headerFits_length (n : ℕ) : HeaderFits "Content-Length" (toString n) where
  name_line := by decide
  name_colon := by decide
  name_trimmed := by decide
  value_line h := absurd (isDigit_of_mem_toString _ h) (by decide)
  value_trimmed := trimmed_of_forall fun c hc => isWhitespace_of_isDigit (isDigit_of_mem_toString c hc)

theorem parseContentLength_toString {n : ℕ} (h : n ≤ 2 ^ 64 - 1) : parseContentLength (toString n) = some n := by
  unfold parseContentLength
  rw [(headerFits_length n).value_trimmed]
  exact parseUnsigned_toString h

/-! ### Round trips -/

/-- A request whose parts can be sent as lines, with a body that is not chunked. -/
structure RequestFits (host method path : String) (headers : List (String × String)) (body : List UInt8) : Prop where
  method_word : ' ' ∉ method.toList ∧ '\r' ∉ method.toList
  path_word : ' ' ∉ path.toList ∧ '\r' ∉ path.toList
  host_line : '\r' ∉ host.toList ∧ Trimmed host.toList
  header_fits : ∀ name value, (name, value) ∈ headers → HeaderFits name value
  unchunked : ∀ name value, (name, value) ∈ headers →
    eqIgnoreAsciiCase name.toList "Transfer-Encoding".toList = false
  size : body.length ≤ 2 ^ 64 - 1

theorem names_frontHeaders {host : String} {headers : List (String × String)} {header : String × String}
    (h : header ∈ frontHeaders host headers) : eqIgnoreAsciiCase header.1.toList "Content-Length".toList = false ∧
      eqIgnoreAsciiCase header.1.toList "Transfer-Encoding".toList = false := by
  have hnames : ∀ name ∈ ["Host", "User-Agent", "Accept", "Accept-Encoding", "Pragma", "Cache-Control",
      "If-Modified-Since", "Content-Type", "Cookie"],
      eqIgnoreAsciiCase name.toList "Content-Length".toList = false ∧
        eqIgnoreAsciiCase name.toList "Transfer-Encoding".toList = false := by decide
  exact hnames _ (List.mem_map_of_mem (f := Prod.fst) h)

theorem isManaged_length {name : String} (h : eqIgnoreAsciiCase name.toList "Content-Length".toList = true) :
    isManagedRequestHeader name = true := by
  have hlower : toAsciiLowercase name = "content-length" := congrArg String.ofList (eq_of_beq h)
  unfold isManagedRequestHeader
  rw [hlower]
  decide

namespace RequestFits

variable {host method path : String} {headers : List (String × String)} {body : List UInt8}
  (h : RequestFits host method path headers body)

include h

/-- A header that is given or stands in for one that is not. -/
theorem headerValueIn_getD {name fallback : String} (hname : '\r' ∉ name.toList ∧ ':' ∉ name.toList ∧ Trimmed name.toList)
    (hfallback : '\r' ∉ fallback.toList ∧ Trimmed fallback.toList) :
    HeaderFits name ((headerValueIn headers name).getD fallback) := by
  unfold headerValueIn
  cases hfind : headers.find? fun (headerName, _) => eqIgnoreAsciiCase headerName.toList name.toList with
  | none => exact ⟨hname.1, hname.2.1, hname.2.2, hfallback.1, hfallback.2⟩
  | some header =>
    have hheader := h.header_fits header.1 header.2 (List.mem_of_find?_eq_some hfind)
    exact ⟨hname.1, hname.2.1, hname.2.2, hheader.value_line, hheader.value_trimmed⟩

theorem sentHeaders (n : ℕ) : ∀ name value, (name, value) ∈ sentHeaders host headers n → HeaderFits name value := by
  intro name value hmem
  unfold Http.sentHeaders frontHeaders at hmem
  simp only [List.cons_append, List.nil_append, List.mem_cons, Prod.mk.injEq] at hmem
  rcases hmem with ⟨rfl, rfl⟩ | ⟨rfl, rfl⟩ | ⟨rfl, rfl⟩ | ⟨rfl, rfl⟩ | ⟨rfl, rfl⟩ | ⟨rfl, rfl⟩ | ⟨rfl, rfl⟩ |
    ⟨rfl, rfl⟩ | ⟨rfl, rfl⟩ | ⟨rfl, rfl⟩ | hmem
  · exact ⟨by decide, by decide, by decide, h.host_line.1, h.host_line.2⟩
  · exact h.headerValueIn_getD (by decide) (by decide)
  · exact ⟨by decide, by decide, by decide, by decide, by decide⟩
  · exact ⟨by decide, by decide, by decide, by decide, by decide⟩
  · exact ⟨by decide, by decide, by decide, by decide, by decide⟩
  · exact ⟨by decide, by decide, by decide, by decide, by decide⟩
  · exact ⟨by decide, by decide, by decide, by decide, by decide⟩
  · exact h.headerValueIn_getD (by decide) (by decide)
  · exact h.headerValueIn_getD (by decide) (by decide)
  · exact headerFits_length n
  · exact h.header_fits name value (List.mem_of_mem_filter hmem)

/-- No header gives the length but the one that is written. -/
theorem bodyLength : bodyLength (Http.sentHeaders host headers body.length) = some body.length := by
  have htransfer : headerValue (Http.sentHeaders host headers body.length) "Transfer-Encoding" = none := by
    unfold headerValue Http.sentHeaders
    rw [Option.map_eq_none_iff, List.find?_eq_none]
    intro header hmem
    rcases List.mem_append.mp hmem with hmem | hmem
    · exact ne_true_of_eq_false (names_frontHeaders hmem).2
    · rcases List.mem_cons.mp hmem with rfl | hmem
      · exact Bool.false_ne_true
      · exact ne_true_of_eq_false (h.unchunked header.1 header.2 (List.mem_of_mem_filter hmem))
  have hlength : ((Http.sentHeaders host headers body.length).filter fun (key, _) =>
      eqIgnoreAsciiCase key.toList "Content-Length".toList) = [("Content-Length", toString body.length)] := by
    unfold Http.sentHeaders
    rw [List.filter_append, List.filter_eq_nil_iff.mpr fun header hmem =>
      ne_true_of_eq_false (names_frontHeaders hmem).1, List.nil_append, List.filter_cons,
      if_pos (by decide : eqIgnoreAsciiCase "Content-Length".toList "Content-Length".toList = true),
      List.filter_filter, List.filter_eq_nil_iff.mpr]
    intro header _ hboth
    simp only [Bool.and_eq_true, Bool.not_eq_true'] at hboth
    rw [isManaged_length hboth.1] at hboth
    exact absurd hboth.2 (by decide)
  unfold Http.bodyLength
  rw [htransfer, hlength]
  exact parseContentLength_toString h.size

/-- The lines of a request. -/
theorem headLines (n : ℕ) : ∀ l ∈ requestLine method path :: (Http.sentHeaders host headers n).map headerLine,
    l ≠ [] ∧ '\r' ∉ l := by
  intro l hl
  rcases List.mem_cons.mp hl with rfl | hl
  · refine ⟨by simp [requestLine], fun hmem => ?_⟩
    unfold requestLine at hmem
    simp only [List.mem_append, List.mem_cons] at hmem
    rcases hmem with hmem | hmem | hmem | hmem | hmem
    · exact h.method_word.2 hmem
    · cases hmem
    · exact h.path_word.2 hmem
    · cases hmem
    · revert hmem
      decide
  · obtain ⟨⟨name, value⟩, hheader, rfl⟩ := List.mem_map.mp hl
    have hfits := h.sentHeaders n name value hheader
    refine ⟨by simp [headerLine], fun hmem => ?_⟩
    simp only [headerLine, List.mem_append, List.mem_cons] at hmem
    rcases hmem with hname | hcolon | hspace | hvalue
    · exact hfits.name_line hname
    · cases hcolon
    · cases hspace
    · exact hfits.value_line hvalue

/-- **A request is read as what was asked for**, and the bytes behind it stay. -/
theorem readRequest_httpSend (more : List UInt8) :
    readRequest (httpSend host method path headers body ++ more) =
      some (⟨method, path, Http.sentHeaders host headers body.length, body⟩, more) := by
  have hlines := h.headLines body.length
  obtain ⟨i, hfind, hend⟩ := findBytes_head (body ++ more) (List.cons_ne_nil _ _) hlines
  have hsplit := splitLines_head fun l hl => (hlines l hl).2
  have hline : splitRequestLine (requestLine method path) = some (method.toList, path.toList) := by
    unfold splitRequestLine requestLine
    rw [splitOnce_char _ h.method_word.1]
    simp only [Option.bind_eq_bind, Option.bind_some]
    rw [splitOnce_char _ h.path_word.1]
    rfl
  unfold readRequest httpSend
  rw [List.append_assoc, hfind]
  generalize (crlfLines _ ++ ['\r', '\n']) = text at hend hsplit ⊢
  simp only [Option.bind_eq_bind, Option.bind_some, hend, List.take_left, List.drop_left, fromUtf8_encode, hsplit,
    List.cons_append, List.headD_cons, List.tail_cons, hline, parseHeaderLines_headerLines _ (h.sentHeaders _),
    Except.toOption, h.bodyLength, List.length_append]
  rw [if_neg (by omega), String.ofList_toList, String.ofList_toList]

end RequestFits

/-! ### Answers -/

/-- A response that can be sent with its length. -/
structure Sendable (response : HttpResponse) : Prop where
  fits : response.Fits
  short : response.headBytes.length ≤ maxHeaderSize
  length : ∃ name value, (response.headers.filter fun (key, _) =>
    eqIgnoreAsciiCase key.toList "Content-Length".toList) = [(name, value)] ∧ Denotes value response.body.length
  size : response.body.length ≤ 2 ^ 64 - 1

/-- What a response is received as. -/
def receivedAs (response : HttpResponse) : Result HttpResponse :=
  if Denied response.body then .error .permissionDenied else .ok response

/-- A body is read up to its length, and nothing behind it. -/
theorem receiveBody_whole {headers : List (String × String)} {body : List UInt8} {start : ℕ}
    {pieces : List (List UInt8)} {contentLength : String}
    (hl : headerValue headers "Content-Length" = some contentLength)
    (hn : parseContentLength contentLength = some body.length) (hstart : start ≤ body.length)
    (hsplits : Splits (body.drop start) pieces) :
    receiveBody headers (body.take start) (readerOf pieces) = (.ok body, readerOf []) := by
  unfold receiveBody
  simp only [hl, hn]
  rcases readUntil_threshold (.httpProtocol "connection closed before full HTTP body was received") hstart hsplits
      (fun n hn => @lengthVerdict_take body n body.length hn) with
    ⟨hlt, -⟩ | ⟨stop, after, -, hreached, hle, -, hrest, ⟨⟨⟩, -, hrun⟩ | ⟨err, hv, -⟩⟩
  · exact absurd hlt (lt_irrefl _)
  · obtain rfl : stop = body.length := le_antisymm hle hreached
    have hnone : after = [] := by
      rw [List.drop_length] at hrest
      refine List.eq_nil_iff_forall_not_mem.mpr fun p hp => (hrest.pieces p hp).1 ?_
      exact List.flatten_eq_nil_iff.mp hrest.flatten p hp
    simp only [hrun, hnone, List.take_length]
  · unfold lengthVerdict at hv
    split at hv <;> cases hv

/-- **A response with a length is received up to its last byte**, so the next one starts at its first. -/
theorem Sendable.httpReceive_eq {response : HttpResponse} (h : Sendable response) {pieces : List (List UInt8)}
    (hsplits : Splits response.bytes pieces) :
    httpReceive (readerOf pieces) = (receivedAs response, readerOf []) := by
  obtain ⟨name, value, hlength, hvalue⟩ := h.length
  have hmem : (name, value) ∈ response.headers :=
    List.mem_of_mem_filter (hlength ▸ List.mem_singleton_self (name, value))
  have hheader : headerValue response.headers "Content-Length" = some value := by
    unfold headerValue
    rw [← List.head?_filter, hlength]
    rfl
  have hparse := hvalue.parseContentLength (h.fits.headers name value hmem).value_trimmed h.size
  obtain ⟨i, hi, hend⟩ := h.fits.findBytes response.body
  have hshort := h.short
  obtain ⟨before, after, rfl, hin, -, hrun⟩ := headers_received hi hsplits fun n _ hlong => by omega
  rw [hend] at hin hrun
  obtain ⟨hbefore, hafter, hle⟩ := hsplits.of_append
  unfold HttpResponse.bytes at hbefore hafter hle
  rw [hbefore] at hrun
  generalize before.flatten.length = stop at hrun hin hafter hle
  rw [List.length_append] at hle
  rw [List.drop_append, List.drop_eq_nil_of_le hin, List.nil_append] at hafter
  have htake : ((response.headBytes ++ response.body).take stop).take response.headBytes.length =
      response.headBytes := by
    rw [List.take_take, Nat.min_eq_left hin, List.take_left]
  have hdrop : ((response.headBytes ++ response.body).take stop).drop response.headBytes.length =
      response.body.take (stop - response.headBytes.length) := by
    rw [List.drop_take, List.drop_left]
  have hbody := receiveBody_whole hheader hparse (by omega) hafter
  unfold httpReceive receivedAs
  simp only [hrun, htake, hdrop, h.fits.parseHeaders, hbody, denied_iff]
  split <;> rfl

end OpenfortivpnRs.Http
