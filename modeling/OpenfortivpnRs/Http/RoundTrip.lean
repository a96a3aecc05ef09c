import OpenfortivpnRs.Http.Segmentation
import OpenfortivpnRs.Text.Utf8

/-!
# Responses as they are sent

The bytes of a response, and `http_receive` on them: the head is found and parsed however the bytes are
cut into reads (`parseHeaders_headBytes`, `headers_received`), and a response with a `Content-Length`
comes back whole (`reception_round_trip`).
-/

namespace OpenfortivpnRs.Http

open Text

/-! ### The bytes of a response -/

/-- The line of a header. -/
def headerLine : String × String → List Char
  | (name, value) => name.toList ++ ':' :: ' ' :: value.toList

/-- Lines, each closed by `"\r\n"`. -/
def crlfLines (ls : List (List Char)) : List Char := ls.flatMap (· ++ ['\r', '\n'])

/-- A text that comes back from trimming. -/
def Trimmed (s : List Char) : Prop := trimEnd (trimStart s) = s

instance : DecidablePred Trimmed := fun s => inferInstanceAs (Decidable (trimEnd (trimStart s) = s))

/-- A header that can be sent as a line. -/
structure HeaderFits (name value : String) : Prop where
  name_line : '\r' ∉ name.toList
  name_colon : ':' ∉ name.toList
  name_trimmed : Trimmed name.toList
  value_line : '\r' ∉ value.toList
  value_trimmed : Trimmed value.toList

namespace HttpResponse

variable (response : HttpResponse)

def statusLine : List Char :=
  "HTTP/1.1 ".toList ++ ((toString response.statusCode).toList ++ ' ' :: response.reason.toList)

/-- The lines up to the empty one. -/
def headLines : List (List Char) := response.statusLine :: response.headers.map headerLine

/-- The bytes up to the body. -/
def headBytes : List UInt8 :=
  (crlfLines response.headLines ++ ['\r', '\n']).flatMap String.utf8EncodeChar

def bytes : List UInt8 := response.headBytes ++ response.body

/-- A response that can be sent. -/
structure Fits : Prop where
  status : response.statusCode ≤ 2 ^ 16 - 1
  reason : '\r' ∉ response.reason.toList
  headers : ∀ name value, (name, value) ∈ response.headers → HeaderFits name value

end HttpResponse

/-! ### Lines -/

/-- The line in front of a `"\r\n"`. -/
theorem splitLines_cons {line : List Char} (rest : List Char) (h : '\r' ∉ line) :
    splitLines (line ++ '\r' :: '\n' :: rest) = line :: splitLines rest := by
  have hsplit := splitOnce_append ['\n'] rest h
  rw [List.singleton_append] at hsplit
  rw [splitLines]
  split
  · rename_i hnone
    rw [hsplit] at hnone
    cases hnone
  · rename_i hsome
    rw [hsplit] at hsome
    cases hsome
    rfl

theorem splitLines_crlfLines {ls : List (List Char)} (rest : List Char) (h : ∀ l ∈ ls, '\r' ∉ l) :
    splitLines (crlfLines ls ++ rest) = ls ++ splitLines rest := by
  induction ls with
  | nil => rfl
  | cons l ls ih =>
    have hcons : crlfLines (l :: ls) ++ rest = l ++ '\r' :: '\n' :: (crlfLines ls ++ rest) := by
      simp [crlfLines]
    rw [hcons, splitLines_cons _ (h l List.mem_cons_self), ih fun l hl => h l (List.mem_cons_of_mem _ hl),
      List.cons_append]

/-- A line, behind which no empty line comes, is passed. -/
theorem findBytes_line {line rest : List UInt8} (hline : 13 ∉ line) (hrest : rest.head? ≠ some 13) :
    findBytes headersEnd (line ++ 13 :: 10 :: rest) =
      (findBytes headersEnd rest).map (line.length + 2 + ·) := by
  have hhere : ¬ headersEnd <+: 13 :: 10 :: rest := by
    rintro ⟨t, ht⟩
    injection ht with _ ht
    injection ht with _ ht
    rw [← ht] at hrest
    exact hrest rfl
  have hnext : ¬ headersEnd <+: 10 :: rest := fun hp => absurd (List.cons_prefix_cons.mp hp).1 (by decide)
  have hpass : findBytes headersEnd (13 :: 10 :: rest) = (findBytes headersEnd rest).map (2 + ·) := by
    rw [findBytes, if_neg hhere, findBytes, if_neg hnext, Option.map_map]
    congr 1
    funext i
    simp only [Function.comp_apply]
    omega
  rw [headersEnd, findBytes_append _ hline, ← headersEnd, hpass, Option.map_map]
  congr 1
  funext i
  simp only [Function.comp_apply]
  omega

/-- The empty line behind lines that are not empty. -/
theorem findBytes_headersEnd {ls : List (List UInt8)} (more : List UInt8) (hne : ls ≠ [])
    (h : ∀ l ∈ ls, l ≠ [] ∧ 13 ∉ l) :
    ∃ i, findBytes headersEnd (ls.flatMap (· ++ [13, 10]) ++ 13 :: 10 :: more) = some i ∧
      i + 2 = (ls.flatMap (· ++ [13, 10])).length := by
  induction ls with
  | nil => exact absurd rfl hne
  | cons l ls ih =>
    have hl := h l List.mem_cons_self
    have hcons : (l :: ls).flatMap (· ++ [13, 10]) ++ 13 :: 10 :: more =
        l ++ 13 :: 10 :: (ls.flatMap (· ++ [13, 10]) ++ 13 :: 10 :: more) := by
      simp
    rw [hcons, List.flatMap_cons, List.length_append, List.length_append]
    by_cases hls : ls = []
    · -- the empty line is next
      subst hls
      refine ⟨l.length, ?_, rfl⟩
      rw [headersEnd, findBytes_append _ hl.2, ← headersEnd]
      rfl
    · obtain ⟨i, hi, hlen⟩ := ih hls fun l hl => h l (List.mem_cons_of_mem _ hl)
      have hhead : (ls.flatMap (· ++ [13, 10]) ++ 13 :: 10 :: more).head? ≠ some 13 := by
        obtain ⟨l', ls', rfl⟩ := List.exists_cons_of_ne_nil hls
        obtain ⟨hne', hcr⟩ := h l' (by simp)
        obtain ⟨b, bs, rfl⟩ := List.exists_cons_of_ne_nil hne'
        intro hb
        exact hcr (Option.some.inj hb ▸ List.mem_cons_self)
      refine ⟨l.length + 2 + i, ?_, ?_⟩
      · rw [findBytes_line hl.2 hhead, hi]
        rfl
      · simp only [List.length_cons, List.length_nil]
        omega

/-! ### Parsing the head -/

theorem trim_space (s : List Char) : trimEnd (trimStart (' ' :: s)) = trimEnd (trimStart s) := rfl

/-- The lines of headers are parsed up to the empty line. -/
theorem parseHeaderLines_headerLines {headers : List (String × String)} (more : List (List Char))
    (h : ∀ name value, (name, value) ∈ headers → HeaderFits name value) :
    parseHeaderLines (headers.map headerLine ++ [] :: more) = .ok headers := by
  induction headers with
  | nil => rfl
  | cons header headers ih =>
    obtain ⟨name, value⟩ := header
    have hfits := h name value List.mem_cons_self
    have hne : headerLine (name, value) ≠ [] := by simp [headerLine]
    have hsplit : splitOnce [':'] (headerLine (name, value)) = some (name.toList, ' ' :: value.toList) :=
      splitOnce_char _ hfits.name_colon
    rw [List.map_cons, List.cons_append, parseHeaderLines, if_neg hne, hsplit]
    simp only
    rw [ih fun name value hmem => h name value (List.mem_cons_of_mem _ hmem), trim_space, hfits.name_trimmed,
      hfits.value_trimmed, String.ofList_toList, String.ofList_toList]
    rfl

namespace HttpResponse

variable {response : HttpResponse}

/-- The status line is its three parts. -/
theorem splitStatusLine_statusLine :
    splitStatusLine response.statusLine =
      ("HTTP/1.1".toList, some (toString response.statusCode).toList, some response.reason.toList) := by
  have hspace : ' ' ∉ (toString response.statusCode).toList := by
    rw [show (toString response.statusCode).toList = Nat.toDigits 10 response.statusCode from Nat.toList_repr]
    intro hmem
    exact absurd (Nat.isDigit_of_mem_toDigits (by decide) (by decide) hmem) (by decide)
  have hversion : splitOnce [' '] response.statusLine =
      some ("HTTP/1.1".toList, (toString response.statusCode).toList ++ ' ' :: response.reason.toList) :=
    @splitOnce_char ' ' "HTTP/1.1".toList _ (by decide)
  unfold splitStatusLine
  rw [hversion]
  simp only
  rw [splitOnce_char _ hspace]

/-- No line of the head has a carriage return in it, and none is empty. -/
theorem Fits.headLines (h : response.Fits) : ∀ l ∈ response.headLines, l ≠ [] ∧ '\r' ∉ l := by
  intro l hl
  rcases List.mem_cons.mp hl with rfl | hl
  · refine ⟨List.append_ne_nil_of_left_ne_nil (by decide) _, fun hmem => ?_⟩
    unfold statusLine at hmem
    rcases List.mem_append.mp hmem with hversion | hmem
    · revert hversion
      decide
    rcases List.mem_append.mp hmem with hcode | hmem
    · rw [show (toString response.statusCode).toList = Nat.toDigits 10 response.statusCode from
        Nat.toList_repr] at hcode
      exact absurd (Nat.isDigit_of_mem_toDigits (by decide) (by decide) hcode) (by decide)
    · rcases List.mem_cons.mp hmem with hspace | hreason
      · cases hspace
      · exact h.reason hreason
  · obtain ⟨⟨name, value⟩, hheader, rfl⟩ := List.mem_map.mp hl
    have hfits := h.headers name value hheader
    refine ⟨by simp [headerLine], fun hmem => ?_⟩
    simp only [headerLine, List.mem_append, List.mem_cons] at hmem
    rcases hmem with hname | hcolon | hspace | hvalue
    · exact hfits.name_line hname
    · cases hcolon
    · cases hspace
    · exact hfits.value_line hvalue

/-- **The head is parsed as what was sent.** -/
theorem Fits.parseHeaders (h : response.Fits) :
    parseHeaders response.headBytes = .ok (response.statusCode, response.reason, response.headers) := by
  have hlines : splitLines (crlfLines response.headLines ++ ['\r', '\n']) =
      response.headLines ++ [[], []] := by
    rw [splitLines_crlfLines _ fun l hl => (h.headLines l hl).2]
    congr 1
    have hempty : splitLines ['\r', '\n'] = [] :: splitLines [] := @splitLines_cons [] [] (by decide)
    rw [hempty, splitLines]
    rfl
  have hversion : "HTTP/".toList <+: "HTTP/1.1".toList := by decide
  have hstatus := @splitStatusLine_statusLine response
  have hcode := parseUnsigned_toString h.status
  generalize "HTTP/1.1".toList = httpVersion at hstatus hversion
  generalize (toString response.statusCode).toList = code at hstatus hcode
  unfold Http.parseHeaders headBytes
  rw [fromUtf8_encode]
  dsimp only
  rw [hlines, HttpResponse.headLines, List.cons_append]
  dsimp only
  rw [hstatus]
  dsimp only
  rw [if_neg (not_not_intro hversion), hcode, parseHeaderLines_headerLines _ h.headers]
  simp only [Option.getD_some, String.ofList_toList]
  rfl

/-- The head ends where its empty line is first found. -/
theorem Fits.findBytes (h : response.Fits) (body : List UInt8) :
    ∃ i, findBytes headersEnd (response.headBytes ++ body) = some i ∧ i + 4 = response.headBytes.length := by
  have hbytes : response.headBytes = (response.headLines.map (·.flatMap String.utf8EncodeChar)).flatMap
      (· ++ [13, 10]) ++ [13, 10] := by
    unfold headBytes crlfLines
    rw [List.flatMap_append, List.flatMap_assoc, List.flatMap_map]
    simp only [List.flatMap_append]
    rfl
  obtain ⟨i, hi, hlen⟩ := @findBytes_headersEnd (response.headLines.map (·.flatMap String.utf8EncodeChar)) body
    (by simp [HttpResponse.headLines]) fun l hl => by
      obtain ⟨line, hline, rfl⟩ := List.mem_map.mp hl
      obtain ⟨hne, hcr⟩ := h.headLines line hline
      obtain ⟨c, cs, rfl⟩ := List.exists_cons_of_ne_nil hne
      refine ⟨?_, not_mem_encode (c := '\r') (by decide) hcr⟩
      rw [List.flatMap_cons]
      exact List.append_ne_nil_of_left_ne_nil String.utf8EncodeChar_ne_nil _
  refine ⟨i, ?_, ?_⟩
  · rw [hbytes, List.append_assoc]
    exact hi
  · rw [hbytes, List.length_append, ← hlen]
    rfl

end HttpResponse

/-! ### Reading the head -/

section Head

variable {bs : List UInt8} {i : ℕ} {pieces : List (List UInt8)}

/-- The head is read up to the first cut behind it, when no read ends in it behind the greatest size. -/
theorem headers_received (h : findBytes headersEnd bs = some i) (hsplits : Splits bs pieces)
    (hcuts : ∀ n ∈ cuts pieces, maxHeaderSize < n → i + 4 ≤ n) :
    ∃ before after, pieces = before ++ after ∧ i + 4 ≤ before.flatten.length ∧
      (∀ front back, before = front ++ back → back ≠ [] → front.flatten.length < i + 4) ∧
      readUntilHeadersComplete (readerOf pieces) = (.ok (i + 4, before.flatten), readerOf after) := by
  have hle := findBytes_le h
  rw [headersEnd_length] at hle
  rcases readUntil_first (.httpProtocol "connection closed before HTTP headers were complete")
      (Nat.zero_le bs.length) hsplits (fun n hn => headersVerdict_take h hn) with
    ⟨hlt, -⟩ | ⟨before, after, rfl, hreached, -, hfirst, hend⟩
  · omega
  · simp only [Nat.zero_add, List.take_zero] at hreached hfirst hend
    have hin : i + 4 ≤ before.flatten.length := by
      by_contra hnot
      have := hcuts _ (mem_cuts.mpr ⟨before, after, rfl, rfl⟩) (by omega)
      omega
    refine ⟨before, after, rfl, hin, fun front back hsplit hback => ?_, ?_⟩
    · have := hfirst front back hsplit hback
      omega
    · rw [headersVerdict_found h hin] at hend
      rcases hend with ⟨a, hv, hrun⟩ | ⟨err, hv, -⟩
      · cases hv
        rw [hsplits.of_append.1]
        exact hrun
      · cases hv

/-- The head is refused when a read ends in it behind the greatest size. -/
theorem headers_refused (h : findBytes headersEnd bs = some i) (hsplits : Splits bs pieces) {n : ℕ}
    (hn : n ∈ cuts pieces) (hlong : maxHeaderSize < n) (hin : n < i + 4) :
    ∃ err rest, readUntilHeadersComplete (readerOf pieces) = (.error err, rest) := by
  have hle := findBytes_le h
  rw [headersEnd_length] at hle
  rcases readUntil_first (.httpProtocol "connection closed before HTTP headers were complete")
      (Nat.zero_le bs.length) hsplits (fun n hn => headersVerdict_take h hn) with
    ⟨hlt, -⟩ | ⟨before, after, rfl, hreached, -, hfirst, hend⟩
  · omega
  · simp only [Nat.zero_add, List.take_zero] at hreached hfirst hend
    have hstop := le_cut_of_first hfirst hn (by omega)
    have hnone := headersVerdict_not_found
      (findBytes_take_none h (show before.flatten.length < i + headersEnd.length by
        rw [headersEnd_length]
        omega))
    rcases hend with ⟨a, hv, -⟩ | ⟨err, -, hrun⟩
    · exact absurd hv (hnone a)
    · exact ⟨err, _, hrun⟩

/-- What `http_receive` makes of the body once the head is read. -/
theorem httpReceive_of_head {head body : List UInt8} {before after : List (List UInt8)} {statusCode : ℕ}
    {reason : String} {headers : List (String × String)}
    (hparse : parseHeaders head = .ok (statusCode, reason, headers))
    (hsplits : Splits (head ++ body) (before ++ after)) (hin : head.length ≤ before.flatten.length)
    (hrun : readUntilHeadersComplete (readerOf (before ++ after)) =
      (.ok (head.length, before.flatten), readerOf after)) :
    before.flatten.length - head.length ≤ body.length ∧
      Splits (body.drop (before.flatten.length - head.length)) after ∧
      (httpReceive (readerOf (before ++ after))).1 =
        match (receiveBody headers (body.take (before.flatten.length - head.length)) (readerOf after)).1 with
        | .error err => .error err
        | .ok received =>
          if containsPermissionDeniedMarker received then .error .permissionDenied
          else .ok ⟨statusCode, reason, headers, received⟩ := by
  obtain ⟨hbefore, hafter, hle⟩ := hsplits.of_append
  generalize before.flatten.length = stop at hbefore hafter hle hin ⊢
  rw [List.length_append] at hle
  rw [hbefore] at hrun
  have htake : ((head ++ body).take stop).take head.length = head := by
    rw [List.take_take, Nat.min_eq_left hin, List.take_left]
  have hdrop : ((head ++ body).take stop).drop head.length = body.take (stop - head.length) := by
    rw [List.drop_take, List.drop_left]
  rw [List.drop_append, List.drop_eq_nil_of_le hin, List.nil_append] at hafter
  refine ⟨by omega, hafter, ?_⟩
  unfold httpReceive
  simp only [hrun, htake, hparse, hdrop]
  rcases receiveBody headers (body.take (stop - head.length)) (readerOf after) with ⟨err | received, rest⟩
  · rfl
  · simp only
    split <;> rfl

end Head

/-! ### Responses with a length -/

/-- A text of decimal digits for a number. -/
structure Denotes (value : String) (n : ℕ) : Prop where
  digits : value.toList ≠ [] ∧ value.toList.all Char.isDigit
  value : digitsValue value.toList = n

/-- The body holds a denial marker. -/
def Denied (body : List UInt8) : Prop := ∃ marker ∈ permissionDeniedMarkers, marker <:+: body

instance : DecidablePred Denied := fun body =>
  inferInstanceAs (Decidable (∃ marker ∈ permissionDeniedMarkers, marker <:+: body))

theorem denied_iff {body : List UInt8} : Denied body ↔ containsPermissionDeniedMarker body = true := by
  unfold Denied containsPermissionDeniedMarker
  rw [List.any_eq_true]
  refine exists_congr fun marker => and_congr_right fun hmem => ?_
  have hne : marker ≠ [] := by
    rintro rfl
    revert hmem
    decide
  rw [← not_iff_not, ← findBytes_eq_none_iff hne, Bool.not_eq_true, Option.isSome_eq_false_iff,
    Option.isNone_iff_eq_none]

theorem Denotes.parseContentLength {value : String} {n : ℕ} (h : Denotes value n) (htrim : Trimmed value.toList)
    (hn : n ≤ 2 ^ 64 - 1) : parseContentLength value = some n := by
  have hplus : value.toList.head? ≠ some '+' := fun hhead =>
    absurd (List.all_eq_true.mp h.digits.2 _ (List.mem_of_mem_head? hhead)) (by decide)
  unfold Http.parseContentLength parseUnsigned
  rw [htrim]
  simp only [if_neg hplus, h.value]
  rw [if_pos ⟨h.digits.1, h.digits.2, hn⟩]

/-- **A response with a length comes back.**  Whatever the reads it comes in, what is received is the
response that was sent, or permission denied when and only when its body holds a denial marker. -/
theorem reception_round_trip (response : HttpResponse) (hfits : response.Fits)
    (hsize : response.headBytes.length ≤ maxHeaderSize) (name value : String)
    (hlength : (response.headers.filter fun (key, _) =>
      eqIgnoreAsciiCase key.toList "Content-Length".toList) = [(name, value)])
    (hvalue : Denotes value response.body.length) (husize : response.body.length ≤ 2 ^ 64 - 1)
    (pieces : List (List UInt8)) (hsplits : Splits response.bytes pieces) :
    (httpReceive (readerOf pieces)).1 =
      if Denied response.body then .error .permissionDenied else .ok response := by
  obtain ⟨i, hi, hend⟩ := hfits.findBytes response.body
  obtain ⟨before, after, rfl, hin, -, hrun⟩ := headers_received hi hsplits fun n _ hlong => by omega
  rw [hend] at hin hrun
  obtain ⟨hstart, hafter, hreceive⟩ := httpReceive_of_head hfits.parseHeaders hsplits hin hrun
  have hmem : (name, value) ∈ response.headers :=
    List.mem_of_mem_filter (hlength ▸ List.mem_singleton_self (name, value))
  have hheader : headerValue response.headers "Content-Length" = some value := by
    unfold headerValue
    rw [← List.head?_filter, hlength]
    rfl
  have hparse := hvalue.parseContentLength (hfits.headers name value hmem).value_trimmed husize
  rw [hreceive, receiveBody_length hheader hparse hstart hafter, if_neg (lt_irrefl _), List.take_length]
  simp only [denied_iff]

/-- A response with a header without value and one in lowercase. -/
def notFoundResponse : HttpResponse :=
  ⟨404, "Not Found", [("content-length", "05"), ("Set-Cookie", "")], asBytes "hello"⟩

/-- It comes in two reads, the first of which ends inside the empty line. -/
theorem reception_round_trip_example :
    (httpReceive (readerOf [notFoundResponse.bytes.take 59, notFoundResponse.bytes.drop 59])).1 =
      .ok notFoundResponse := by
  have hfits : notFoundResponse.Fits := by
    refine ⟨by decide, by decide, fun name value hmem => ?_⟩
    simp only [notFoundResponse, List.mem_cons, Prod.mk.injEq, List.not_mem_nil, or_false] at hmem
    rcases hmem with ⟨rfl, rfl⟩ | ⟨rfl, rfl⟩ <;>
      exact ⟨by decide, by decide, by decide, by decide, by decide⟩
  exact reception_round_trip notFoundResponse hfits (by decide +kernel) "content-length" "05" (by decide)
    ⟨by decide, by decide⟩ (by decide) _ ⟨by decide +kernel, by decide +kernel⟩

end OpenfortivpnRs.Http
