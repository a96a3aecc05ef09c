import OpenfortivpnRs.Http.RoundTrip

/-!
# Chunked bodies

`http_receive` looks for `"\r\n0\r\n"` and does not follow the sizes of the chunks.  So a chunked body is
read to its real end just when it has a chunk, no data looks like the end, and the last bytes come
together (`chunked_received_iff`).
-/

namespace OpenfortivpnRs.Http

/-! ### The bytes of a chunked body -/

/-- The value of a hexadecimal digit. -/
def hexDigit (b : UInt8) : Option ℕ :=
  if 48 ≤ b ∧ b ≤ 57 then some (b.toNat - 48)
  else if 65 ≤ b ∧ b ≤ 70 then some (b.toNat - 55)
  else if 97 ≤ b ∧ b ≤ 102 then some (b.toNat - 87)
  else none

/-- The value of hexadecimal digits. -/
def hexValue (digits : List UInt8) : Option ℕ :=
  digits.foldlM (fun n b => (hexDigit b).map (16 * n + ·)) 0

/-- A chunk that is not the last: its size in hexadecimal digits and its data. -/
structure Chunk where
  size : List UInt8
  data : List UInt8
  data_ne : data ≠ []
  size_eq : hexValue size = some data.length

namespace Chunk

variable (chunk : Chunk)

/-- The data of a chunk between the two line ends around it. -/
def framed : List UInt8 := 13 :: 10 :: (chunk.data ++ [13, 10])

def bytes : List UInt8 := chunk.size ++ chunk.framed

theorem size_line : 13 ∉ chunk.size := by
  have hfold : ∀ (digits : List UInt8) (n : ℕ), 13 ∈ digits →
      digits.foldlM (fun n b => (hexDigit b).map (16 * n + ·)) n = none := by
    intro digits
    induction digits with
    | nil =>
      intro n hmem
      cases hmem
    | cons b digits ih =>
      intro n hmem
      rw [List.foldlM_cons]
      rcases List.mem_cons.mp hmem with rfl | hmem
      · rfl
      · rcases (hexDigit b).map (16 * n + ·) with _ | m
        · rfl
        · exact ih m hmem
  intro hmem
  have := chunk.size_eq
  rw [hexValue, hfold _ _ hmem] at this
  cases this

/-- The size of a chunk with data is not zero. -/
theorem size_ne_zero : chunk.size ≠ [48] := by
  intro hzero
  have hvalue := chunk.size_eq
  rw [hzero, show hexValue [48] = some 0 from rfl, Option.some.injEq] at hvalue
  exact chunk.data_ne (List.length_eq_zero_iff.mp hvalue.symm)

end Chunk

/-- The chunks and the last one, which has no data. -/
def chunkedBody (chunks : List Chunk) : List UInt8 := chunks.flatMap Chunk.bytes ++ [48, 13, 10, 13, 10]

theorem chunkedBody_cons (chunk : Chunk) (chunks : List Chunk) :
    chunkedBody (chunk :: chunks) = chunk.size ++ (chunk.framed ++ chunkedBody chunks) := by
  simp [chunkedBody, Chunk.bytes]

theorem chunkedBody_length (chunks : List Chunk) : 5 ≤ (chunkedBody chunks).length := by
  rw [chunkedBody, List.length_append]
  exact Nat.le_add_left 5 _

/-! ### Where the search ends -/

/-- What starts in data does not reach behind the line end after it. -/
theorem lastChunk_inside {back rest : List UInt8} (hback : back ≠ [])
    (h : lastChunk <+: back ++ 13 :: 10 :: rest) : lastChunk <+: back ++ [13, 10] := by
  have hthree : 3 ≤ back.length := by
    rcases back with _ | ⟨a, _ | ⟨b, _ | ⟨c, back⟩⟩⟩
    · exact absurd rfl hback
    · -- the second byte would be a carriage return
      simp [lastChunk] at h
    · simp [lastChunk] at h
    · simp
  have hsplit : back ++ 13 :: 10 :: rest = back ++ [13, 10] ++ rest := by simp
  rw [hsplit] at h
  refine List.prefix_of_prefix_length_le h (List.prefix_append _ rest) ?_
  rw [lastChunk_length, List.length_append]
  exact Nat.add_le_add_right hthree 2

/-- The line end of a chunk is taken for the front of the last chunk when and only when that comes next. -/
theorem findBytes_line_end (rest : List UInt8) :
    findBytes lastChunk (13 :: 10 :: rest) =
      if [48, 13, 10] <+: rest then some 0 else (findBytes lastChunk rest).map (2 + ·) := by
  have hhere : lastChunk <+: 13 :: 10 :: rest ↔ [48, 13, 10] <+: rest := by
    simp [lastChunk]
  have hnext : ¬ lastChunk <+: 10 :: rest := fun hp => absurd (List.cons_prefix_cons.mp hp).1 (by decide)
  rw [findBytes, findBytes, if_neg hnext, Option.map_map]
  simp only [hhere]
  congr 2
  funext i
  simp only [Function.comp_apply]
  omega

/-- A chunk without the mark in its data is passed up to its line end. -/
theorem findBytes_framed {chunk : Chunk} (rest : List UInt8) (h : ¬ lastChunk <:+: chunk.framed) :
    findBytes lastChunk (chunk.framed ++ rest) =
      (findBytes lastChunk (13 :: 10 :: rest)).map (chunk.data.length + 2 + ·) := by
  have hframed : chunk.framed ++ rest = (13 :: 10 :: chunk.data) ++ 13 :: 10 :: rest := by
    simp [Chunk.framed]
  rw [hframed, findBytes_skip]
  · rfl
  · intro front back hsplit hback hp
    refine h ?_
    have hcut : chunk.framed = front ++ (back ++ [13, 10]) := by
      rw [Chunk.framed, ← List.append_assoc, ← hsplit]
      rfl
    rw [hcut]
    exact (lastChunk_inside hback hp).isInfix.trans (List.suffix_append front _).isInfix

/-- The last chunk comes next when and only when there is no other. -/
theorem lastChunk_next {chunks : List Chunk} : [48, 13, 10] <+: chunkedBody chunks ↔ chunks = [] := by
  constructor
  · intro hp
    rcases chunks with _ | ⟨chunk, chunks⟩
    · rfl
    · exfalso
      rw [chunkedBody_cons] at hp
      have hline := chunk.size_line
      have hzero := chunk.size_ne_zero
      rcases hsize : chunk.size with _ | ⟨a, _ | ⟨b, size⟩⟩
      · simp [hsize, Chunk.framed] at hp
      · simp only [hsize, List.singleton_append, List.cons_prefix_cons] at hp hzero
        exact hzero (by rw [← hp.1])
      · simp only [hsize, List.cons_append, List.cons_prefix_cons] at hp hline
        exact hline (by rw [← hp.2.1]; simp)
  · rintro rfl
    decide

/-- **The end that is found.**  With a chunk, and no mark in the data of any, the search ends at the real end. -/
theorem findBytes_chunkedBody {chunks : List Chunk} (hne : chunks ≠ [])
    (h : ∀ chunk ∈ chunks, ¬ lastChunk <:+: chunk.framed) :
    ∃ marker, findBytes lastChunk (chunkedBody chunks) = some marker ∧
      marker + 7 = (chunkedBody chunks).length := by
  induction chunks with
  | nil => exact absurd rfl hne
  | cons chunk chunks ih =>
    have hframed := findBytes_framed (chunkedBody chunks) (h chunk List.mem_cons_self)
    rw [findBytes_line_end] at hframed
    rw [chunkedBody_cons, lastChunk, findBytes_append _ chunk.size_line, ← lastChunk, hframed]
    by_cases hlast : chunks = []
    · subst hlast
      refine ⟨chunk.size.length + (chunk.data.length + 2 + 0), by rw [if_pos (lastChunk_next.mpr rfl)]; rfl, ?_⟩
      simp [chunkedBody, Chunk.framed]
      omega
    · obtain ⟨marker, hfind, hlength⟩ := ih hlast fun c hc => h c (List.mem_cons_of_mem _ hc)
      refine ⟨chunk.size.length + (chunk.data.length + 2 + (2 + marker)), ?_, ?_⟩
      · rw [if_neg (lastChunk_next.not.mpr hlast), hfind]
        rfl
      · rw [List.length_append, List.length_append, ← hlength]
        simp [Chunk.framed]
        omega

/-- A mark in the data of a chunk is taken for the end. -/
theorem findBytes_marked {chunks : List Chunk} {chunk : Chunk} (hmem : chunk ∈ chunks)
    (h : lastChunk <:+: chunk.framed) :
    ∃ marker, findBytes lastChunk (chunkedBody chunks) = some marker ∧
      marker + 7 < (chunkedBody chunks).length := by
  obtain ⟨front, back, rfl⟩ := List.append_of_mem hmem
  obtain ⟨x, y, hxy⟩ := h
  obtain ⟨before, hbody⟩ : ∃ before, chunkedBody (front ++ chunk :: back) =
      before ++ (lastChunk ++ (y ++ chunkedBody back)) :=
    ⟨front.flatMap Chunk.bytes ++ chunk.size ++ x, by simp [chunkedBody, Chunk.bytes, ← hxy]⟩
  obtain ⟨marker, hfind, hle⟩ := @findBytes_needle lastChunk before (y ++ chunkedBody back) (by decide)
  have hlast := chunkedBody_length back
  refine ⟨marker, by rw [hbody, hfind], ?_⟩
  rw [hbody, List.length_append, List.length_append, List.length_append, lastChunk_length]
  omega

/-! ### Chunked responses -/

/-- The conditions on which a chunked response is read to its real end: it has a chunk, the last-chunk mark
is in the data of none, and no read ends in the head behind the greatest size or inside the last line end. -/
structure ReadToTheEnd (headSize : ℕ) (chunks : List Chunk) (pieces : List (List UInt8)) : Prop where
  chunk : chunks ≠ []
  unmarked : ∀ chunk ∈ chunks, ¬ lastChunk <:+: chunk.framed
  head : ∀ n ∈ cuts pieces, maxHeaderSize < n → headSize ≤ n
  last_line : ∀ n ∈ cuts pieces, n + 1 ≠ headSize + (chunkedBody chunks).length ∧
    n + 2 ≠ headSize + (chunkedBody chunks).length

section Body

variable {headers : List (String × String)} {chunks : List Chunk} {start : ℕ} {pieces : List (List UInt8)}

/-- A body whose end is where it seems to be is received whole when no read ends inside its last line end. -/
theorem receiveBody_whole_iff {body : List UInt8} {marker : ℕ}
    (hl : headerValue headers "Content-Length" = none) (hc : isChunked headers = true)
    (hfind : findBytes lastChunk body = some marker) (hmarker : marker + 7 = body.length)
    (hend : body.drop (marker + 5) = [13, 10]) (hstart : start ≤ body.length)
    (hsplits : Splits (body.drop start) pieces) :
    (receiveBody headers (body.take start) (readerOf pieces)).1 = .ok body ↔
      ∀ n ∈ cuts pieces, start + n + 1 ≠ body.length ∧ start + n + 2 ≠ body.length := by
  have hrun := receiveBody_chunked hl hc hstart hsplits
  rw [hfind] at hrun
  obtain ⟨n, hn, hreached, hle, hleast, hreceived⟩ := hrun
  rw [hreceived, Except.ok.injEq, List.take_eq_self_iff]
  constructor
  · intro hall m hm
    have hwhole : start + n = body.length := by
      split at hall
      · rename_i hempty
        have := (empty_line_take.mp hempty).1
        omega
      · omega
    refine ⟨fun hcut => ?_, fun hcut => ?_⟩ <;>
    · have := hleast m hm (by omega)
      omega
  · intro hcuts
    have hwhole : start + n = body.length := by
      have := hcuts n hn
      omega
    have htwo : ([13, 10] : List UInt8).take 2 = [13, 10] := rfl
    rw [hwhole, List.take_length, hend, if_pos htwo]
    exact hmarker.ge

/-- **When a chunked body is received whole.** -/
theorem receiveBody_chunkedBody_iff (hl : headerValue headers "Content-Length" = none)
    (hc : isChunked headers = true) (hstart : start ≤ (chunkedBody chunks).length)
    (hsplits : Splits ((chunkedBody chunks).drop start) pieces) :
    (receiveBody headers ((chunkedBody chunks).take start) (readerOf pieces)).1 = .ok (chunkedBody chunks) ↔
      chunks ≠ [] ∧ (∀ chunk ∈ chunks, ¬ lastChunk <:+: chunk.framed) ∧
        ∀ n ∈ cuts pieces, start + n + 1 ≠ (chunkedBody chunks).length ∧
          start + n + 2 ≠ (chunkedBody chunks).length := by
  have hrun := receiveBody_chunked hl hc hstart hsplits
  by_cases hne : chunks = []
  · -- nothing is found
    subst hne
    rw [show findBytes lastChunk (chunkedBody []) = none by decide] at hrun
    simp only at hrun
    rw [hrun]
    simp
  by_cases hmarked : ∃ chunk ∈ chunks, lastChunk <:+: chunk.framed
  · -- the search ends too early
    obtain ⟨chunk, hmem, hmark⟩ := hmarked
    obtain ⟨marker, hfind, hshort⟩ := findBytes_marked hmem hmark
    rw [hfind] at hrun
    obtain ⟨n, -, -, -, -, hreceived⟩ := hrun
    rw [hreceived, Except.ok.injEq, List.take_eq_self_iff]
    refine iff_of_false (fun hall => ?_) fun hall => hall.2.1 chunk hmem hmark
    split at hall <;> omega
  · push Not at hmarked
    obtain ⟨marker, hfind, hmarker⟩ := findBytes_chunkedBody hne hmarked
    have hend : (chunkedBody chunks).drop (marker + 5) = [13, 10] := by
      obtain ⟨front, hfront⟩ : ∃ front, chunkedBody chunks = front ++ [13, 10] :=
        ⟨chunks.flatMap Chunk.bytes ++ [48, 13, 10], by simp [chunkedBody]⟩
      have hlen : front.length = marker + 5 := by
        rw [hfront, List.length_append, List.length_cons, List.length_singleton] at hmarker
        omega
      rw [hfront]
      exact List.drop_left' hlen
    rw [receiveBody_whole_iff hl hc hfind hmarker hend hstart hsplits]
    exact ⟨fun hcuts => ⟨hne, hmarked, hcuts⟩, fun hall => hall.2.2⟩

end Body

/-- **Chunked responses and their real end.**  A chunked response whose body holds no denial marker is
received whole if and only if the search for its end and the reads it comes in allow it. -/
theorem chunked_received_iff (response : HttpResponse) (hfits : response.Fits)
    (hlength : headerValue response.headers "Content-Length" = none)
    (hchunked : isChunked response.headers = true) (chunks : List Chunk)
    (hbody : response.body = chunkedBody chunks) (hdenied : ¬ Denied response.body)
    (pieces : List (List UInt8)) (hsplits : Splits response.bytes pieces) :
    (httpReceive (readerOf pieces)).1 = .ok response ↔
      ReadToTheEnd response.headBytes.length chunks pieces := by
  obtain ⟨i, hi, hend⟩ := hfits.findBytes response.body
  by_cases hhead : ∀ n ∈ cuts pieces, maxHeaderSize < n → response.headBytes.length ≤ n
  · obtain ⟨before, after, rfl, hin, hfirst, hrun⟩ := headers_received hi hsplits fun n hn hlong => by
      rw [hend]
      exact hhead n hn hlong
    rw [hend] at hin hfirst hrun
    obtain ⟨hstart, hafter, hreceive⟩ := httpReceive_of_head hfits.parseHeaders hsplits hin hrun
    have hreceived : (httpReceive (readerOf (before ++ after))).1 = .ok response ↔
        (receiveBody response.headers
          (response.body.take (before.flatten.length - response.headBytes.length)) (readerOf after)).1 =
          .ok response.body := by
      rw [hreceive]
      rcases (receiveBody response.headers (response.body.take
        (before.flatten.length - response.headBytes.length)) (readerOf after)).1 with err | received
      · simp
      · constructor
        · intro hall
          simp only at hall
          split at hall
          · cases hall
          · exact congrArg Except.ok (congrArg HttpResponse.body (Except.ok.inj hall))
        · intro hall
          rw [Except.ok.inj hall]
          simp only
          rw [if_neg (denied_iff.not.mp hdenied)]
    rw [hreceived, hbody, receiveBody_chunkedBody_iff hlength hchunked (hbody ▸ hstart) (hbody ▸ hafter)]
    constructor
    · rintro ⟨hne, hunmarked, hcuts⟩
      refine ⟨hne, hunmarked, hhead, fun n hn => ?_⟩
      have hlast := chunkedBody_length chunks
      by_cases hcut : response.headBytes.length ≤ n
      · have hstop := le_cut_of_first hfirst hn hcut
        have := hcuts _ ((mem_cuts_append hstop).mp hn)
        omega
      · omega
    · rintro ⟨hne, hunmarked, -, hcuts⟩
      refine ⟨hne, hunmarked, fun n hn => ?_⟩
      have := hcuts (before.flatten.length + n)
        ((mem_cuts_append (Nat.le_add_right _ _)).mpr (by rwa [Nat.add_sub_cancel_left]))
      omega
  · push Not at hhead
    obtain ⟨n, hn, hlong, hshort⟩ := hhead
    obtain ⟨err, rest, hrun⟩ := headers_refused hi hsplits hn hlong (by rw [hend]; exact hshort)
    refine iff_of_false ?_ fun hread => ?_
    · unfold httpReceive
      rw [hrun]
      intro heq
      cases heq
    · have := hread.head n hn hlong
      omega

/-- The chunked response of a body. -/
def chunkedResponse (body : List UInt8) : HttpResponse :=
  ⟨200, "OK", [("transfer-encoding", "gzip, Chunked")], body⟩

theorem chunkedResponse_fits (body : List UInt8) : (chunkedResponse body).Fits := by
  have hreason : '\r' ∉ "OK".toList := by decide
  refine ⟨show 200 ≤ 2 ^ 16 - 1 by decide, hreason, fun name value hmem => ?_⟩
  simp only [chunkedResponse, List.mem_singleton, Prod.mk.injEq] at hmem
  obtain ⟨rfl, rfl⟩ := hmem
  exact ⟨by decide, by decide, by decide, by decide, by decide⟩

/-- `"hello"`. -/
def helloChunk : Chunk := ⟨[48, 53], [104, 101, 108, 108, 111], by decide, by decide⟩

/-- `"0"`. -/
def zeroChunk : Chunk := ⟨[49], [48], by decide, by decide⟩

/-- A body with one chunk whose last read begins with the last chunk. -/
theorem chunked_received_example :
    (httpReceive (readerOf [(chunkedResponse (chunkedBody [helloChunk])).bytes.take 64,
      (chunkedResponse (chunkedBody [helloChunk])).bytes.drop 64])).1 =
      .ok (chunkedResponse (chunkedBody [helloChunk])) :=
  (chunked_received_iff _ (chunkedResponse_fits _) (by decide) (by decide) [helloChunk] rfl (by decide +kernel) _
    ⟨by decide +kernel, by decide +kernel⟩).mpr
    ⟨by decide, by decide +kernel, by decide +kernel, by decide +kernel⟩

/-- Data of one zero ends the body before it has begun. -/
theorem chunked_cut_short :
    ¬ ∀ (response : HttpResponse) (chunks : List Chunk) (pieces : List (List UInt8)), response.Fits →
      headerValue response.headers "Content-Length" = none → isChunked response.headers = true →
      response.body = chunkedBody chunks → ¬ Denied response.body → Splits response.bytes pieces →
      (httpReceive (readerOf pieces)).1 = .ok response := by
  intro hclaim
  have hall := hclaim (chunkedResponse (chunkedBody [zeroChunk])) [zeroChunk]
    [(chunkedResponse (chunkedBody [zeroChunk])).bytes] (chunkedResponse_fits _) (by decide) (by decide) rfl
    (by decide +kernel) ⟨by decide +kernel, by decide +kernel⟩
  have hbody : (outcome [(chunkedResponse (chunkedBody [zeroChunk])).bytes]).map HttpResponse.body =
      some (Text.asBytes "1\r\n0\r\n") := by
    decide +kernel
  rw [outcome, hall] at hbody
  revert hbody
  decide +kernel

end OpenfortivpnRs.Http
