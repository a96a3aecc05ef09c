import OpenfortivpnRs.Http.Splitting

/-!
# Reception and segmentation

Whether `http_receive` returns the same for every way a stream is cut into reads.  What it decides
from what happens to be buffered is a body without a length, whether an empty line ends the chunks,
and whether the headers are too long.
-/

namespace OpenfortivpnRs.Http

/-! ### What the verdicts depend on -/

section Verdict

variable {bs : List UInt8} {i n : ℕ}

theorem headersVerdict_take (h : findBytes headersEnd bs = some i) (hn : n ≤ bs.length) :
    headersVerdict (bs.take n) = none ↔ n < min (i + 4) (maxHeaderSize + 1) := by
  unfold headersVerdict
  by_cases hin : i + 4 ≤ n
  · rw [findBytes_take (by decide) h hin]
    simp only [reduceCtorEq, false_iff]
    omega
  · rw [findBytes_take_none h (by rw [headersEnd_length]; omega)]
    simp only [List.length_take, Nat.min_eq_left hn]
    split <;> simp only [reduceCtorEq, false_iff, true_iff] <;> omega

theorem headersVerdict_found (h : findBytes headersEnd bs = some i) (hin : i + 4 ≤ n) :
    headersVerdict (bs.take n) = some (.ok (i + 4)) := by
  unfold headersVerdict
  rw [findBytes_take (by decide) h hin]

theorem headersVerdict_not_found (h : findBytes headersEnd (bs.take n) = none) (a : ℕ) :
    headersVerdict (bs.take n) ≠ some (.ok a) := by
  unfold headersVerdict
  rw [h]
  simp only
  split <;> intro h' <;> cases h'

theorem lengthVerdict_take {expected : ℕ} (hn : n ≤ bs.length) :
    lengthVerdict expected (bs.take n) = none ↔ n < expected := by
  unfold lengthVerdict
  rw [List.length_take, Nat.min_eq_left hn]
  split <;> simp_all

theorem chunkedVerdict_take (h : findBytes lastChunk bs = some i) :
    chunkedVerdict (bs.take n) = none ↔ n < i + 5 := by
  unfold chunkedVerdict chunkedBodyEnd
  by_cases hin : i + 5 ≤ n
  · rw [findBytes_take (by decide) h hin]
    simp only [Option.map_some, Option.isNone_some, Bool.false_eq_true, if_false, reduceCtorEq,
      false_iff]
    omega
  · rw [findBytes_take_none h (by rw [lastChunk_length]; omega)]
    simp only [Option.map_none, Option.isNone_none, if_true, true_iff]
    omega

theorem chunkedVerdict_endless (h : findBytes lastChunk bs = none) :
    chunkedVerdict (bs.take n) = none := by
  unfold chunkedVerdict chunkedBodyEnd
  rcases hfind : findBytes lastChunk (bs.take n) with _ | j
  · rfl
  · rw [(findBytes_of_take hfind).1] at h
    cases h

theorem chunkedBodyEnd_take (h : findBytes lastChunk bs = some i) (hin : i + 5 ≤ n) :
    chunkedBodyEnd (bs.take n) =
      some (if ((bs.take n).drop (i + 5)).take 2 = [13, 10] then i + 7 else i + 5) := by
  unfold chunkedBodyEnd
  rw [findBytes_take (by decide) h hin]
  rfl

/-- An empty line is in a first part when it ends there. -/
theorem empty_line_take {k : ℕ} :
    ((bs.take n).drop k).take 2 = [13, 10] ↔ k + 2 ≤ n ∧ (bs.drop k).take 2 = [13, 10] := by
  rw [List.drop_take, List.take_take]
  refine ⟨fun h => ?_, fun ⟨hle, h⟩ => ?_⟩
  · have hlength := congrArg List.length h
    rw [List.length_take, List.length_drop] at hlength
    have hle : k + 2 ≤ n := by
      rw [List.length_cons, List.length_singleton] at hlength
      omega
    rw [Nat.min_eq_left (by omega)] at h
    exact ⟨hle, h⟩
  · rwa [Nat.min_eq_left (by omega)]

end Verdict

/-! ### The body -/

/-- The body is refused however it is split. -/
def Rejected (headers : List (String × String)) (body : List UInt8) : Prop :=
  match headerValue headers "Content-Length" with
  | some contentLength =>
    match parseContentLength contentLength with
    | none => True
    | some expected =>
      body.length < expected ∨ containsPermissionDeniedMarker (body.take expected) = true
  | none =>
    isChunked headers = true ∧
      match findBytes lastChunk body with
      | none => True
      | some marker =>
        containsPermissionDeniedMarker (body.take (marker + lastChunk.length)) = true

/-- The end of the body does not depend on what is buffered: it has a length, or no empty line follows
its last chunk, or there is none. -/
def Determined (headers : List (String × String)) (body : List UInt8) : Prop :=
  match headerValue headers "Content-Length" with
  | some _ => True
  | none =>
    if isChunked headers then
      ∀ marker, findBytes lastChunk body = some marker →
        (body.drop (marker + lastChunk.length)).take 2 ≠ [13, 10]
    else body = []

/-- The body `http_receive` returns when `start` bytes are buffered and the others come in `pieces`. -/
def bodyOutcome (headers : List (String × String)) (body : List UInt8) (start : ℕ)
    (pieces : List (List UInt8)) : Option (List UInt8) :=
  match (receiveBody headers (body.take start) (readerOf pieces)).1 with
  | .ok received => if containsPermissionDeniedMarker received then none else some received
  | .error _ => none

section Body

variable {headers : List (String × String)} {body : List UInt8}

/-- What a longer first part is refused for. -/
theorem denied_mono {m n : ℕ} (hmn : m ≤ n)
    (h : containsPermissionDeniedMarker (body.take m) = true) :
    containsPermissionDeniedMarker (body.take n) = true := by
  unfold containsPermissionDeniedMarker at h ⊢
  rw [List.any_eq_true] at h ⊢
  obtain ⟨marker, hmem, hfind⟩ := h
  refine ⟨marker, hmem, findBytes_isSome_mono ?_ hmn hfind⟩
  rintro rfl
  revert hmem
  decide

/-- A body with a length ends there, however it is split. -/
theorem receiveBody_length {start expected : ℕ} {pieces : List (List UInt8)} {contentLength : String}
    (hl : headerValue headers "Content-Length" = some contentLength)
    (hn : parseContentLength contentLength = some expected) (hstart : start ≤ body.length)
    (hsplits : Splits (body.drop start) pieces) :
    (receiveBody headers (body.take start) (readerOf pieces)).1 =
      if body.length < expected then
        .error (.httpProtocol "connection closed before full HTTP body was received")
      else .ok (body.take expected) := by
  unfold receiveBody
  simp only [hl, hn]
  rcases readUntil_threshold
      (.httpProtocol "connection closed before full HTTP body was received") hstart hsplits
      (fun n hn => @lengthVerdict_take body n expected hn) with
    ⟨hlt, hrun⟩ | ⟨stop, after, -, hle, hstop, -, -, ⟨⟨⟩, -, hrun⟩ | ⟨err, hv, -⟩⟩
  · rw [hrun, if_pos hlt]
  · rw [hrun, if_neg (by omega)]
    simp only [List.take_take, Nat.min_eq_left hle]
  · unfold lengthVerdict at hv
    split at hv <;> cases hv

/-- A chunked body ends at its last chunk or behind the empty line after it, of which is there what the
first read from the last chunk on brings. -/
theorem receiveBody_chunked {start : ℕ} {pieces : List (List UInt8)}
    (hl : headerValue headers "Content-Length" = none) (hc : isChunked headers = true)
    (hstart : start ≤ body.length) (hsplits : Splits (body.drop start) pieces) :
    match findBytes lastChunk body with
    | none => (receiveBody headers (body.take start) (readerOf pieces)).1 =
        .error (.httpProtocol "connection closed before chunked HTTP body ended")
    | some marker => ∃ n ∈ cuts pieces, marker + 5 ≤ start + n ∧ start + n ≤ body.length ∧
        (∀ m ∈ cuts pieces, marker + 5 ≤ start + m → n ≤ m) ∧
        (receiveBody headers (body.take start) (readerOf pieces)).1 =
          .ok (body.take (if ((body.take (start + n)).drop (marker + 5)).take 2 = [13, 10] then marker + 7
            else marker + 5)) := by
  unfold receiveBody
  simp only [hl, hc, if_true]
  rcases hfind : findBytes lastChunk body with _ | marker
  · rcases readUntil_first (.httpProtocol "connection closed before chunked HTTP body ended") hstart hsplits
        (fun n hn => (iff_true_left (chunkedVerdict_endless hfind)).mpr (Nat.lt_succ_of_le hn)) with
      ⟨-, hrun⟩ | ⟨before, after, -, hle, hstop, -⟩
    · simp only [hrun]
    · omega
  · rcases readUntil_first
        (.httpProtocol "connection closed before chunked HTTP body ended") hstart hsplits
        (fun n _ => chunkedVerdict_take hfind) with
      ⟨hlt, -⟩ | ⟨before, after, rfl, hle, hstop, hfirst, ⟨⟨⟩, -, hrun⟩ | ⟨err, hv, -⟩⟩
    · have := findBytes_le hfind
      rw [lastChunk_length] at this
      omega
    · refine ⟨before.flatten.length, mem_cuts.mpr ⟨before, after, rfl, rfl⟩, hle, hstop, fun m hm hlimit => ?_, ?_⟩
      · have hless : ∀ front back, before = front ++ back → back ≠ [] →
            front.flatten.length < marker + 5 - start := by
          intro front back hsplit hback
          have := hfirst front back hsplit hback
          omega
        exact le_cut_of_first hless hm (by omega)
      simp only [hrun, chunkedBodyEnd_take hfind hle, List.take_take]
      rw [Nat.min_eq_left]
      split
      · rename_i hempty
        exact (empty_line_take.mp hempty).1
      · exact hle
    · unfold chunkedVerdict at hv
      split at hv <;> cases hv

/-- A rejected body is refused however it is split. -/
theorem bodyOutcome_rejected (hr : Rejected headers body) {start : ℕ} {pieces : List (List UInt8)}
    (hstart : start ≤ body.length) (hsplits : Splits (body.drop start) pieces) :
    bodyOutcome headers body start pieces = none := by
  unfold Rejected at hr
  unfold bodyOutcome
  rcases hl : headerValue headers "Content-Length" with _ | contentLength
  · rw [hl] at hr
    obtain ⟨hc, hr⟩ := hr
    have hrun := receiveBody_chunked hl hc hstart hsplits
    rcases hfind : findBytes lastChunk body with _ | marker
    · simp only [hfind] at hrun
      rw [hrun]
    · simp only [hfind] at hrun hr
      obtain ⟨n, -, -, -, -, hrun⟩ := hrun
      rw [lastChunk_length] at hr
      rw [hrun]
      simp only
      rw [if_pos]
      split
      · exact denied_mono (by omega) hr
      · exact hr
  · simp only [hl] at hr
    rcases hn : parseContentLength contentLength with _ | expected
    · unfold receiveBody
      simp only [hl, hn]
    · rw [receiveBody_length hl hn hstart hsplits]
      simp only [hn] at hr
      by_cases hlt : body.length < expected
      · rw [if_pos hlt]
      · rw [if_neg hlt]
        simp only
        rw [if_pos (hr.resolve_left hlt)]

/-- A body whose end is determined is received the same however it is split. -/
theorem bodyOutcome_determined (hd : Determined headers body) (hr : ¬ Rejected headers body) :
    ∃ received, ∀ start pieces, start ≤ body.length → Splits (body.drop start) pieces →
      bodyOutcome headers body start pieces = some received := by
  unfold Determined at hd
  unfold Rejected at hr
  unfold bodyOutcome
  rcases hl : headerValue headers "Content-Length" with _ | contentLength
  · simp only [hl] at hd hr
    by_cases hc : isChunked headers = true
    · rw [if_pos hc] at hd
      rcases hfind : findBytes lastChunk body with _ | marker
      · simp [hfind, hc] at hr
      · simp only [hfind, hc, true_and] at hr
        refine ⟨body.take (marker + 5), fun start pieces hstart hsplits => ?_⟩
        have hrun := receiveBody_chunked hl hc hstart hsplits
        simp only [hfind] at hrun
        obtain ⟨n, -, hle, -, -, hrun⟩ := hrun
        rw [lastChunk_length] at hr
        have hempty : ¬ ((body.take (start + n)).drop (marker + 5)).take 2 = [13, 10] :=
          fun hempty => hd marker hfind (empty_line_take.mp hempty).2
        rw [hrun, if_neg hempty]
        simp only
        rw [if_neg hr]
    · rw [if_neg hc] at hd
      subst hd
      refine ⟨[], fun start pieces _ _ => ?_⟩
      unfold receiveBody
      simp only [hl, if_neg hc, List.take_nil]
      rfl
  · simp only [hl] at hr
    rcases hn : parseContentLength contentLength with _ | expected
    · simp [hn] at hr
    · simp only [hn, not_or] at hr
      refine ⟨body.take expected, fun start pieces hstart hsplits => ?_⟩
      rw [receiveBody_length hl hn hstart hsplits, if_neg hr.1]
      simp only
      rw [if_neg hr.2]

/-- A chunked body that is read in one piece from before the end of its last chunk on. -/
theorem bodyOutcome_cutAt {marker hi : ℕ} (hl : headerValue headers "Content-Length" = none)
    (hc : isChunked headers = true) (hfind : findBytes lastChunk body = some marker)
    (hlo : marker + 5 ≤ hi) (hhi : hi ≤ body.length) (hsize : hi ≤ marker + 4 + readChunkSize) :
    bodyOutcome headers body 0 (cutAt (marker + 4) hi body) =
      let received := body.take (if ((body.take hi).drop (marker + 5)).take 2 = [13, 10] then marker + 7
        else marker + 5)
      if containsPermissionDeniedMarker received then none else some received := by
  have hrun := @readUntil_cutAt body _ _ _ chunkedVerdict
    (.httpProtocol "connection closed before chunked HTTP body ended") []
    (show marker + 4 < hi by omega) hhi hsize
    fun n hn => (chunkedVerdict_take hfind).mpr (by omega)
  rw [List.append_nil] at hrun
  have hv : chunkedVerdict (body.take hi) = some (.ok ()) := by
    unfold chunkedVerdict
    rw [chunkedBodyEnd_take hfind hlo]
    rfl
  rw [readUntil_done hv] at hrun
  unfold bodyOutcome receiveBody
  simp only [hl, hc, if_true, List.take_zero, hrun, chunkedBodyEnd_take hfind hlo, List.take_take]
  rw [Nat.min_eq_left]
  split
  · rename_i hempty
    exact (empty_line_take.mp hempty).1
  · exact hlo

/-- A chunked body of which nothing behind the last chunk is buffered. -/
theorem bodyOutcome_last_chunk {marker : ℕ} (hl : headerValue headers "Content-Length" = none)
    (hc : isChunked headers = true) (hfind : findBytes lastChunk body = some marker)
    (hr : ¬ containsPermissionDeniedMarker (body.take (marker + 5)) = true) :
    Splits body (cutAt (marker + 4) (marker + 5) body) ∧
      bodyOutcome headers body 0 (cutAt (marker + 4) (marker + 5) body) =
        some (body.take (marker + 5)) := by
  have hle := findBytes_le hfind
  rw [lastChunk_length] at hle
  have hchunk : readChunkSize = 4096 := rfl
  have hsize : marker + 5 ≤ marker + 4 + readChunkSize := by omega
  have hempty : ¬ ((body.take (marker + 5)).drop (marker + 5)).take 2 = [13, 10] := by
    intro hempty
    have := (empty_line_take.mp hempty).1
    omega
  refine ⟨splits_cutAt (Nat.lt_succ_self _) hle hsize, ?_⟩
  rw [bodyOutcome_cutAt hl hc hfind le_rfl hle hsize, if_neg hempty]
  exact if_neg hr

/-- A body that is not rejected is received when it is split in a certain way. -/
theorem bodyOutcome_accepted (hr : ¬ Rejected headers body) :
    ∃ pieces, Splits body pieces ∧ ∃ received, bodyOutcome headers body 0 pieces = some received := by
  by_cases hd : Determined headers body
  · obtain ⟨received, hsame⟩ := bodyOutcome_determined hd hr
    exact ⟨_, splits_bytes body, received, hsame 0 _ (Nat.zero_le _) (splits_bytes body)⟩
  · unfold Determined at hd
    unfold Rejected at hr
    rcases hl : headerValue headers "Content-Length" with _ | contentLength
    · simp only [hl] at hd hr
      by_cases hc : isChunked headers = true
      · rcases hfind : findBytes lastChunk body with _ | marker
        · simp [hfind, hc] at hr
        · simp only [hfind, hc, true_and, lastChunk_length] at hr
          obtain ⟨hsplits, hout⟩ := bodyOutcome_last_chunk hl hc hfind hr
          exact ⟨_, hsplits, _, hout⟩
      · refine ⟨_, splits_bytes body, [], ?_⟩
        unfold bodyOutcome receiveBody
        simp only [hl, if_neg hc, List.take_zero]
        rfl
    · simp [hl] at hd

/-- A body whose end is not determined: what is returned depends on the splitting. -/
theorem bodyOutcome_differs (hd : ¬ Determined headers body) (hr : ¬ Rejected headers body) :
    ∃ start ≤ 1, start ≤ body.length ∧ ∃ p q, Splits body p ∧ Splits (body.drop start) q ∧
      bodyOutcome headers body 0 p ≠ bodyOutcome headers body start q := by
  unfold Determined at hd
  unfold Rejected at hr
  rcases hl : headerValue headers "Content-Length" with _ | contentLength
  · simp only [hl] at hd hr
    by_cases hc : isChunked headers = true
    · -- an empty line follows the last chunk: it is part of the body when it is buffered with it
      rw [if_pos hc] at hd
      simp only [not_forall, not_not] at hd
      obtain ⟨marker, hfind, hempty⟩ := hd
      simp only [hfind, hc, true_and, lastChunk_length] at hr hempty
      obtain ⟨hsplits, hout⟩ := bodyOutcome_last_chunk hl hc hfind hr
      have hle : marker + 7 ≤ body.length := by
        have hlength := congrArg List.length hempty
        rw [List.length_take, List.length_drop, List.length_cons, List.length_singleton] at hlength
        omega
      have hchunk : readChunkSize = 4096 := rfl
      have hsize : marker + 7 ≤ marker + 4 + readChunkSize := by omega
      refine ⟨0, Nat.zero_le _, Nat.zero_le _, _, _, hsplits,
        splits_cutAt (show marker + 4 < marker + 7 by omega) hle hsize, ?_⟩
      rw [hout, List.drop_zero, bodyOutcome_cutAt hl hc hfind (by omega) hle hsize,
        if_pos (empty_line_take.mpr ⟨le_rfl, hempty⟩)]
      intro heq
      simp only at heq
      split at heq
      · cases heq
      · have hlength := congrArg List.length (Option.some.inj heq)
        rw [List.length_take, List.length_take] at hlength
        omega
    · -- without a length the body is what came with the headers
      rw [if_neg hc] at hd
      have hpos := List.length_pos_iff.mpr hd
      refine ⟨1, le_rfl, hpos, _, _, splits_bytes body, splits_bytes (body.drop 1), ?_⟩
      unfold bodyOutcome receiveBody
      simp only [hl, if_neg hc, List.take_zero]
      intro heq
      rw [if_neg (by decide)] at heq
      split at heq
      · cases heq
      · have hlength := congrArg List.length (Option.some.inj heq)
        rw [List.length_take, List.length_nil] at hlength
        omega
  · simp [hl] at hd

end Body

/-! ### The headers -/

/-- What `http_receive` returns for a splitting, where errors are not told apart. -/
def outcome (pieces : List (List UInt8)) : Option HttpResponse :=
  (httpReceive (readerOf pieces)).1.toOption

/-- What it returns once the headers are read. -/
def outcomeBehind (bs : List UInt8) (headerEnd start : ℕ) (pieces : List (List UInt8)) :
    Option HttpResponse :=
  match parseHeaders (bs.take headerEnd) with
  | .error _ => none
  | .ok (statusCode, reason, headers) =>
    (bodyOutcome headers (bs.drop headerEnd) start pieces).map (⟨statusCode, reason, headers, ·⟩)

section Headers

variable {bs : List UInt8} {i : ℕ}

/-- When the headers are read, `stop` bytes are buffered. -/
theorem outcome_of_headers {pieces after : List (List UInt8)} {stop : ℕ}
    (hrun : readUntilHeadersComplete (readerOf pieces) = (.ok (i, bs.take stop), readerOf after))
    (hle : i ≤ stop) : outcome pieces = outcomeBehind bs i (stop - i) after := by
  unfold outcome outcomeBehind httpReceive bodyOutcome
  simp only [hrun, List.take_take, Nat.min_eq_left hle, List.drop_take]
  rcases parseHeaders (bs.take i) with err | ⟨statusCode, reason, headers⟩
  · rfl
  · simp only
    rcases receiveBody headers ((bs.drop i).take (stop - i)) (readerOf after) with ⟨err | body, rest⟩
    · rfl
    · simp only
      split <;> rfl

/-- Without the end of the headers nothing is received. -/
theorem outcome_endless (h : findBytes headersEnd bs = none) {pieces : List (List UInt8)}
    (hsplits : Splits bs pieces) : outcome pieces = none := by
  have hnone : ∀ n, findBytes headersEnd (bs.take n) = none := by
    intro n
    rcases hfind : findBytes headersEnd (bs.take n) with _ | j
    · rfl
    · rw [(findBytes_of_take hfind).1] at h
      cases h
  unfold outcome httpReceive readUntilHeadersComplete
  rcases @readUntil_cases _ headersVerdict
      (.httpProtocol "connection closed before HTTP headers were complete") pieces []
      hsplits.pieces with
    ⟨before, after, rfl, -, ⟨a, hv, -⟩ | ⟨err, -, hrun⟩⟩ | ⟨-, hrun⟩
  · rw [List.nil_append, hsplits.of_append.1] at hv
    exact absurd hv (headersVerdict_not_found (hnone _) a)
  · rw [hrun]
    rfl
  · rw [hrun]
    rfl

/-- **The headers of any splitting.**  They are refused, which takes headers of more than the greatest
size, or some bytes of the body are buffered with them. -/
theorem outcome_headers (h : findBytes headersEnd bs = some i) {pieces : List (List UInt8)}
    (hsplits : Splits bs pieces) :
    (outcome pieces = none ∧ maxHeaderSize + 1 < i + 4) ∨
      ∃ start after, start ≤ (bs.drop (i + 4)).length ∧ Splits ((bs.drop (i + 4)).drop start) after ∧
        i + 4 ≤ maxHeaderSize + readChunkSize ∧
        outcome pieces = outcomeBehind bs (i + 4) start after := by
  have hchunk : readChunkSize = 4096 := rfl
  have hle := findBytes_le h
  rw [headersEnd_length] at hle
  rcases readUntil_threshold
      (.httpProtocol "connection closed before HTTP headers were complete")
      (Nat.zero_le bs.length) hsplits (fun n hn => headersVerdict_take h hn) with
    ⟨hlt, -⟩ | ⟨stop, after, -, hlimit, hstop, hnear, hafter, hend⟩
  · omega
  · rw [List.take_zero] at hend
    by_cases hin : i + 4 ≤ stop
    · rw [headersVerdict_found h hin] at hend
      rcases hend with ⟨a, hv, hrun⟩ | ⟨err, hv, -⟩
      · cases hv
        refine .inr ⟨stop - (i + 4), after, ?_, ?_, ?_, outcome_of_headers hrun hin⟩
        · rw [List.length_drop]
          omega
        · rwa [List.drop_drop, Nat.add_sub_cancel' hin]
        · omega
      · cases hv
    · refine .inl ⟨?_, by omega⟩
      have hnone := headersVerdict_not_found
        (findBytes_take_none h (show stop < i + headersEnd.length by rw [headersEnd_length]; omega))
      rcases hend with ⟨a, hv, -⟩ | ⟨err, -, hrun⟩
      · exact absurd hv (hnone a)
      · unfold outcome httpReceive readUntilHeadersComplete
        rw [hrun]
        rfl

/-- A splitting with a cut at `stop` and none between `lo` and `stop`. -/
theorem outcome_cutAt (h : findBytes headersEnd bs = some i) {lo stop : ℕ} {after : List (List UInt8)}
    (hlo : lo < i + 4) (hmax : lo ≤ maxHeaderSize) (hin : i + 4 ≤ stop) (hstop : stop ≤ bs.length)
    (hsize : stop ≤ lo + readChunkSize) (hafter : Splits (bs.drop stop) after) :
    Splits bs (cutAt lo stop (bs.take stop) ++ after) ∧
      outcome (cutAt lo stop (bs.take stop) ++ after) =
        outcomeBehind bs (i + 4) (stop - (i + 4)) after := by
  have hlength : stop ≤ (bs.take stop).length := by
    rw [List.length_take]
    omega
  have hsplits := (splits_cutAt (show lo < stop by omega) hlength hsize).append hafter
  rw [List.take_append_drop] at hsplits
  refine ⟨hsplits, outcome_of_headers ?_ hin⟩
  unfold readUntilHeadersComplete
  rw [readUntil_cutAt _ _ (by omega) hlength hsize, List.take_take, Nat.min_self,
    List.drop_take_self, List.map_nil, List.nil_append,
    readUntil_done (headersVerdict_found h hin)]
  intro n hn
  rw [List.take_take, Nat.min_eq_left (by omega), headersVerdict_take h (by omega)]
  omega

/-- Headers of more than the greatest size are refused when a read ends right behind it. -/
theorem outcome_too_long (h : findBytes headersEnd bs = some i) (hlong : maxHeaderSize + 1 < i + 4) :
    Splits bs (cutAt maxHeaderSize (maxHeaderSize + 1) bs) ∧
      outcome (cutAt maxHeaderSize (maxHeaderSize + 1) bs) = none := by
  have hle := findBytes_le h
  rw [headersEnd_length] at hle
  have hnone : findBytes headersEnd (bs.take (maxHeaderSize + 1)) = none :=
    findBytes_take_none h (by rw [headersEnd_length]; omega)
  have hsize : maxHeaderSize + 1 ≤ maxHeaderSize + readChunkSize :=
    Nat.add_le_add_left (by decide) maxHeaderSize
  have hv : headersVerdict (bs.take (maxHeaderSize + 1)) =
      some (.error (.httpProtocol "HTTP headers exceed maximum size")) := by
    unfold headersVerdict
    rw [hnone]
    simp only [List.length_take]
    rw [if_pos (by omega)]
  have hrun := @readUntil_cutAt bs _ _ _ headersVerdict
    (.httpProtocol "connection closed before HTTP headers were complete") []
    (Nat.lt_succ_self maxHeaderSize) (by omega) hsize fun n hn => by
      rw [headersVerdict_take h (by omega)]
      omega
  rw [List.append_nil, Nat.succ_eq_add_one, readUntil_refused hv] at hrun
  refine ⟨splits_cutAt (Nat.lt_succ_self _) (by omega) hsize, ?_⟩
  unfold outcome httpReceive readUntilHeadersComplete
  rw [hrun]
  rfl

/-! ### Whole responses -/

theorem outcome_parse_error (h : findBytes headersEnd bs = some i) {err : OpenfortivpnError}
    (hparse : parseHeaders (bs.take (i + 4)) = .error err) {p : List (List UInt8)} (hp : Splits bs p) :
    outcome p = none := by
  rcases outcome_headers h hp with ⟨hout, -⟩ | ⟨start, after, -, -, -, hout⟩
  · exact hout
  · rw [hout]
    unfold outcomeBehind
    rw [hparse]

/-- Headers longer than any read can reach are refused. -/
theorem outcome_unreachable (h : findBytes headersEnd bs = some i)
    (hlong : maxHeaderSize + readChunkSize < i + 4) {p : List (List UInt8)} (hp : Splits bs p) :
    outcome p = none := by
  rcases outcome_headers h hp with ⟨hout, -⟩ | ⟨start, after, -, -, hmax, -⟩
  · exact hout
  · omega

section Parsed

variable {statusCode : ℕ} {reason : String} {headers : List (String × String)}
  (h : findBytes headersEnd bs = some i)
  (hparse : parseHeaders (bs.take (i + 4)) = .ok (statusCode, reason, headers))

include hparse

theorem outcomeBehind_eq (start : ℕ) (after : List (List UInt8)) :
    outcomeBehind bs (i + 4) start after =
      (bodyOutcome headers (bs.drop (i + 4)) start after).map (⟨statusCode, reason, headers, ·⟩) := by
  unfold outcomeBehind
  rw [hparse]

include h

theorem outcome_rejected (hr : Rejected headers (bs.drop (i + 4))) {p : List (List UInt8)}
    (hp : Splits bs p) : outcome p = none := by
  rcases outcome_headers h hp with ⟨hout, -⟩ | ⟨start, after, hstart, hafter, -, hout⟩
  · exact hout
  · rw [hout, outcomeBehind_eq hparse, bodyOutcome_rejected hr hstart hafter]
    rfl

/-- Where the end of the body is determined, every splitting is received as the same response. -/
theorem outcome_determined (hshort : i + 4 ≤ maxHeaderSize + 1)
    (hd : Determined headers (bs.drop (i + 4))) (hr : ¬ Rejected headers (bs.drop (i + 4))) :
    ∃ received, ∀ p, Splits bs p → outcome p = some ⟨statusCode, reason, headers, received⟩ := by
  obtain ⟨received, hsame⟩ := bodyOutcome_determined hd hr
  refine ⟨received, fun p hp => ?_⟩
  rcases outcome_headers h hp with ⟨-, hlong⟩ | ⟨start, after, hstart, hafter, -, hout⟩
  · omega
  · rw [hout, outcomeBehind_eq hparse, hsame start after hstart hafter]
    rfl

/-- Headers between the greatest size and one read more are refused or not, as the reads fall. -/
theorem outcome_differs_headers (hlong : maxHeaderSize + 1 < i + 4)
    (hmax : i + 4 ≤ maxHeaderSize + readChunkSize) (hr : ¬ Rejected headers (bs.drop (i + 4))) :
    ∃ p q, Splits bs p ∧ Splits bs q ∧ outcome p ≠ outcome q := by
  have hle := findBytes_le h
  rw [headersEnd_length] at hle
  obtain ⟨hp, hrefused⟩ := outcome_too_long h hlong
  obtain ⟨pieces, hpieces, received, hreceived⟩ := bodyOutcome_accepted hr
  obtain ⟨hq, hout⟩ := outcome_cutAt h (show maxHeaderSize < i + 4 by omega) le_rfl le_rfl hle hmax hpieces
  refine ⟨_, _, hp, hq, fun hsame => ?_⟩
  rw [hrefused, hout, Nat.sub_self, outcomeBehind_eq hparse, hreceived] at hsame
  cases hsame

/-- A body without a determined end ends where the reads happen to end. -/
theorem outcome_differs_body (hshort : i + 4 ≤ maxHeaderSize + 1)
    (hd : ¬ Determined headers (bs.drop (i + 4))) (hr : ¬ Rejected headers (bs.drop (i + 4))) :
    ∃ p q, Splits bs p ∧ Splits bs q ∧ outcome p ≠ outcome q := by
  have hle := findBytes_le h
  rw [headersEnd_length] at hle
  have hchunk : readChunkSize = 4096 := rfl
  have hmaxsize : maxHeaderSize = 65536 := rfl
  obtain ⟨start, hone, hstart, p, q, hp, hq, hne⟩ := bodyOutcome_differs hd hr
  rw [List.length_drop] at hstart
  rw [List.drop_drop] at hq
  obtain ⟨hsplits, hout⟩ := outcome_cutAt h (show i + 3 < i + 4 by omega) (by omega) le_rfl
    hle (by omega) hp
  obtain ⟨hsplits', hout'⟩ := outcome_cutAt h (show i + 3 < i + 4 by omega) (by omega)
    (show i + 4 ≤ i + 4 + start by omega) (by omega) (by omega) hq
  refine ⟨_, _, hsplits, hsplits', fun hsame => ?_⟩
  rw [hout, hout', Nat.sub_self, Nat.add_sub_cancel_left, outcomeBehind_eq hparse,
    outcomeBehind_eq hparse] at hsame
  refine hne (Option.map_injective (fun a b hab => ?_) hsame)
  exact congrArg HttpResponse.body hab

end Parsed

end Headers

/-- What makes the result depend on the splitting is absent: headers between the greatest size and one
read more, an empty line behind the last chunk, a body without a length; unless the response is
refused anyway. -/
def SegmentationSafe (bs : List UInt8) : Prop :=
  match findBytes headersEnd bs with
  | none => True
  | some i =>
    match parseHeaders (bs.take (i + 4)) with
    | .error _ => True
    | .ok (_, _, headers) =>
      maxHeaderSize + readChunkSize < i + 4 ∨ Rejected headers (bs.drop (i + 4)) ∨
        i + 4 ≤ maxHeaderSize + 1 ∧ Determined headers (bs.drop (i + 4))

/-- **Reception and segmentation.**  The result is the same for every two splittings of the stream
exactly when nothing in it makes it depend on them. -/
theorem reception_independent_iff (bs : List UInt8) :
    (∀ p q, Splits bs p → Splits bs q → outcome p = outcome q) ↔ SegmentationSafe bs := by
  unfold SegmentationSafe
  rcases hfind : findBytes headersEnd bs with _ | i
  · refine (iff_true_right trivial).mpr fun p q hp hq => ?_
    rw [outcome_endless hfind hp, outcome_endless hfind hq]
  simp only
  rcases hparse : parseHeaders (bs.take (i + 4)) with err | ⟨statusCode, reason, headers⟩
  · refine (iff_true_right trivial).mpr fun p q hp hq => ?_
    rw [outcome_parse_error hfind hparse hp, outcome_parse_error hfind hparse hq]
  simp only
  constructor
  · intro hsame
    by_contra hunsafe
    simp only [not_or, not_and, not_lt] at hunsafe
    obtain ⟨hmax, hr, hd⟩ := hunsafe
    obtain ⟨p, q, hp, hq, hne⟩ : ∃ p q, Splits bs p ∧ Splits bs q ∧ outcome p ≠ outcome q := by
      by_cases hlong : maxHeaderSize + 1 < i + 4
      · exact outcome_differs_headers hfind hparse hlong hmax hr
      · exact outcome_differs_body hfind hparse (by omega) (hd (by omega)) hr
    exact hne (hsame p q hp hq)
  · rintro (hlong | hr | ⟨hshort, hd⟩) p q hp hq
    · rw [outcome_unreachable hfind hlong hp, outcome_unreachable hfind hlong hq]
    · rw [outcome_rejected hfind hparse hr hp, outcome_rejected hfind hparse hr hq]
    · by_cases hr : Rejected headers (bs.drop (i + 4))
      · rw [outcome_rejected hfind hparse hr hp, outcome_rejected hfind hparse hr hq]
      · obtain ⟨received, hreceived⟩ := outcome_determined hfind hparse hshort hd hr
        rw [hreceived p hp, hreceived q hq]

/-- A response without a length. -/
def unsizedResponse : List UInt8 := Text.asBytes "HTTP/1.1 200 OK\r\n\r\nab"

/-- Its body is lost when it comes in a read of its own. -/
theorem reception_depends_on_reads :
    ¬ ∀ p q, Splits unsizedResponse p → Splits unsizedResponse q → outcome p = outcome q := by
  intro hsame
  have hone : Splits unsizedResponse [unsizedResponse] := ⟨by decide +kernel, by decide +kernel⟩
  have htwo : Splits unsizedResponse [unsizedResponse.take 19, unsizedResponse.drop 19] :=
    ⟨by decide +kernel, by decide +kernel⟩
  have hbody : (outcome [unsizedResponse]).map HttpResponse.body = some (Text.asBytes "ab") := by
    decide +kernel
  have hempty : (outcome [unsizedResponse.take 19, unsizedResponse.drop 19]).map
      HttpResponse.body = some [] := by
    decide +kernel
  rw [hsame _ _ hone htwo, hempty] at hbody
  revert hbody
  decide +kernel

end OpenfortivpnRs.Http
