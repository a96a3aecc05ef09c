import OpenfortivpnRs.Proxy.Dns

/-!
# The DNS parser on hostile bytes

Every index of the parser is behind a comparison with the length of the message, so none is out of
bounds (`parseTcpResponseIndexed_eq`).  A name that is skipped moves the offset on, and not behind the end
(`skipName_bounds`); so the four bytes of an address are bytes of the frame (`mem_readAnswers`).
-/

namespace OpenfortivpnRs.Proxy

open Lib.Bytes

namespace Indexed

variable {α β : Type}

@[simp] theorem ofResult_ok_bind (a : α) (f : α → Indexed β) : (ofResult (.ok a) >>= f) = f a := rfl

theorem ofResult_bind (x : Result α) (f : α → Result β) :
    ofResult (x >>= f) = (ofResult x >>= fun a => ofResult (f a)) := by
  cases x <;> rfl

theorem byte_eq {bytes : List UInt8} {i : ℕ} (h : i < bytes.length) :
    byte bytes i = ofResult (.ok (bytes.getD i 0)) := by
  unfold byte
  rw [getElem?_eq_getD h]
  rfl

theorem word_eq {bytes : List UInt8} {i : ℕ} (h : i + 1 < bytes.length) :
    word bytes i = ofResult (.ok (wordAt bytes i)) := by
  unfold word
  rw [byte_eq (by omega), byte_eq h]
  rfl

theorem slice_eq {bytes : List UInt8} {start stop : ℕ} (h : start ≤ stop) (h' : stop ≤ bytes.length) :
    slice bytes start stop = ofResult (.ok ((bytes.take stop).drop start)) := by
  unfold slice
  rw [if_pos ⟨h, h'⟩]
  rfl

end Indexed

open Indexed

/-! ### Names -/

section Names

variable (message : List UInt8)

theorem skipNameLoopIndexed_eq (offset jumps : ℕ) :
    skipNameLoopIndexed message offset jumps = ofResult (skipNameLoop message offset jumps) := by
  induction hn : message.length - offset using Nat.strong_induction_on generalizing offset jumps with
  | _ n ih =>
    rw [skipNameLoopIndexed, skipNameLoop]
    by_cases h : offset ≥ message.length
    · rw [if_pos h, if_pos h]
      rfl
    · rw [if_neg h, if_neg h, byte_eq (by omega), ofResult_ok_bind, ih _ (by omega) _ _ rfl]
      simp only [apply_ite ofResult]
      rfl

theorem skipNameIndexed_eq (offset : ℕ) : skipNameIndexed message offset = ofResult (skipName message offset) :=
  skipNameLoopIndexed_eq message offset 0

/-- **A name that is skipped moves the offset on,** and not behind the end of the message. -/
theorem skipNameLoop_bounds {offset jumps stop : ℕ} (h : skipNameLoop message offset jumps = .ok stop) :
    offset < stop ∧ stop ≤ message.length := by
  induction offset, jumps using skipNameLoop.induct message with
  | case1 offset jumps hend =>
    rw [skipNameLoop, if_pos hend] at h
    cases h
  | case2 offset jumps hend len hpointer hlast =>
    rw [skipNameLoop, if_neg hend, if_pos hpointer, if_pos hlast] at h
    cases h
  | case3 offset jumps hend len hpointer hlast =>
    rw [skipNameLoop, if_neg hend, if_pos hpointer, if_neg hlast] at h
    cases h
    omega
  | case4 offset jumps hend len hpointer hzero =>
    rw [skipNameLoop, if_neg hend, if_neg hpointer, if_pos hzero] at h
    cases h
    omega
  | case5 offset jumps hend len hpointer hzero hlabel =>
    rw [skipNameLoop, if_neg hend, if_neg hpointer, if_neg hzero, if_pos hlabel] at h
    cases h
  | case6 offset jumps hend len hpointer hzero hlabel hdeep =>
    rw [skipNameLoop, if_neg hend, if_neg hpointer, if_neg hzero, if_neg hlabel, if_pos hdeep] at h
    cases h
  | case7 offset jumps hend len hpointer hzero hlabel hdeep ih =>
    rw [skipNameLoop, if_neg hend, if_neg hpointer, if_neg hzero, if_neg hlabel, if_neg hdeep] at h
    have := ih h
    omega

theorem skipName_bounds {offset stop : ℕ} (h : skipName message offset = .ok stop) :
    offset < stop ∧ stop ≤ message.length := skipNameLoop_bounds message h

end Names

/-! ### No index is out of bounds -/

section Message

variable (message : List UInt8)

theorem skipQuestionsIndexed_eq (count offset : ℕ) :
    skipQuestionsIndexed message count offset = ofResult (skipQuestions message count offset) := by
  induction count generalizing offset with
  | zero => rfl
  | succ count ih =>
    rw [skipQuestionsIndexed, skipQuestions, skipNameIndexed_eq, ofResult_bind]
    refine bind_congr fun offset => ?_
    rw [ih]
    simp only [apply_ite ofResult]
    rfl

theorem readAnswersIndexed_eq (count offset : ℕ) (addrs : List Ipv4Addr) :
    readAnswersIndexed message count offset addrs = ofResult (readAnswers message count offset addrs) := by
  induction count generalizing offset addrs with
  | zero => rfl
  | succ count ih =>
    rw [readAnswersIndexed, readAnswers, skipNameIndexed_eq, ofResult_bind]
    refine bind_congr fun offset => ?_
    by_cases hhead : offset + 10 > message.length
    · rw [if_pos hhead, if_pos hhead]
      rfl
    rw [if_neg hhead, if_neg hhead, word_eq (by omega), word_eq (by omega), word_eq (by omega)]
    simp only [ofResult_ok_bind]
    by_cases hdata : offset + 10 + (wordAt message (offset + 8)).toNat > message.length
    · rw [if_pos hdata, if_pos hdata]
      rfl
    rw [if_neg hdata, if_neg hdata]
    by_cases haddress : wordAt message offset = dnsTypeA ∧ wordAt message (offset + 2) = dnsClassIn ∧
        (wordAt message (offset + 8)).toNat = 4
    · have hfour := haddress.2.2
      rw [if_pos haddress, if_pos haddress, byte_eq (by omega), byte_eq (by omega), byte_eq (by omega),
        byte_eq (by omega)]
      exact ih _ _
    · rw [if_neg haddress, if_neg haddress]
      exact ih _ _

theorem parseMessageIndexed_eq (expectedId : UInt16) :
    parseMessageIndexed message expectedId = ofResult (parseMessage message expectedId) := by
  unfold parseMessageIndexed parseMessage dnsHeaderLen
  by_cases hshort : message.length < 12
  · rw [if_pos hshort, if_pos hshort]
    rfl
  rw [if_neg hshort, if_neg hshort, word_eq (by omega), word_eq (by omega), word_eq (by omega),
    word_eq (by omega)]
  simp only [ofResult_ok_bind, apply_ite ofResult, ofResult_bind, skipQuestionsIndexed_eq,
    readAnswersIndexed_eq]
  rfl

end Message

/-- **The parser never indexes out of bounds.** -/
theorem parseTcpResponseIndexed_eq (frame : List UInt8) (expectedId : UInt16) :
    parseTcpResponseIndexed frame expectedId = ofResult (parseTcpResponse frame expectedId) := by
  unfold parseTcpResponseIndexed parseTcpResponse
  by_cases hshort : frame.length < 2
  · rw [if_pos hshort, if_pos hshort]
    rfl
  rw [if_neg hshort, if_neg hshort, word_eq (by omega), ofResult_ok_bind]
  by_cases hpart : frame.length < 2 + (wordAt frame 0).toNat
  · simp only [if_pos hpart]
    rfl
  · rw [if_neg hpart, if_neg hpart, slice_eq (by omega) (by omega), ofResult_ok_bind, parseMessageIndexed_eq]

/-! ### Where addresses come from -/

/-- The address is four bytes of the buffer that follow each other. -/
def StandsIn (buffer : List UInt8) (addr : Ipv4Addr) : Prop :=
  ∃ i, i + 4 ≤ buffer.length ∧ (buffer.drop i).take 4 = addr.octets

theorem standsIn_getD {buffer : List UInt8} {i : ℕ} (h : i + 4 ≤ buffer.length) :
    StandsIn buffer ⟨buffer.getD i 0, buffer.getD (i + 1) 0, buffer.getD (i + 2) 0, buffer.getD (i + 3) 0⟩ := by
  refine ⟨i, h, ?_⟩
  rw [List.drop_eq_getElem_cons (by omega), List.drop_eq_getElem_cons (by omega),
    List.drop_eq_getElem_cons (by omega), List.drop_eq_getElem_cons (by omega)]
  simp only [List.take_succ_cons, List.take_zero, Ipv4Addr.octets, List.getD_eq_getElem?_getD]
  rw [List.getElem?_eq_getElem (by omega), List.getElem?_eq_getElem (by omega),
    List.getElem?_eq_getElem (by omega), List.getElem?_eq_getElem (by omega)]
  rfl

/-- The addresses that the loop over the answers adds stand in the message. -/
theorem mem_readAnswers (message : List UInt8) {count offset : ℕ} {addrs found : List Ipv4Addr}
    (h : readAnswers message count offset addrs = .ok found) {addr : Ipv4Addr} (hmem : addr ∈ found) :
    addr ∈ addrs ∨ StandsIn message addr := by
  induction count generalizing offset addrs with
  | zero =>
    cases h
    exact .inl hmem
  | succ count ih =>
    rw [readAnswers] at h
    cases hname : skipName message offset with
    | error err =>
      rw [hname] at h
      cases h
    | ok offset =>
      rw [hname] at h
      simp only [bind, Except.bind] at h
      split at h
      · cases h
      · split at h
        · cases h
        · rename_i hdata
          split at h
          · rename_i haddress
            have hfour := haddress.2.2
            rcases ih h with hold | hstands
            · rcases List.mem_append.mp hold with hold | hnew
              · exact .inl hold
              · rw [List.mem_singleton.mp hnew]
                exact .inr (standsIn_getD (by omega))
            · exact .inr hstands
          · exact ih h

theorem mem_parseMessage (message : List UInt8) {expectedId : UInt16} {addrs : List Ipv4Addr}
    (h : parseMessage message expectedId = .ok addrs) {addr : Ipv4Addr} (hmem : addr ∈ addrs) :
    StandsIn message addr := by
  unfold parseMessage at h
  dsimp only at h
  split_ifs at h
  cases hquestions : skipQuestions message (wordAt message 4).toNat dnsHeaderLen with
  | error err =>
    rw [hquestions] at h
    cases h
  | ok offset =>
    rw [hquestions] at h
    exact (mem_readAnswers message h hmem).resolve_left (List.not_mem_nil)

theorem StandsIn.of_slice {frame : List UInt8} {stop : ℕ} {addr : Ipv4Addr} (hstop : stop ≤ frame.length)
    (h : StandsIn ((frame.take stop).drop 2) addr) : StandsIn frame addr := by
  obtain ⟨i, hi, hbytes⟩ := h
  rw [List.length_drop, List.length_take] at hi
  refine ⟨2 + i, by omega, ?_⟩
  rw [← hbytes, List.drop_drop, List.drop_take, List.take_take, min_eq_left (by omega)]

/-- A frame that is not complete yet: shorter than its length prefix says, or than that prefix. -/
def Incomplete (frame : List UInt8) : Prop :=
  frame.length < 2 ∨ frame.length < 2 + (wordAt frame 0).toNat

/-- **The parser is safe on hostile bytes.** -/
theorem dns_parser_safe (frame : List UInt8) (expectedId : UInt16) :
    (∃ result, parseTcpResponseIndexed frame expectedId = ofResult result ∧
      parseTcpResponse frame expectedId = result) ∧
    (∀ message offset, ∃ result, skipNameIndexed message offset = ofResult result ∧
      ∀ stop, result = .ok stop → offset < stop ∧ stop ≤ message.length) ∧
    (∀ addrs, parseTcpResponse frame expectedId = .ok addrs → ∀ addr ∈ addrs, StandsIn frame addr) ∧
    (Incomplete frame → parseTcpResponse frame expectedId = .ok []) := by
  refine ⟨⟨_, parseTcpResponseIndexed_eq frame expectedId, rfl⟩, fun message offset =>
    ⟨_, skipNameIndexed_eq message offset, fun stop h => skipName_bounds message h⟩, ?_, ?_⟩
  · intro addrs h addr hmem
    unfold parseTcpResponse at h
    dsimp only at h
    split_ifs at h
    · cases h
      cases hmem
    · cases h
      cases hmem
    · exact (mem_parseMessage _ h hmem).of_slice (by omega)
  · intro h
    unfold parseTcpResponse
    rcases h with hshort | hpart
    · rw [if_pos hshort]
    · dsimp only
      rw [if_pos hpart, ite_self]

end OpenfortivpnRs.Proxy
