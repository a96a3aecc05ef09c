import Mathlib.Data.List.TakeWhile
import OpenfortivpnRs.Hdlc.Codec

/-!
# What the frame search finds

`findFrame` succeeds exactly when, at or after `start`, a run of flags is followed by bytes that are
not flags and by another flag; it then delimits the first such bytes (`findFrame_eq_ok_iff`).  That
depends on the bytes up to the closing flag only (`Delimited.append`).
-/

namespace OpenfortivpnRs.Hdlc

/-- From `start` on, the buffer holds no flag up to a run of flags, and then `len` bytes from index
`s` that are not flags, closed by a flag. -/
def Delimited (buffer : List UInt8) (start s len : ℕ) : Prop :=
  ∃ junk n frame rest, buffer.drop start = junk ++ (List.replicate n flag ++ (frame ++ flag :: rest)) ∧
    flag ∉ junk ∧ 0 < n ∧ frame ≠ [] ∧ flag ∉ frame ∧ s = start + junk.length + n ∧ len = frame.length

theorem beq_flag_false {l : List UInt8} (h : flag ∉ l) : ∀ x ∈ l, (x == flag) = false :=
  fun x hx => by simpa using fun e : x = flag => h (e ▸ hx)

/-- The bytes behind what a scan has passed. -/
theorem drop_behind {buffer front rest : List UInt8} {i n : ℕ} (h : buffer.drop i = front ++ rest)
    (hn : front.length = n) : buffer.drop (i + n) = rest := by
  rw [← List.drop_drop, h, List.drop_left' hn]

/-! ### The three scans -/

theorem nextFlag_eq_some_iff {buffer : List UInt8} {i j : ℕ} :
    nextFlag buffer i = some j ↔
      ∃ junk rest, buffer.drop i = junk ++ flag :: rest ∧ flag ∉ junk ∧ j = i + junk.length := by
  unfold nextFlag
  constructor
  · intro h
    obtain ⟨k, hk, rfl⟩ := Option.map_eq_some_iff.mp h
    obtain ⟨hlt, heq, hbefore⟩ := List.findIdx?_eq_some_iff_getElem.mp hk
    refine ⟨(buffer.drop i).take k, (buffer.drop i).drop (k + 1), ?_, ?_, ?_⟩
    · conv_lhs => rw [← List.take_append_drop k (buffer.drop i), List.drop_eq_getElem_cons hlt]
      rw [beq_iff_eq.mp heq]
    · intro hmem
      obtain ⟨m, hm, hmeq⟩ := List.mem_take_iff_getElem.mp hmem
      exact hbefore m (by omega) (by simp [hmeq])
    · rw [List.length_take_of_le hlt.le, Nat.add_comm]
  · rintro ⟨junk, rest, hd, hjunk, rfl⟩
    rw [hd, List.findIdx?_append, List.findIdx?_eq_none_iff.mpr (beq_flag_false hjunk)]
    simp [List.findIdx?_cons, Nat.add_comm]

/-- The flags at `i` are skipped when something else follows them. -/
theorem skipFlags_eq {buffer rest : List UInt8} {i n : ℕ}
    (hd : buffer.drop i = List.replicate n flag ++ rest) (hrest : rest.head? ≠ some flag) :
    skipFlags buffer i = i + n := by
  have htake : rest.takeWhile (· == flag) = [] := by
    rcases rest with _ | ⟨x, rest⟩
    · rfl
    · have : (x == flag) = false := by simpa using hrest
      simp [this]
  unfold skipFlags
  rw [hd, List.takeWhile_append_of_pos (by simp [List.mem_replicate]), htake]
  simp

/-- The bytes at `i` are the flags skipped and something that does not start with a flag. -/
theorem drop_skipFlags (buffer : List UInt8) (i : ℕ) :
    ∃ n rest, buffer.drop i = List.replicate n flag ++ rest ∧ rest.head? ≠ some flag ∧
      skipFlags buffer i = i + n := by
  refine ⟨((buffer.drop i).takeWhile (· == flag)).length, (buffer.drop i).dropWhile (· == flag),
    ?_, ?_, rfl⟩
  · conv_lhs => rw [← List.takeWhile_append_dropWhile (p := (· == flag)) (l := buffer.drop i)]
    congr 1
    exact List.eq_replicate_iff.mpr ⟨rfl, fun x hx => by simpa using List.mem_takeWhile_imp hx⟩
  · intro h
    have := List.head?_dropWhile_not (· == flag) (buffer.drop i)
    rw [h] at this
    simp at this

/-! ### The search -/

/-- **`findFrame` finds exactly the first delimited frame.** -/
theorem findFrame_eq_ok_iff {buffer : List UInt8} {start s len : ℕ} :
    findFrame buffer start = (.ok len, s) ↔ Delimited buffer start s len := by
  constructor
  · intro h
    unfold findFrame at h
    split at h
    · cases h
    · rename_i i hi
      simp only at h
      split at h
      · cases h
      · rename_i e he
        obtain ⟨junk, tail, hd, hjunk, rfl⟩ := nextFlag_eq_some_iff.mp hi
        obtain ⟨n, rest, hn, hhead, hskip⟩ := drop_skipFlags buffer (start + junk.length + 1)
        rw [hskip] at h he
        obtain ⟨frame, rest', hd', hframe, rfl⟩ := nextFlag_eq_some_iff.mp he
        have htail : buffer.drop (start + junk.length + 1) = tail := by
          rw [Nat.add_assoc, ← List.drop_drop, hd]
          simp
        have hrest : buffer.drop (start + junk.length + 1 + n) = rest :=
          drop_behind hn (List.length_replicate ..)
        rw [htail] at hn
        rw [hrest] at hd'
        have hne : frame ≠ [] := by
          rintro rfl
          exact hhead (by simp [hd'])
        simp only [Prod.mk.injEq, Except.ok.injEq] at h
        refine ⟨junk, n + 1, frame, rest', ?_, hjunk, by omega, hne, hframe, by omega, by omega⟩
        rw [hd, hn, hd', List.replicate_succ, List.cons_append]
  · rintro ⟨junk, n, frame, rest, hd, hjunk, hn, hne, hframe, rfl, rfl⟩
    obtain ⟨m, rfl⟩ := Nat.exists_eq_succ_of_ne_zero hn.ne'
    have h1 : nextFlag buffer start = some (start + junk.length) :=
      nextFlag_eq_some_iff.mpr ⟨junk, _, hd, hjunk, rfl⟩
    have hd2 : buffer.drop (start + junk.length + 1) =
        List.replicate m flag ++ (frame ++ flag :: rest) := by
      rw [Nat.add_assoc, ← List.drop_drop, hd, List.replicate_succ]
      simp
    have h2 : skipFlags buffer (start + junk.length + 1) = start + junk.length + 1 + m := by
      refine skipFlags_eq hd2 fun h => hframe ?_
      obtain ⟨x, frame, rfl⟩ := List.exists_cons_of_ne_nil hne
      simp only [List.cons_append, List.head?_cons, Option.some.injEq] at h
      simp [h]
    have h3 : nextFlag buffer (start + junk.length + 1 + m) =
        some (start + junk.length + 1 + m + frame.length) :=
      nextFlag_eq_some_iff.mpr ⟨frame, rest, drop_behind hd2 (List.length_replicate ..), hframe, rfl⟩
    unfold findFrame
    rw [h1]
    simp only [h2, h3, Prod.mk.injEq, Except.ok.injEq]
    omega

/-- The search either delimits a frame or reports that there is none and leaves `start` alone. -/
theorem findFrame_cases (buffer : List UInt8) (start : ℕ) :
    (∃ len s, findFrame buffer start = (.ok len, s)) ∨
      findFrame buffer start = (.error .hdlcNoFrameFound, start) := by
  unfold findFrame
  split
  · exact .inr rfl
  · simp only
    split
    · exact .inr rfl
    · exact .inl ⟨_, _, rfl⟩

/-! ### What a delimited frame says about the buffer -/

/-- A delimited frame lies inside the buffer, past `start`, and is not empty. -/
theorem Delimited.bounds {buffer : List UInt8} {start s len : ℕ} (h : Delimited buffer start s len) :
    start < s ∧ 0 < len ∧ s + len < buffer.length := by
  obtain ⟨junk, n, frame, rest, hd, -, hn, hne, -, rfl, rfl⟩ := h
  have hlen := congrArg List.length hd
  have hpos := List.length_pos_iff.mpr hne
  simp only [List.length_drop, List.length_append, List.length_replicate, List.length_cons] at hlen
  omega

/-- Bytes that arrive later do not change the first frame. -/
theorem Delimited.append {buffer : List UInt8} {start s len : ℕ} (h : Delimited buffer start s len)
    (more : List UInt8) : Delimited (buffer ++ more) start s len := by
  have hb := h.bounds
  obtain ⟨junk, n, frame, rest, hd, h1, h2, h3, h4, h5, h6⟩ := h
  refine ⟨junk, n, frame, rest ++ more, ?_, h1, h2, h3, h4, h5, h6⟩
  rw [List.drop_append_of_le_length (by omega), hd]
  simp

/-- The frame is closed by a flag. -/
theorem Delimited.closed {buffer : List UInt8} {start s len : ℕ} (h : Delimited buffer start s len) :
    ∃ rest, buffer.drop (s + len) = flag :: rest := by
  obtain ⟨junk, n, frame, rest, hd, -, -, -, -, rfl, rfl⟩ := h
  refine ⟨rest, ?_⟩
  rw [Nat.add_assoc, Nat.add_assoc, ← List.drop_drop, hd, ← List.append_assoc, ← List.append_assoc]
  exact List.drop_left' (by simp)

/-- A frame closed before the end is there without the bytes behind it. -/
theorem Delimited.of_append {buffer more : List UInt8} {start s len : ℕ}
    (h : Delimited (buffer ++ more) start s len) (hlt : s + len < buffer.length) :
    Delimited buffer start s len := by
  have hb := h.bounds
  obtain ⟨rest, hclosed⟩ := h.closed
  obtain ⟨junk, n, frame, rest', hd, h1, h2, h3, h4, rfl, rfl⟩ := h
  obtain ⟨back, hback⟩ : ∃ back, buffer.drop (start + junk.length + n + frame.length) = flag :: back := by
    rw [List.drop_append_of_le_length hlt.le] at hclosed
    rcases hb : buffer.drop (start + junk.length + n + frame.length) with _ | ⟨x, back⟩
    · have := congrArg List.length hb
      rw [List.length_drop, List.length_nil] at this
      omega
    · rw [hb, List.cons_append, List.cons.injEq] at hclosed
      exact ⟨back, by rw [hclosed.1]⟩
  refine ⟨junk, n, frame, back, ?_, h1, h2, h3, h4, rfl, rfl⟩
  have htake := congrArg (List.take (junk.length + n + frame.length)) hd
  rw [List.drop_append_of_le_length (by omega), ← List.append_assoc, ← List.append_assoc,
    List.take_append_of_le_length (by rw [List.length_drop]; omega), List.take_left' (by simp [Nat.add_assoc])] at htake
  rw [← List.take_append_drop (junk.length + n + frame.length) (buffer.drop start), htake,
    List.drop_drop, ← Nat.add_assoc, ← Nat.add_assoc, hback, List.append_assoc, List.append_assoc]

/-- Searching from `start` is searching what is left from there. -/
theorem Delimited.drop_iff {buffer : List UInt8} {start s len : ℕ} :
    Delimited (buffer.drop start) 0 s len ↔ Delimited buffer start (start + s) len := by
  constructor
  · rintro ⟨junk, n, frame, rest, hd, h1, h2, h3, h4, rfl, h6⟩
    exact ⟨junk, n, frame, rest, hd, h1, h2, h3, h4, by omega, h6⟩
  · rintro ⟨junk, n, frame, rest, hd, h1, h2, h3, h4, h5, h6⟩
    exact ⟨junk, n, frame, rest, hd, h1, h2, h3, h4, by omega, h6⟩

/-- A frame right behind a flag is the one that is found. -/
theorem delimited_cons {frame : List UInt8} (rest : List UInt8) (hne : frame ≠ [])
    (hflag : flag ∉ frame) : Delimited (flag :: (frame ++ flag :: rest)) 0 1 frame.length :=
  ⟨[], 1, frame, rest, rfl, List.not_mem_nil, Nat.one_pos, hne, hflag, rfl, rfl⟩

end OpenfortivpnRs.Hdlc
