import OpenfortivpnRs.Hdlc.Search

/-!
# The first frame of a buffer

A frame told by the indices of its bytes, without a word about the three scans of the search:
`findFrame_first` says that the search succeeds at the first one at or after `start`, and
`findFrame_none_iff` that it fails, and leaves `start` alone, when there is none.
-/

namespace OpenfortivpnRs.Hdlc

/-- At or after `start` there are flags up to index `s`, and from there on `len` bytes, one at least,
that are not flags and that a flag closes. -/
structure FrameAt (buffer : List UInt8) (start s len : ℕ) : Prop where
  opened : ∃ i, start ≤ i ∧ i < s ∧ ∀ j, i ≤ j → j < s → buffer[j]? = some flag
  nonempty : 0 < len
  flag_free : ∀ j, s ≤ j → j < s + len → buffer[j]? ≠ some flag
  closed : buffer[s + len]? = some flag

/-- A run of non-flags ends where its flag is, so where a frame starts says how long it is. -/
theorem FrameAt.length_unique {buffer : List UInt8} {start s len len' : ℕ}
    (h : FrameAt buffer start s len) (h' : FrameAt buffer start s len') : len = len' := by
  rcases Nat.lt_trichotomy len len' with hlt | heq | hgt
  · exact absurd h.closed (h'.flag_free (s + len) (by omega) (by omega))
  · exact heq
  · exact absurd h'.closed (h.flag_free (s + len') (by omega) (by omega))

/-! ### Indices and scans -/

theorem getElem?_of_drop {buffer l : List UInt8} {i : ℕ} (h : buffer.drop i = l) (k : ℕ) :
    buffer[i + k]? = l[k]? := by
  rw [← h, List.getElem?_drop]

/-- There is no flag among the bytes a scan for flags passes. -/
theorem getElem?_junk {buffer junk rest : List UInt8} {i j : ℕ} (hd : buffer.drop i = junk ++ rest)
    (hjunk : flag ∉ junk) (hge : i ≤ j) (hlt : j < i + junk.length) : buffer[j]? ≠ some flag := by
  obtain ⟨k, rfl⟩ := Nat.exists_eq_add_of_le hge
  rw [getElem?_of_drop hd, List.getElem?_append_left (by omega)]
  intro h
  exact hjunk (List.mem_of_getElem? h)

/-- There are flags only among the bytes a scan over flags passes. -/
theorem getElem?_flags {buffer rest : List UInt8} {i j n : ℕ}
    (hd : buffer.drop i = List.replicate n flag ++ rest) (hge : i ≤ j) (hlt : j < i + n) :
    buffer[j]? = some flag := by
  obtain ⟨k, rfl⟩ := Nat.exists_eq_add_of_le hge
  rw [getElem?_of_drop hd, List.getElem?_append_left (by rw [List.length_replicate]; omega),
    List.getElem?_replicate, if_pos (by omega)]

theorem nextFlag_eq_none {buffer : List UInt8} {i j : ℕ} (h : nextFlag buffer i = none) (hge : i ≤ j) :
    buffer[j]? ≠ some flag := by
  obtain ⟨k, rfl⟩ := Nat.exists_eq_add_of_le hge
  intro hj
  rw [← List.getElem?_drop] at hj
  have hnone := List.findIdx?_eq_none_iff.mp (Option.map_eq_none_iff.mp h) flag (List.mem_of_getElem? hj)
  simp at hnone

/-! ### The two ways to tell a frame -/

/-- What the search delimits is a frame. -/
theorem Delimited.frameAt {buffer : List UInt8} {start s len : ℕ} (h : Delimited buffer start s len) :
    FrameAt buffer start s len := by
  obtain ⟨rest', hclosed⟩ := h.closed
  obtain ⟨junk, n, frame, rest, hd, hjunk, hn, hne, hframe, rfl, rfl⟩ := h
  have hflags := drop_behind hd rfl
  have hrun := drop_behind hflags (List.length_replicate ..)
  constructor
  · exact ⟨start + junk.length, by omega, by omega, fun j hge hlt => getElem?_flags hflags hge hlt⟩
  · exact List.length_pos_iff.mpr hne
  · exact fun j hge hlt => getElem?_junk hrun hframe hge hlt
  · exact getElem?_of_drop hclosed 0

/-- No frame starts before the one the search delimits: its first byte would be junk, which no flag
precedes, or one of the flags. -/
theorem Delimited.first {buffer : List UInt8} {start s len s' len' : ℕ}
    (h : Delimited buffer start s len) (h' : FrameAt buffer start s' len') : s ≤ s' := by
  obtain ⟨junk, n, frame, rest, hd, hjunk, hn, hne, hframe, rfl, rfl⟩ := h
  obtain ⟨i, hstart, hlt, hopen⟩ := h'.opened
  have hflags := drop_behind hd rfl
  by_contra hbefore
  have hi : start + junk.length ≤ i := by
    by_contra hin
    exact getElem?_junk hd hjunk hstart (by omega) (hopen i (Nat.le_refl i) hlt)
  have hpos := h'.nonempty
  exact h'.flag_free s' (Nat.le_refl s') (by omega) (getElem?_flags hflags (by omega) (by omega))

/-- Where there is a frame, none of the scans runs to the end of the buffer. -/
theorem FrameAt.found {buffer : List UInt8} {start s' len' : ℕ} (h : FrameAt buffer start s' len') :
    ∃ len s, findFrame buffer start = (.ok len, s) := by
  obtain ⟨i, hstart, hlt, hopen⟩ := h.opened
  have hi := hopen i (Nat.le_refl i) hlt
  unfold findFrame
  split
  · rename_i hnone
    exact absurd hi (nextFlag_eq_none hnone hstart)
  · rename_i i₀ hfirst
    obtain ⟨junk, tail, hd, hjunk, rfl⟩ := nextFlag_eq_some_iff.mp hfirst
    have hi₀ : start + junk.length ≤ i := by
      by_contra hin
      exact getElem?_junk hd hjunk hstart (by omega) hi
    obtain ⟨n, rest, hflags, -, hskip⟩ := drop_skipFlags buffer (start + junk.length + 1)
    -- the flags skipped end where the run of the frame starts, or before
    have hle : start + junk.length + 1 + n ≤ s' := by
      by_contra hpast
      have hpos := h.nonempty
      exact h.flag_free s' (Nat.le_refl s') (by omega) (getElem?_flags hflags (by omega) (by omega))
    simp only [hskip]
    split
    · rename_i hnone
      exact absurd h.closed (nextFlag_eq_none hnone (by omega))
    · exact ⟨_, _, rfl⟩

/-! ### The search -/

/-- **The search finds the first frame**: it succeeds with `s` and `len` when they delimit a frame at
or after `start` and no other such frame starts before. -/
theorem findFrame_first {buffer : List UInt8} {start s len : ℕ} :
    findFrame buffer start = (.ok len, s) ↔
      FrameAt buffer start s len ∧ ∀ s' len', FrameAt buffer start s' len' → s ≤ s' := by
  constructor
  · intro h
    have hdel := findFrame_eq_ok_iff.mp h
    exact ⟨hdel.frameAt, fun s' len' => hdel.first⟩
  · rintro ⟨hframe, hfirst⟩
    obtain ⟨len₀, s₀, h⟩ := hframe.found
    have hdel := findFrame_eq_ok_iff.mp h
    have hs : s₀ = s := Nat.le_antisymm (hdel.first hframe) (hfirst s₀ len₀ hdel.frameAt)
    subst hs
    rw [h, hframe.length_unique hdel.frameAt]

/-- **The search fails when there is no frame**, and then leaves `start` alone. -/
theorem findFrame_none_iff {buffer : List UInt8} {start : ℕ} :
    findFrame buffer start = (.error .hdlcNoFrameFound, start) ↔
      ¬ ∃ s len, FrameAt buffer start s len := by
  constructor
  · rintro h ⟨s, len, hframe⟩
    obtain ⟨len₀, s₀, hfound⟩ := hframe.found
    rw [h] at hfound
    cases hfound
  · intro h
    rcases findFrame_cases buffer start with ⟨len, s, hfound⟩ | hnone
    · exact absurd ⟨s, len, (findFrame_first.mp hfound).1⟩ h
    · exact hnone

/-- Flags in front of a frame, and none behind its bytes yet. -/
example : findFrame [0x7e, 0x7e, 0x41, 0x7e, 0x42] 0 = (.ok 1, 2) ∧
    findFrame [0x7e, 0x7e, 0x41, 0x7e, 0x42] 3 = (.error .hdlcNoFrameFound, 3) := by decide

/-- Searching from `start` is searching what is left from there. -/
theorem frameAt_drop {buffer : List UInt8} {start : ℕ} :
    (∃ s len, FrameAt (buffer.drop start) 0 s len) ↔ ∃ s len, FrameAt buffer start s len := by
  constructor
  · rintro ⟨s, len, h⟩
    obtain ⟨len₀, s₀, hfound⟩ := h.found
    exact ⟨start + s₀, len₀, (Delimited.drop_iff.mp (findFrame_eq_ok_iff.mp hfound)).frameAt⟩
  · rintro ⟨s, len, h⟩
    obtain ⟨len₀, s₀, hfound⟩ := h.found
    have hdel := findFrame_eq_ok_iff.mp hfound
    obtain ⟨t, rfl⟩ := Nat.exists_eq_add_of_le hdel.bounds.1.le
    exact ⟨t, len₀, (Delimited.drop_iff.mpr hdel).frameAt⟩

end OpenfortivpnRs.Hdlc
