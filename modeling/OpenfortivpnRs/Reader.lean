import OpenfortivpnRs.Error

/-!
# Readers

A `std::io::Read` by the results of its reads to come, `read_exact` on it, and the bytes it still
holds.
-/

namespace OpenfortivpnRs

/-- The results of the reads to come, in order: the bytes that are there at once, or an error.
Where no result is left the peer has closed the stream. -/
structure Reader where
  reads : List (Except IoError (List UInt8))
  deriving DecidableEq

namespace Reader

/-- A read into a buffer of `max` bytes; the end of the stream reads as no bytes. -/
def read (reader : Reader) (max : ℕ) : Except IoError (List UInt8) × Reader :=
  match reader.reads with
  | [] => (.ok [], reader)
  | .error err :: reads => (.error err, ⟨reads⟩)
  | .ok bytes :: reads =>
    if bytes.length ≤ max then (.ok bytes, ⟨reads⟩)
    else (.ok (bytes.take max), ⟨.ok (bytes.drop max) :: reads⟩)

/-- The bytes that are still to come. -/
def bytes (reader : Reader) : List UInt8 :=
  reader.reads.flatMap fun result => match result with
    | .ok bytes => bytes
    | .error _ => []

/-- A bound on the number of reads that are left. -/
def size (reader : Reader) : ℕ :=
  (reader.reads.map fun result => match result with
    | .ok bytes => bytes.length + 1
    | .error _ => 1).sum

/-- No read before the end of the stream comes back without bytes, and each error is in `errors`. -/
def Open (errors : IoError → Prop) (reader : Reader) : Prop :=
  ∀ result ∈ reader.reads, match result with
    | .ok bytes => bytes ≠ []
    | .error err => errors err

section Read

variable {reader rest : Reader} {max : ℕ} {chunk : List UInt8} {errors : IoError → Prop}

/-- What a read returns was the front of what was to come. -/
theorem read_ok (h : reader.read max = (.ok chunk, rest)) :
    reader.bytes = chunk ++ rest.bytes ∧ chunk.length ≤ max := by
  unfold read at h
  split at h
  · cases h
    exact ⟨rfl, Nat.zero_le _⟩
  · cases h
  · rename_i piece reads hreads
    split at h
    · rename_i hle
      cases h
      exact ⟨by simp [bytes, hreads], hle⟩
    · cases h
      refine ⟨?_, List.length_take_le _ _⟩
      simp only [bytes, hreads, List.flatMap_cons]
      rw [← List.append_assoc, List.take_append_drop]

/-- A read that fails leaves the bytes where they are. -/
theorem read_error {err : IoError} (h : reader.read max = (.error err, rest)) :
    reader.bytes = rest.bytes ∧ reader.size = rest.size + 1 := by
  unfold read at h
  split at h
  · cases h
  · rename_i reads hreads
    cases h
    exact ⟨by simp [bytes, hreads], by simp [size, hreads, Nat.add_comm]⟩
  · split at h <;> cases h

/-- What is read is taken off the size. -/
theorem read_size (hmax : 0 < max) (h : reader.read max = (.ok chunk, rest)) :
    rest.size + chunk.length ≤ reader.size ∧ (reader.reads ≠ [] → rest.size < reader.size) := by
  unfold read at h
  split at h
  · rename_i hreads
    cases h
    exact ⟨by simp, fun hne => absurd hreads hne⟩
  · cases h
  · rename_i piece reads hreads
    split at h
    · cases h
      have hs : reader.size = chunk.length + 1 + size ⟨reads⟩ := by simp [size, hreads]
      exact ⟨by omega, fun _ => by omega⟩
    · rename_i hlt
      cases h
      have hs : reader.size = piece.length + 1 + size ⟨reads⟩ := by simp [size, hreads]
      have hr : size ⟨.ok (piece.drop max) :: reads⟩ = piece.length - max + 1 + size ⟨reads⟩ := by
        simp [size]
      rw [hs, hr, List.length_take]
      exact ⟨by omega, fun _ => by omega⟩

theorem Open.read (hmax : 0 < max) (ho : reader.Open errors) (result : Except IoError (List UInt8))
    (h : reader.read max = (result, rest)) :
    rest.Open errors ∧ (∀ err, result = .error err → errors err) ∧
      (result = .ok [] → reader.bytes = []) := by
  unfold Reader.read at h
  split at h
  · rename_i hreads
    cases h
    exact ⟨ho, (fun _ he => by cases he), fun _ => by simp [bytes, hreads]⟩
  · rename_i err reads hreads
    cases h
    have herr := ho (.error err) (by rw [hreads]; simp)
    refine ⟨fun r hr => ho r (by rw [hreads]; simp [hr]), ?_, fun he => by cases he⟩
    intro _ he
    cases he
    exact herr
  · rename_i piece reads hreads
    have hpiece : piece ≠ [] := ho (.ok piece) (by rw [hreads]; simp)
    have hreads' : ∀ r ∈ reads, r ∈ reader.reads := fun r hr => by rw [hreads]; simp [hr]
    have hpos := List.length_pos_iff.mpr hpiece
    split at h
    · cases h
      refine ⟨fun r hr => ho r (hreads' r hr), (fun _ he => by cases he), ?_⟩
      intro he
      cases he
      exact absurd rfl hpiece
    · rename_i hlt
      cases h
      refine ⟨?_, (fun _ he => by cases he), ?_⟩
      · intro r hr
        rcases List.mem_cons.mp hr with rfl | hr
        · show piece.drop max ≠ []
          rw [Ne, List.drop_eq_nil_iff]
          omega
        · exact ho r (hreads' r hr)
      · intro he
        have hlen := congrArg List.length (Except.ok.inj he)
        rw [List.length_take, List.length_nil] at hlen
        omega

end Read

/-- What `read_exact` reports where the stream ends too early. -/
def failedToFill : IoError := ⟨.unexpectedEof, "failed to fill whole buffer"⟩

/-- `Read::read_exact` into a buffer of `n` bytes. -/
def readExact (reader : Reader) (n : ℕ) : Except IoError (List UInt8) × Reader :=
  if hn : n = 0 then (.ok [], reader)
  else
    match h : reader.read n with
    | (.error err, rest) =>
      if err.kind = .interrupted then
        have := (read_error h).2
        rest.readExact n
      else (.error err, rest)
    | (.ok [], rest) => (.error failedToFill, rest)
    | (.ok (b :: chunk), rest) =>
      have : rest.size < reader.size := by
        have := (read_size (by omega) h).1
        simp only [List.length_cons] at this
        omega
      match rest.readExact (n - (chunk.length + 1)) with
      | (.error err, left) => (.error err, left)
      | (.ok more, left) => (.ok (b :: chunk ++ more), left)
termination_by reader.size

theorem readExact_ok (n : ℕ) (reader : Reader) {out : List UInt8} {left : Reader}
    (h : reader.readExact n = (.ok out, left)) :
    out.length = n ∧ reader.bytes = out ++ left.bytes ∧ left.size + n ≤ reader.size := by
  fun_induction readExact reader n generalizing out with
  | case1 reader =>
    cases h
    exact ⟨rfl, rfl, le_refl _⟩
  | case2 reader n hn err rest hr hint _ ih =>
    obtain ⟨h1, h2, h3⟩ := ih h
    obtain ⟨hb, hs⟩ := read_error hr
    exact ⟨h1, hb.trans h2, by omega⟩
  | case3 => cases h
  | case4 => cases h
  | case5 => cases h
  | case6 reader n hn b chunk rest hr hlt more left' hx ih =>
    cases h
    obtain ⟨h1, h2, h3⟩ := ih hx
    obtain ⟨hb, hc⟩ := read_ok hr
    have hs := (read_size (by omega) hr).1
    rw [List.length_cons] at hc hs
    refine ⟨?_, ?_, by omega⟩
    · rw [List.length_append, List.length_cons, h1]
      omega
    · rw [hb, h2, List.append_assoc]

/-- A reader whose reads do not fail fills the buffer when the bytes are there. -/
theorem readExact_spec (n : ℕ) (reader : Reader) (ho : reader.Open fun _ => False) :
    (reader.bytes.length < n → ∃ rest, reader.readExact n = (.error failedToFill, rest)) ∧
    (n ≤ reader.bytes.length → ∃ rest, reader.readExact n = (.ok (reader.bytes.take n), rest) ∧
      rest.bytes = reader.bytes.drop n ∧ rest.Open fun _ => False) := by
  fun_induction readExact reader n with
  | case1 reader => exact ⟨by omega, fun _ => ⟨reader, by simp, by simp, ho⟩⟩
  | case2 reader n hn err rest h =>
    exact (((ho.read (by omega) _ h).2.1 err rfl)).elim
  | case3 reader n hn err rest h =>
    exact (((ho.read (by omega) _ h).2.1 err rfl)).elim
  | case4 reader n hn rest h =>
    have hnil := (ho.read (by omega) _ h).2.2 rfl
    refine ⟨fun _ => ⟨rest, rfl⟩, fun hle => ?_⟩
    rw [hnil, List.length_nil] at hle
    omega
  | case5 reader n hn b chunk rest h hlt err left hx ih =>
    obtain ⟨ihs, ihl⟩ := ih (ho.read (by omega) _ h).1
    obtain ⟨hb, hc⟩ := read_ok h
    rw [List.length_cons] at hc
    refine ⟨fun hs => ?_, fun hle => ?_⟩
    · rw [hb, List.length_append, List.length_cons] at hs
      obtain ⟨left', he⟩ := ihs (by omega)
      rw [hx] at he
      cases he
      exact ⟨left, rfl⟩
    · rw [hb, List.length_append, List.length_cons] at hle
      obtain ⟨_, he, -⟩ := ihl (by omega)
      rw [hx] at he
      cases he
  | case6 reader n hn b chunk rest h hlt more left hx ih =>
    obtain ⟨ihs, ihl⟩ := ih (ho.read (by omega) _ h).1
    obtain ⟨hb, hc⟩ := read_ok h
    rw [List.length_cons] at hc
    refine ⟨fun hs => ?_, fun hle => ?_⟩
    · rw [hb, List.length_append, List.length_cons] at hs
      obtain ⟨_, he⟩ := ihs (by omega)
      rw [hx] at he
      cases he
    · rw [hb, List.length_append, List.length_cons] at hle
      obtain ⟨rest', he, hd, ho'⟩ := ihl (by omega)
      rw [hx] at he
      cases he
      refine ⟨left, ?_, ?_, ho'⟩
      · rw [hb, List.take_append, List.take_of_length_le (show (b :: chunk).length ≤ n from hc),
          List.length_cons]
      · rw [hd, hb, List.drop_append, List.drop_of_length_le (show (b :: chunk).length ≤ n from hc),
          List.length_cons, List.nil_append]

end Reader

end OpenfortivpnRs
