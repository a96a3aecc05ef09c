import OpenfortivpnRs.Http.Receive

/-!
# Splittings of a stream

The ways to cut a stream into reads, and where a reading loop stops on one.  A loop whose verdict is
reached from a length on stops at the first cut from that length on (`readUntil_threshold`), and
`cutAt` splits a stream so that this is any cut up to 4096 bytes further (`readUntil_cutAt`).
-/

namespace OpenfortivpnRs.Http

/-! ### Finding bytes in a first part -/

section Find

variable {needle haystack : List UInt8} {i n : ℕ}

theorem prefix_take_cons {b : UInt8} :
    needle <+: b :: haystack.take n ↔ needle <+: b :: haystack ∧ needle.length ≤ n + 1 := by
  rw [← List.take_succ_cons]
  exact List.prefix_take_iff

/-- An occurrence that ends in a first part is found there. -/
theorem findBytes_take (hne : needle ≠ []) (h : findBytes needle haystack = some i)
    (hn : i + needle.length ≤ n) : findBytes needle (haystack.take n) = some i := by
  have hpos := List.length_pos_iff.mpr hne
  induction haystack generalizing i n with
  | nil => cases h
  | cons b haystack ih =>
    by_cases hhere : needle <+: b :: haystack
    · unfold findBytes at h
      rw [if_pos hhere] at h
      cases h
      obtain ⟨n, rfl⟩ : ∃ m, n = m + 1 := ⟨n - 1, by omega⟩
      rw [List.take_succ_cons]
      unfold findBytes
      rw [if_pos (prefix_take_cons.mpr ⟨hhere, by omega⟩)]
    · unfold findBytes at h
      rw [if_neg hhere] at h
      obtain ⟨j, hj, rfl⟩ := Option.map_eq_some_iff.mp h
      obtain ⟨n, rfl⟩ : ∃ m, n = m + 1 := ⟨n - 1, by omega⟩
      rw [List.take_succ_cons]
      unfold findBytes
      rw [if_neg fun hp => hhere (prefix_take_cons.mp hp).1, ih hj (by omega)]
      rfl

/-- An occurrence in a first part is one in the whole. -/
theorem findBytes_of_take (h : findBytes needle (haystack.take n) = some i) :
    findBytes needle haystack = some i ∧ i + needle.length ≤ n := by
  induction haystack generalizing i n with
  | nil =>
    rw [List.take_nil] at h
    cases h
  | cons b haystack ih =>
    cases n with
    | zero => cases h
    | succ n =>
      rw [List.take_succ_cons] at h
      unfold findBytes at h ⊢
      by_cases hhere : needle <+: b :: haystack.take n
      · rw [if_pos hhere] at h
        cases h
        obtain ⟨h1, h2⟩ := prefix_take_cons.mp hhere
        rw [if_pos h1]
        exact ⟨rfl, by omega⟩
      · rw [if_neg hhere] at h
        obtain ⟨j, hj, rfl⟩ := Option.map_eq_some_iff.mp h
        obtain ⟨h1, h2⟩ := ih hj
        rw [if_neg fun hp => hhere (prefix_take_cons.mpr ⟨hp, by omega⟩), h1]
        exact ⟨rfl, by omega⟩

/-- An occurrence that ends behind a first part is not found there. -/
theorem findBytes_take_none (h : findBytes needle haystack = some i)
    (hn : n < i + needle.length) : findBytes needle (haystack.take n) = none := by
  by_contra hsome
  obtain ⟨j, hj⟩ := Option.ne_none_iff_exists'.mp hsome
  obtain ⟨h1, h2⟩ := findBytes_of_take hj
  rw [h, Option.some.injEq] at h1
  omega

/-- What is in a first part is in a longer one. -/
theorem findBytes_isSome_mono (hne : needle ≠ []) {m : ℕ} (hmn : m ≤ n)
    (h : (findBytes needle (haystack.take m)).isSome) : (findBytes needle (haystack.take n)).isSome := by
  obtain ⟨j, hj⟩ := Option.isSome_iff_exists.mp h
  obtain ⟨h1, h2⟩ := findBytes_of_take hj
  rw [findBytes_take hne h1 (by omega)]
  rfl

theorem findBytes_le (h : findBytes needle haystack = some i) :
    i + needle.length ≤ haystack.length := by
  have htake : findBytes needle (haystack.take haystack.length) = some i := by
    rwa [List.take_length]
  exact (findBytes_of_take htake).2

/-- Bytes in which nothing starts are passed. -/
theorem findBytes_skip {before : List UInt8} (rest : List UInt8)
    (h : ∀ front back, before = front ++ back → back ≠ [] → ¬ needle <+: back ++ rest) :
    findBytes needle (before ++ rest) = (findBytes needle rest).map (before.length + ·) := by
  induction before with
  | nil => simp
  | cons b before ih =>
    have hrest := ih fun front back hsplit hback => h (b :: front) back (by rw [hsplit, List.cons_append]) hback
    have hhere : ¬ needle <+: b :: (before ++ rest) := h [] (b :: before) rfl (List.cons_ne_nil _ _)
    rw [List.cons_append, findBytes, if_neg hhere, hrest, Option.map_map]
    congr 1
    funext i
    simp only [Function.comp_apply, List.length_cons]
    omega

/-- Nothing starts in bytes that are not the first of what is looked for. -/
theorem findBytes_append {b : UInt8} {before : List UInt8} (rest : List UInt8) (h : b ∉ before) :
    findBytes (b :: needle) (before ++ rest) = (findBytes (b :: needle) rest).map (before.length + ·) := by
  refine findBytes_skip rest fun front back hsplit hback hp => h ?_
  obtain ⟨c, back, rfl⟩ := List.exists_cons_of_ne_nil hback
  rw [(List.cons_prefix_cons.mp hp).1, hsplit]
  exact List.mem_append_right _ List.mem_cons_self

/-- What is there is found there or before. -/
theorem findBytes_needle {front back : List UInt8} (hne : needle ≠ []) :
    ∃ i, findBytes needle (front ++ (needle ++ back)) = some i ∧ i ≤ front.length := by
  induction front with
  | nil =>
    obtain ⟨b, needle, rfl⟩ := List.exists_cons_of_ne_nil hne
    refine ⟨0, ?_, le_rfl⟩
    rw [List.nil_append, List.cons_append, findBytes, if_pos]
    exact List.prefix_append (b :: needle) back
  | cons b front ih =>
    obtain ⟨i, hi, hle⟩ := ih
    rw [List.cons_append, findBytes, hi]
    split
    · exact ⟨0, rfl, Nat.zero_le _⟩
    · exact ⟨i + 1, rfl, Nat.succ_le_succ hle⟩

theorem findBytes_eq_none_iff (hne : needle ≠ []) : findBytes needle haystack = none ↔ ¬ needle <:+: haystack := by
  induction haystack with
  | nil => simp [findBytes, hne]
  | cons b haystack ih =>
    unfold findBytes
    rw [List.infix_cons_iff]
    by_cases hhere : needle <+: b :: haystack
    · simp [hhere]
    · simp [hhere, ih]

end Find

/-! ### Splittings -/

/-- A way to cut the bytes of a stream into reads. -/
structure Splits (bs : List UInt8) (pieces : List (List UInt8)) : Prop where
  flatten : pieces.flatten = bs
  pieces : ∀ p ∈ pieces, p ≠ [] ∧ p.length ≤ readChunkSize

/-- The reads of a splitting, after which the server closes the connection. -/
def readerOf (pieces : List (List UInt8)) : Reader := ⟨pieces.map .ok⟩

namespace Splits

variable {bs : List UInt8} {before after : List (List UInt8)}

theorem append {as : List UInt8} (ha : Splits as before) (hb : Splits bs after) :
    Splits (as ++ bs) (before ++ after) where
  flatten := by rw [List.flatten_append, ha.flatten, hb.flatten]
  pieces p hp := (List.mem_append.mp hp).elim (ha.pieces p) (hb.pieces p)

/-- The two sides of a cut are a first part and the rest. -/
theorem of_append (h : Splits bs (before ++ after)) :
    before.flatten = bs.take before.flatten.length ∧ Splits (bs.drop before.flatten.length) after ∧
      before.flatten.length ≤ bs.length := by
  have hflat := h.flatten
  rw [List.flatten_append] at hflat
  refine ⟨?_, ⟨?_, fun p hp => h.pieces p (List.mem_append_right _ hp)⟩, ?_⟩
  · rw [← hflat, List.take_left']
    rfl
  · rw [← hflat, List.drop_left']
    rfl
  · rw [← hflat, List.length_append]
    omega

end Splits

/-- The numbers of bytes behind which a read begins or the stream ends. -/
def cuts (pieces : List (List UInt8)) : List ℕ := pieces.inits.map fun before => before.flatten.length

section Cuts

variable {pieces before after : List (List UInt8)} {n : ℕ}

theorem mem_cuts : n ∈ cuts pieces ↔ ∃ before after, pieces = before ++ after ∧ before.flatten.length = n := by
  unfold cuts
  rw [List.mem_map]
  constructor
  · rintro ⟨before, hbefore, rfl⟩
    obtain ⟨after, rfl⟩ := List.mem_inits _ _ |>.mp hbefore
    exact ⟨before, after, rfl, rfl⟩
  · rintro ⟨before, after, rfl, rfl⟩
    exact ⟨before, (List.mem_inits _ _).mpr (List.prefix_append _ _), rfl⟩

/-- The cuts of the pieces behind a cut. -/
theorem mem_cuts_append (hn : before.flatten.length ≤ n) :
    n ∈ cuts (before ++ after) ↔ n - before.flatten.length ∈ cuts after := by
  rw [mem_cuts, mem_cuts]
  constructor
  · rintro ⟨front, back, hsplit, rfl⟩
    rcases List.append_eq_append_iff.mp hsplit with ⟨more, rfl, rfl⟩ | ⟨more, rfl, rfl⟩
    · refine ⟨more, back, rfl, ?_⟩
      rw [List.flatten_append, List.length_append]
      omega
    · refine ⟨[], _, rfl, ?_⟩
      rw [List.flatten_append, List.length_append] at hn ⊢
      simp only [List.flatten_nil, List.length_nil]
      omega
  · rintro ⟨front, back, rfl, hlen⟩
    refine ⟨before ++ front, back, by rw [List.append_assoc], ?_⟩
    rw [List.flatten_append, List.length_append]
    omega

/-- The first cut from a length on is the least. -/
theorem le_cut_of_first {limit : ℕ}
    (hfirst : ∀ front back, before = front ++ back → back ≠ [] → front.flatten.length < limit)
    (hn : n ∈ cuts (before ++ after)) (hlimit : limit ≤ n) : before.flatten.length ≤ n := by
  obtain ⟨front, back, hsplit, rfl⟩ := mem_cuts.mp hn
  rcases List.append_eq_append_iff.mp hsplit with ⟨more, rfl, -⟩ | ⟨more, rfl, -⟩
  · rw [List.flatten_append, List.length_append]
    omega
  · by_cases hmore : more = []
    · rw [hmore, List.append_nil]
    · have := hfirst front more rfl hmore
      omega

end Cuts

section Loop

variable {α : Type} {verdict : List UInt8 → Option (Result α)} {closed : OpenfortivpnError}

/-- A loop that is not done reads the next piece. -/
theorem readUntil_cons {buffer piece : List UInt8} (pieces : List (List UInt8))
    (hv : verdict buffer = none) (hpiece : piece ≠ [] ∧ piece.length ≤ readChunkSize) :
    readUntil verdict closed buffer (readerOf (piece :: pieces)) =
      readUntil verdict closed (buffer ++ piece) (readerOf pieces) := by
  obtain ⟨b, chunk, rfl⟩ := List.exists_cons_of_ne_nil hpiece.1
  have hread : (readerOf ((b :: chunk) :: pieces)).read readChunkSize =
      (.ok (b :: chunk), readerOf pieces) := by
    unfold Reader.read readerOf
    simp only [List.map_cons]
    rw [if_pos hpiece.2]
  rw [readUntil, hv]
  simp only
  split
  · rename_i h
    rw [hread] at h
    cases h
  · rename_i h
    rw [hread] at h
    cases h
  · rename_i h
    rw [hread] at h
    cases h
    rfl

/-- A loop that is not done when the stream ends. -/
theorem readUntil_nil {buffer : List UInt8} (hv : verdict buffer = none) :
    readUntil verdict closed buffer (readerOf []) = (.error closed, readerOf []) := by
  rw [readUntil, hv]
  simp only
  split
  · rename_i h
    cases h
  · rename_i h
    cases h
    rfl
  · rename_i h
    cases h

/-- A loop that is done. -/
theorem readUntil_done {buffer : List UInt8} {reader : Reader} {a : α}
    (hv : verdict buffer = some (.ok a)) :
    readUntil verdict closed buffer reader = (.ok (a, buffer), reader) := by
  rw [readUntil, hv]

theorem readUntil_refused {buffer : List UInt8} {reader : Reader} {err : OpenfortivpnError}
    (hv : verdict buffer = some (.error err)) :
    readUntil verdict closed buffer reader = (.error err, reader) := by
  rw [readUntil, hv]

/-- The pieces at whose starts the loop is not done are read. -/
theorem readUntil_append {before after : List (List UInt8)} {buffer : List UInt8}
    (hpieces : ∀ p ∈ before, p ≠ [] ∧ p.length ≤ readChunkSize)
    (hv : ∀ front back, before = front ++ back → back ≠ [] → verdict (buffer ++ front.flatten) = none) :
    readUntil verdict closed buffer (readerOf (before ++ after)) =
      readUntil verdict closed (buffer ++ before.flatten) (readerOf after) := by
  induction before generalizing buffer with
  | nil => simp
  | cons p before ih =>
    have hnone : verdict buffer = none := by simpa using hv [] (p :: before) rfl (by simp)
    rw [List.cons_append, readUntil_cons _ hnone (hpieces p List.mem_cons_self),
      ih (fun q hq => hpieces q (List.mem_cons_of_mem _ hq)), List.flatten_cons, List.append_assoc]
    intro front back hsplit hback
    have := hv (p :: front) back (by rw [hsplit, List.cons_append]) hback
    rwa [List.flatten_cons, ← List.append_assoc] at this

variable (closed)

/-- **How a loop ends.**  It stops at the first cut where its verdict is reached, or at the end of the
stream. -/
theorem readUntil_cases (pieces : List (List UInt8)) (buffer : List UInt8)
    (hpieces : ∀ p ∈ pieces, p ≠ [] ∧ p.length ≤ readChunkSize) :
    (∃ before after, pieces = before ++ after ∧
      (∀ front back, before = front ++ back → back ≠ [] → verdict (buffer ++ front.flatten) = none) ∧
      ((∃ a, verdict (buffer ++ before.flatten) = some (.ok a) ∧
        readUntil verdict closed buffer (readerOf pieces) =
          (.ok (a, buffer ++ before.flatten), readerOf after)) ∨
      ∃ err, verdict (buffer ++ before.flatten) = some (.error err) ∧
        readUntil verdict closed buffer (readerOf pieces) = (.error err, readerOf after))) ∨
    (verdict (buffer ++ pieces.flatten) = none ∧
      readUntil verdict closed buffer (readerOf pieces) = (.error closed, readerOf [])) := by
  induction pieces generalizing buffer with
  | nil =>
    rcases hv : verdict buffer with _ | (err | a)
    · exact .inr ⟨by simpa using hv, readUntil_nil hv⟩
    · refine .inl ⟨[], [], rfl, by simp, .inr ⟨err, by simpa using hv, readUntil_refused hv⟩⟩
    · refine .inl ⟨[], [], rfl, by simp, .inl ⟨a, by simpa using hv, ?_⟩⟩
      simpa using readUntil_done hv
  | cons p pieces ih =>
    rcases hv : verdict buffer with _ | (err | a)
    · have hrun := @readUntil_cons _ _ closed _ _ pieces hv (hpieces p List.mem_cons_self)
      rw [hrun]
      have hrest := ih (buffer ++ p) fun q hq => hpieces q (List.mem_cons_of_mem _ hq)
      rw [List.flatten_cons, ← List.append_assoc]
      rcases hrest with ⟨before, after, rfl, hnone, hend⟩ | hend
      · refine .inl ⟨p :: before, after, rfl, ?_, ?_⟩
        · intro front back hsplit hback
          cases front with
          | nil => simpa using hv
          | cons q front =>
            rw [List.cons_append, List.cons.injEq] at hsplit
            obtain ⟨rfl, hsplit⟩ := hsplit
            rw [List.flatten_cons, ← List.append_assoc]
            exact hnone front back hsplit hback
        · rwa [List.flatten_cons, ← List.append_assoc]
      · exact .inr hend
    · refine .inl ⟨[], p :: pieces, rfl, by simp, .inr ⟨err, by simpa using hv, readUntil_refused hv⟩⟩
    · refine .inl ⟨[], p :: pieces, rfl, by simp, .inl ⟨a, by simpa using hv, ?_⟩⟩
      simpa using readUntil_done hv

/-- **Where a loop stops.**  The verdict on the first bytes of `bs` is reached from `limit` bytes on,
and `start` bytes are buffered: the loop stops at the least cut from there on. -/
theorem readUntil_first {bs : List UInt8} {start limit : ℕ} {pieces : List (List UInt8)}
    (hstart : start ≤ bs.length) (hsplits : Splits (bs.drop start) pieces)
    (hlimit : ∀ n ≤ bs.length, verdict (bs.take n) = none ↔ n < limit) :
    (bs.length < limit ∧
      readUntil verdict closed (bs.take start) (readerOf pieces) = (.error closed, readerOf [])) ∨
    ∃ before after, pieces = before ++ after ∧ limit ≤ start + before.flatten.length ∧
      start + before.flatten.length ≤ bs.length ∧
      (∀ front back, before = front ++ back → back ≠ [] → start + front.flatten.length < limit) ∧
      ((∃ a, verdict (bs.take (start + before.flatten.length)) = some (.ok a) ∧
        readUntil verdict closed (bs.take start) (readerOf pieces) =
          (.ok (a, bs.take (start + before.flatten.length)), readerOf after)) ∨
      ∃ err, verdict (bs.take (start + before.flatten.length)) = some (.error err) ∧
        readUntil verdict closed (bs.take start) (readerOf pieces) = (.error err, readerOf after)) := by
  have hbuffer : ∀ front back, pieces = front ++ back →
      bs.take start ++ front.flatten = bs.take (start + front.flatten.length) ∧
        start + front.flatten.length ≤ bs.length := by
    intro front back hfront
    obtain ⟨hflat, -, hle⟩ := (hfront ▸ hsplits).of_append
    rw [List.length_drop] at hle
    refine ⟨?_, by omega⟩
    rw [List.take_add, ← hflat]
  rcases @readUntil_cases _ verdict closed pieces (bs.take start) hsplits.pieces with
    ⟨before, after, rfl, hnone, hend⟩ | ⟨hv, hend⟩
  · obtain ⟨heq, hle⟩ := hbuffer before after rfl
    rw [heq] at hend
    have hreached : limit ≤ start + before.flatten.length := by
      have hsome : verdict (bs.take (start + before.flatten.length)) ≠ none := by
        intro hv
        rw [hv] at hend
        rcases hend with ⟨a, h, -⟩ | ⟨err, h, -⟩ <;> cases h
      rw [ne_eq, hlimit _ hle] at hsome
      omega
    refine .inr ⟨before, after, rfl, hreached, hle, fun front back hsplit hback => ?_, hend⟩
    have hfront := hnone front back hsplit hback
    obtain ⟨hi, hile⟩ := hbuffer front (back ++ after) (by rw [hsplit, List.append_assoc])
    rwa [hi, hlimit _ hile] at hfront
  · obtain ⟨heq, hle⟩ := hbuffer pieces [] (by simp)
    have hall : start + pieces.flatten.length = bs.length := by
      rw [hsplits.flatten, List.length_drop]
      omega
    rw [heq, hlimit _ hle, hall] at hv
    exact .inl ⟨hv, hend⟩

/-- A loop stops within one read of the length from which it may. -/
theorem readUntil_threshold {bs : List UInt8} {start limit : ℕ} {pieces : List (List UInt8)}
    (hstart : start ≤ bs.length) (hsplits : Splits (bs.drop start) pieces)
    (hlimit : ∀ n ≤ bs.length, verdict (bs.take n) = none ↔ n < limit) :
    (bs.length < limit ∧
      readUntil verdict closed (bs.take start) (readerOf pieces) = (.error closed, readerOf [])) ∨
    ∃ stop after, start ≤ stop ∧ limit ≤ stop ∧ stop ≤ bs.length ∧
      (stop = start ∨ stop < limit + readChunkSize) ∧ Splits (bs.drop stop) after ∧
      ((∃ a, verdict (bs.take stop) = some (.ok a) ∧
        readUntil verdict closed (bs.take start) (readerOf pieces) =
          (.ok (a, bs.take stop), readerOf after)) ∨
      ∃ err, verdict (bs.take stop) = some (.error err) ∧
        readUntil verdict closed (bs.take start) (readerOf pieces) = (.error err, readerOf after)) := by
  rcases readUntil_first closed hstart hsplits hlimit with hend | ⟨before, after, rfl, hreached, hle, hfirst, hend⟩
  · exact .inl hend
  refine .inr ⟨start + before.flatten.length, after, by omega, hreached, hle, ?_, ?_, hend⟩
  · rcases List.eq_nil_or_concat before with rfl | ⟨init, last, rfl⟩
    · exact .inl (by simp)
    · refine .inr ?_
      have hinit := hfirst init [last] (by simp) (by simp)
      have hlast := (hsplits.pieces last (by simp)).2
      rw [List.concat_eq_append, List.flatten_append, List.length_append, List.flatten_singleton]
      omega
  · have := hsplits.of_append.2.1
    rwa [List.drop_drop] at this

end Loop

/-! ### Splittings that stop where they should -/

/-- The bytes one by one, those between `lo` and `hi` in one read. -/
def cutAt (lo hi : ℕ) (bs : List UInt8) : List (List UInt8) :=
  (bs.take lo).map (fun b => [b]) ++ (bs.drop lo).take (hi - lo) :: (bs.drop hi).map fun b => [b]

theorem splits_bytes (bs : List UInt8) : Splits bs (bs.map fun b => [b]) where
  flatten := by
    induction bs with
    | nil => rfl
    | cons b bs ih => rw [List.map_cons, List.flatten_cons, ih, List.singleton_append]
  pieces p hp := by
    obtain ⟨b, -, rfl⟩ := List.mem_map.mp hp
    refine ⟨List.cons_ne_nil _ _, ?_⟩
    rw [List.length_singleton]
    decide

section Cut

variable {bs : List UInt8} {lo hi : ℕ}

theorem splits_cutAt (hlo : lo < hi) (hhi : hi ≤ bs.length) (hsize : hi ≤ lo + readChunkSize) :
    Splits bs (cutAt lo hi bs) := by
  have hmiddle : Splits ((bs.drop lo).take (hi - lo)) [(bs.drop lo).take (hi - lo)] := by
    refine ⟨List.flatten_singleton, fun p hp => ?_⟩
    rw [List.mem_singleton] at hp
    subst hp
    rw [ne_eq, ← List.length_eq_zero_iff, List.length_take, List.length_drop]
    omega
  have hsplits := (splits_bytes (bs.take lo)).append (hmiddle.append (splits_bytes (bs.drop hi)))
  have hbs : bs.take lo ++ ((bs.drop lo).take (hi - lo) ++ bs.drop hi) = bs := by
    rw [← List.append_assoc, ← List.take_add, Nat.add_sub_cancel' hlo.le, List.take_append_drop]
  rwa [hbs] at hsplits

/-- A loop that starts with an empty buffer and whose verdict is reached from some length on, between
`lo` and `hi`, stops at `hi`. -/
theorem readUntil_cutAt {α : Type} {verdict : List UInt8 → Option (Result α)}
    (closed : OpenfortivpnError) (rest : List (List UInt8)) (hlo : lo < hi) (hhi : hi ≤ bs.length)
    (hsize : hi ≤ lo + readChunkSize) (hnone : ∀ n ≤ lo, verdict (bs.take n) = none) :
    readUntil verdict closed [] (readerOf (cutAt lo hi bs ++ rest)) =
      readUntil verdict closed (bs.take hi)
        (readerOf ((bs.drop hi).map (fun b => [b]) ++ rest)) := by
  have hsplits := splits_cutAt hlo hhi hsize
  have hbytes := splits_bytes (bs.take lo)
  have hcut : cutAt lo hi bs ++ rest =
      (((bs.take lo).map fun b => [b]) ++ [(bs.drop lo).take (hi - lo)]) ++
        ((bs.drop hi).map (fun b => [b]) ++ rest) := by
    unfold cutAt
    rw [List.append_cons, List.append_assoc]
  have hread : (((bs.take lo).map fun b => [b]) ++ [(bs.drop lo).take (hi - lo)]).flatten =
      bs.take hi := by
    rw [List.flatten_append, hbytes.flatten, List.flatten_singleton, ← List.take_add,
      Nat.add_sub_cancel' hlo.le]
  have hpieces : ∀ p ∈ ((bs.take lo).map fun b => [b]) ++ [(bs.drop lo).take (hi - lo)],
      p ≠ [] ∧ p.length ≤ readChunkSize := by
    intro p hp
    refine hsplits.pieces p ?_
    unfold cutAt
    rw [List.append_cons]
    exact List.mem_append_left _ hp
  rw [hcut, readUntil_append hpieces, hread, List.nil_append]
  -- a cut before the last one lies in the bytes that come one by one
  intro front back hfront hback
  obtain ⟨init, last, rfl⟩ := List.eq_nil_or_concat back |>.resolve_left hback
  rw [List.concat_eq_append, ← List.append_assoc] at hfront
  obtain ⟨hinit, -⟩ := List.append_inj' hfront rfl
  obtain ⟨hflat, -, hle⟩ := (hinit ▸ hbytes).of_append
  rw [List.length_take] at hle
  rw [List.nil_append, hflat, List.take_take]
  exact hnone _ (by omega)

end Cut

end OpenfortivpnRs.Http
