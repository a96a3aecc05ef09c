import OpenfortivpnRs.Proxy.MaskArithmetic

/-!
# The counters of the mask conversion

Both copies of `ipv4_mask_to_prefix` count the ones in a `u8`, and the copy of the route table counts the
parts in an `i32`.  The number of parts is looked at behind the loop, so both counters run as long as the
parts do.  The functions here whose names end in `Checked` are the same ones with checked increments; as
long as no increment overflows they compute what the unbounded ones do (`CountsAs.foldlM`).  The ones
overflow exactly when the first 32 parts are all 255 (`foldlM_overflows_iff`).
-/

namespace OpenfortivpnRs

/-- Why a conversion ends without a prefix: it returns `None`, or an increment overflows. -/
inductive MaskStop where
  | none | prefixOverflow | octetsOverflow
  deriving DecidableEq, Repr

/-- The counter of the ones as the byte it is. -/
structure MaskCounter where
  prefixLen : UInt8
  sawZero : Bool
  deriving DecidableEq, Repr

def maskBitChecked (s : MaskCounter) (isOne : Bool) : Except MaskStop MaskCounter :=
  if isOne then
    if s.sawZero then .error .none
    else if s.prefixLen = 255 then .error .prefixOverflow
    else .ok { s with prefixLen := s.prefixLen + 1 }
  else .ok { s with sawZero := true }

def maskOctetChecked (s : MaskCounter) (octet : UInt8) : Except MaskStop MaskCounter :=
  [7, 6, 5, 4, 3, 2, 1, 0].foldlM (fun s (bit : UInt8) => maskBitChecked s (octet &&& (1 <<< bit) != 0)) s

def maskPartChecked (s : MaskCounter) (part : List Char) : Except MaskStop MaskCounter :=
  match Text.parseUnsigned 255 part with
  | some octet => maskOctetChecked s (UInt8.ofNat octet)
  | none => .error .none

/-- `ipv4_mask_to_prefix` of `net_plan.rs`. -/
def Net.ipv4MaskToPrefixChecked (mask : String) : Except MaskStop UInt8 := do
  let s ← (mask.toList.splitOn '.').foldlM maskPartChecked ⟨0, false⟩
  if (mask.toList.splitOn '.').length = 4 then .ok s.prefixLen else .error .none

namespace Proxy

/-- `i32::MAX`. -/
def i32Max : ℕ := 2 ^ 31 - 1

def countPartChecked (counted : ℕ × MaskCounter) (part : List Char) : Except MaskStop (ℕ × MaskCounter) :=
  if counted.1 = i32Max then .error .octetsOverflow
  else do
    let s ← maskPartChecked counted.2 part
    return (counted.1 + 1, s)

/-- `ipv4_mask_to_prefix` of `proxy/route_table.rs`. -/
def ipv4MaskToPrefixChecked (mask : String) : Except MaskStop UInt8 := do
  let (octets, s) ← (mask.toList.splitOn '.').foldlM countPartChecked (0, ⟨0, false⟩)
  if octets = 4 then .ok s.prefixLen else .error .none

/-! ### The byte and the number -/

/-- What a run with checked increments and one with numbers come to, unless an increment overflows. -/
def CountsAs (checked : Except MaskStop MaskCounter) (counted : Option MaskState) : Prop :=
  match checked with
  | .ok s => counted = some ⟨s.prefixLen.toNat, s.sawZero⟩
  | .error .none => counted = none
  | .error _ => True

theorem CountsAs.bind {checked : Except MaskStop MaskCounter} {counted : Option MaskState}
    (h : CountsAs checked counted) {f : MaskCounter → Except MaskStop MaskCounter}
    {g : MaskState → Option MaskState} (hstep : ∀ s, CountsAs (f s) (g ⟨s.prefixLen.toNat, s.sawZero⟩)) :
    CountsAs (checked >>= f) (counted >>= g) := by
  obtain stop | s := checked
  · cases stop with
    | none =>
      rw [show counted = none from h]
      exact rfl
    | prefixOverflow => trivial
    | octetsOverflow => trivial
  · rw [show counted = some _ from h]
    exact hstep s

theorem countsAs_bit (s : MaskCounter) (isOne : Bool) :
    CountsAs (maskBitChecked s isOne) (maskBit ⟨s.prefixLen.toNat, s.sawZero⟩ isOne) := by
  unfold maskBitChecked maskBit
  cases isOne with
  | false => exact rfl
  | true =>
    by_cases hzero : s.sawZero = true
    · simp only [hzero, if_true]
      exact rfl
    · by_cases hmax : s.prefixLen = 255
      · simp [hzero, hmax, CountsAs]
      · have hlt : s.prefixLen.toNat + 1 < 256 := by
          have hne : s.prefixLen.toNat ≠ 255 := fun h => hmax (UInt8.toNat_inj.mp h)
          have := s.prefixLen.toNat_lt
          omega
        have hsucc : (s.prefixLen + 1).toNat = s.prefixLen.toNat + 1 := by
          rw [UInt8.toNat_add, show (1 : UInt8).toNat = 1 from rfl, Nat.mod_eq_of_lt hlt]
        simp [hzero, hmax, CountsAs, hsucc]

theorem countsAs_foldlM {α : Type} {f : MaskCounter → α → Except MaskStop MaskCounter}
    {g : MaskState → α → Option MaskState}
    (hstep : ∀ s a, CountsAs (f s a) (g ⟨s.prefixLen.toNat, s.sawZero⟩ a)) (l : List α) (s : MaskCounter) :
    CountsAs (l.foldlM f s) (l.foldlM g ⟨s.prefixLen.toNat, s.sawZero⟩) := by
  induction l generalizing s with
  | nil => exact rfl
  | cons a l ih =>
    rw [List.foldlM_cons, List.foldlM_cons]
    exact (hstep s a).bind ih

theorem countsAs_octet (s : MaskCounter) (octet : UInt8) :
    CountsAs (maskOctetChecked s octet) (maskOctet ⟨s.prefixLen.toNat, s.sawZero⟩ octet) :=
  countsAs_foldlM (fun s (bit : UInt8) => countsAs_bit s (octet &&& (1 <<< bit) != 0)) _ s

/-- **The loop counts the ones**, unless it overflows. -/
theorem countsAs_part (s : MaskCounter) (part : List Char) :
    CountsAs (maskPartChecked s part) (maskPart ⟨s.prefixLen.toNat, s.sawZero⟩ part) := by
  unfold maskPartChecked maskPart
  cases Text.parseUnsigned 255 part with
  | none => exact rfl
  | some octet => exact countsAs_octet s (UInt8.ofNat octet)

/-! ### When the count of the ones overflows -/

/-- The bits of an octet, from the highest on. -/
def octetBits (octet : UInt8) : List Bool :=
  [7, 6, 5, 4, 3, 2, 1, 0].map fun (bit : UInt8) => octet &&& (1 <<< bit) != 0

theorem maskOctetChecked_eq (s : MaskCounter) (octet : UInt8) :
    maskOctetChecked s octet = (octetBits octet).foldlM maskBitChecked s := by
  unfold maskOctetChecked octetBits
  rw [List.foldlM_map]

/-- Once a zero was seen the count stays. -/
theorem foldlM_bits_zero (bits : List Bool) (p : UInt8) :
    bits.foldlM maskBitChecked ⟨p, true⟩ = .ok ⟨p, true⟩ ∨
      bits.foldlM maskBitChecked ⟨p, true⟩ = .error .none := by
  induction bits with
  | nil => exact .inl rfl
  | cons bit bits ih =>
    rw [List.foldlM_cons]
    cases bit with
    | true => exact .inr rfl
    | false => exact ih

theorem maskPartChecked_zero (p : UInt8) (part : List Char) :
    maskPartChecked ⟨p, true⟩ part = .ok ⟨p, true⟩ ∨ maskPartChecked ⟨p, true⟩ part = .error .none := by
  unfold maskPartChecked
  cases Text.parseUnsigned 255 part with
  | none => exact .inr rfl
  | some octet =>
    dsimp only
    rw [maskOctetChecked_eq]
    exact foldlM_bits_zero _ p

theorem foldlM_zero_no_overflow (parts : List (List Char)) (p : UInt8) (stop : MaskStop)
    (hstop : stop ≠ .none) : parts.foldlM maskPartChecked ⟨p, true⟩ ≠ .error stop := by
  induction parts with
  | nil => exact fun h => by cases h
  | cons part parts ih =>
    rw [List.foldlM_cons]
    rcases maskPartChecked_zero p part with hpart | hpart
    · rw [hpart]
      exact ih
    · rw [hpart]
      exact fun h => hstop (Except.error.inj h).symm

/-- Behind `q` full octets a full octet adds eight ones, and the last that fits in 255 overflows. -/
theorem maskOctetChecked_full : ∀ q < 32, maskOctetChecked ⟨UInt8.ofNat (8 * q), false⟩ 255 =
    if q = 31 then .error .prefixOverflow else .ok ⟨UInt8.ofNat (8 * (q + 1)), false⟩ := by decide

/-- The conversion returned `None`, or saw a zero. -/
def onesEnded (r : Except MaskStop MaskCounter) : Bool :=
  match r with
  | .ok s => s.sawZero
  | .error stop => stop = .none

/-- Where the bits are not all ones, the ones end before the count overflows. -/
theorem onesEnded_bits (bits : List Bool) {n : ℕ} (hn : n + bits.length ≤ 256) (hzero : false ∈ bits) :
    onesEnded (bits.foldlM maskBitChecked ⟨UInt8.ofNat n, false⟩) = true := by
  induction bits generalizing n with
  | nil => cases hzero
  | cons bit bits ih =>
    rw [List.foldlM_cons]
    cases bit with
    | false =>
      show onesEnded (bits.foldlM maskBitChecked ⟨UInt8.ofNat n, true⟩) = true
      rcases foldlM_bits_zero bits (UInt8.ofNat n) with h | h
      · rw [h]
        rfl
      · rw [h]
        rfl
    | true =>
      have hrest : false ∈ bits := (List.mem_cons.mp hzero).resolve_left (by decide)
      have hpos := List.length_pos_of_mem hrest
      rw [List.length_cons] at hn
      have hmax : UInt8.ofNat n ≠ 255 := by
        intro h
        have htoNat := congrArg UInt8.toNat h
        rw [UInt8.toNat_ofNat', Nat.mod_eq_of_lt (by omega)] at htoNat
        have : n = 255 := htoNat
        omega
      have hbit : maskBitChecked ⟨UInt8.ofNat n, false⟩ true = .ok ⟨UInt8.ofNat (n + 1), false⟩ := by
        unfold maskBitChecked
        simp only [if_true, Bool.false_eq_true, if_false, hmax, UInt8.ofNat_add]
        rfl
      rw [hbit]
      exact ih (by omega) hrest

/-- In an octet that is not full the ones end. -/
theorem maskOctetChecked_ends {q : ℕ} (hq : q < 32) {octet : UInt8} (h : octet ≠ 255) :
    onesEnded (maskOctetChecked ⟨UInt8.ofNat (8 * q), false⟩ octet) = true := by
  have hzero : octet ≠ 255 → false ∈ octetBits octet :=
    Lib.Bytes.forall_byte (P := fun octet => octet ≠ 255 → false ∈ octetBits octet) (by decide +kernel) octet
  rw [maskOctetChecked_eq]
  have hlen : (octetBits octet).length = 8 := rfl
  exact onesEnded_bits _ (by omega) (hzero h)

/-- The first 32 parts are all 255. -/
def ThirtyTwoFull (parts : List (List Char)) : Prop :=
  32 ≤ parts.length ∧ ∀ part ∈ parts.take 32, Text.parseUnsigned 255 part = some 255

/-- **The count of the ones overflows** exactly when the parts are full octets until there are 32. -/
theorem foldlM_overflows_iff (parts : List (List Char)) {q : ℕ} (hq : q < 32) :
    parts.foldlM maskPartChecked ⟨UInt8.ofNat (8 * q), false⟩ = .error .prefixOverflow ↔
      32 - q ≤ parts.length ∧ ∀ part ∈ parts.take (32 - q), Text.parseUnsigned 255 part = some 255 := by
  induction parts generalizing q with
  | nil =>
    refine iff_of_false (fun h => by cases h) fun h => ?_
    have := h.1
    rw [List.length_nil] at this
    omega
  | cons part parts ih =>
    have htake : (part :: parts).take (32 - q) = part :: parts.take (32 - (q + 1)) := by
      rw [show 32 - q = 32 - (q + 1) + 1 by omega, List.take_succ_cons]
    rw [List.foldlM_cons, htake, List.forall_mem_cons, List.length_cons]
    by_cases hfull : Text.parseUnsigned 255 part = some 255
    · have hpart : maskPartChecked ⟨UInt8.ofNat (8 * q), false⟩ part =
          maskOctetChecked ⟨UInt8.ofNat (8 * q), false⟩ 255 := by
        unfold maskPartChecked
        rw [hfull]
        rfl
      rw [hpart, maskOctetChecked_full q hq]
      by_cases hlast : q = 31
      · subst hlast
        exact iff_of_true rfl ⟨by omega, hfull, by simp⟩
      · rw [if_neg hlast]
        refine (ih (by omega)).trans ⟨fun h => ⟨by omega, hfull, h.2⟩, fun h => ⟨by omega, h.2.2⟩⟩
    · refine iff_of_false ?_ fun h => hfull h.2.1
      unfold maskPartChecked
      cases hparse : Text.parseUnsigned 255 part with
      | none => exact fun h => by cases h
      | some octet =>
        have hle := Text.parseUnsigned_le hparse
        have hne : UInt8.ofNat octet ≠ 255 := by
          intro h
          have htoNat := congrArg UInt8.toNat h
          rw [UInt8.toNat_ofNat', Nat.mod_eq_of_lt (by omega)] at htoNat
          exact hfull (hparse.trans (congrArg some htoNat))
        have hends : onesEnded (maskOctetChecked ⟨UInt8.ofNat (8 * q), false⟩ (UInt8.ofNat octet)) = true :=
          maskOctetChecked_ends hq hne
        show maskOctetChecked ⟨UInt8.ofNat (8 * q), false⟩ (UInt8.ofNat octet) >>= _ ≠ _
        rcases hrun : maskOctetChecked ⟨UInt8.ofNat (8 * q), false⟩ (UInt8.ofNat octet) with stop | ⟨p, z⟩
        · rw [hrun] at hends
          obtain rfl : stop = .none := of_decide_eq_true hends
          exact fun h => by cases h
        · rw [hrun] at hends
          obtain rfl : z = true := hends
          exact foldlM_zero_no_overflow parts p _ (by decide)

/-! ### The two copies -/

/-- A loop ends only as one of its turns does. -/
theorem foldlM_ne_error {σ α : Type} {f : σ → α → Except MaskStop σ} {stop : MaskStop}
    (hstep : ∀ s a, f s a ≠ .error stop) (l : List α) (s : σ) : l.foldlM f s ≠ .error stop := by
  induction l generalizing s with
  | nil => exact fun h => by cases h
  | cons a l ih =>
    rw [List.foldlM_cons]
    intro h
    cases hturn : f s a with
    | ok t =>
      rw [hturn] at h
      exact ih t h
    | error stop' =>
      rw [hturn] at h
      exact hstep s a (hturn.trans (congrArg _ (Except.error.inj h)))

/-- Converting the parts does not count them. -/
theorem maskPartChecked_ne_octetsOverflow (s : MaskCounter) (part : List Char) :
    maskPartChecked s part ≠ .error .octetsOverflow := by
  have hbit (s : MaskCounter) (bit : Bool) : maskBitChecked s bit ≠ .error .octetsOverflow := by
    unfold maskBitChecked
    split_ifs <;> simp
  unfold maskPartChecked
  cases Text.parseUnsigned 255 part with
  | none => simp
  | some octet =>
    dsimp only
    rw [maskOctetChecked_eq]
    exact foldlM_ne_error hbit _ s

/-- The copy that counts the parts converts as many of them as it can count. -/
theorem foldlM_countPartChecked (parts : List (List Char)) {n : ℕ} (hn : n ≤ i32Max) (s : MaskCounter) :
    parts.foldlM countPartChecked (n, s) = ((parts.take (i32Max - n)).foldlM maskPartChecked s).bind fun s =>
      if n + parts.length ≤ i32Max then .ok (n + parts.length, s) else .error .octetsOverflow := by
  induction parts generalizing n s with
  | nil =>
    rw [List.take_nil, List.length_nil]
    show _ = if n + 0 ≤ i32Max then _ else _
    rw [if_pos (show n + 0 ≤ i32Max from hn)]
    rfl
  | cons part parts ih =>
    rw [List.foldlM_cons, List.length_cons]
    unfold countPartChecked
    by_cases hmax : n = i32Max
    · rw [if_pos hmax, show i32Max - n = 0 by omega, List.take_zero]
      show _ = if n + (parts.length + 1) ≤ i32Max then _ else _
      rw [if_neg (by omega)]
      rfl
    · rw [if_neg hmax, show i32Max - n = i32Max - (n + 1) + 1 by omega, List.take_succ_cons,
        List.foldlM_cons]
      cases maskPartChecked s part with
      | error stop => rfl
      | ok t =>
        show parts.foldlM countPartChecked (n + 1, t) = _
        rw [ih (by omega) t, show n + 1 + parts.length = n + (parts.length + 1) by omega]
        rfl

/-- There are more parts than can be counted, and those that are counted convert: they are numbers up to
255 that make ones, then zeros. -/
def TooManyParts (parts : List (List Char)) : Prop :=
  i32Max < parts.length ∧ ∃ (octets : List UInt8) (k : ℕ),
    (parts.take i32Max).map (Text.parseUnsigned 255) = octets.map (fun octet => some octet.toNat) ∧
      OnesThenZeros octets k

/-- Neither copy counts ones past 255, and both return the same. -/
def ConversionAgrees (mask : String) : Prop :=
  Net.ipv4MaskToPrefixChecked mask ≠ .error .prefixOverflow ∧
    ipv4MaskToPrefixChecked mask ≠ .error .prefixOverflow ∧
    Net.ipv4MaskToPrefixChecked mask = ipv4MaskToPrefixChecked mask

/-- Without an overflow the parts convert when they are ones, then zeros. -/
theorem foldlM_maskPartChecked_isOk {parts : List (List Char)}
    (h : parts.foldlM maskPartChecked ⟨0, false⟩ ≠ .error .prefixOverflow) :
    (∃ s, parts.foldlM maskPartChecked ⟨0, false⟩ = .ok s) ↔
      ∃ (octets : List UInt8) (k : ℕ),
        parts.map (Text.parseUnsigned 255) = octets.map (fun octet => some octet.toNat) ∧
          OnesThenZeros octets k := by
  have hcounts : CountsAs _ (parts.foldlM maskPart ⟨0, false⟩) := countsAs_foldlM countsAs_part parts ⟨0, false⟩
  constructor
  · rintro ⟨s, hs⟩
    rw [hs] at hcounts
    obtain ⟨octets, hoctets⟩ := octets_of_foldlM_maskPart hcounts
    have hfold : parts.foldlM maskPart ⟨0, false⟩ = _ := hcounts
    rw [foldlM_maskPart_octets _ hoctets] at hfold
    obtain ⟨k, -, hones⟩ := onesThenZeros_of_foldlM hfold
    exact ⟨octets, k, hoctets, hones⟩
  · rintro ⟨octets, k, hoctets, hones⟩
    obtain ⟨z, hz⟩ := hones.foldlM 0
    rw [foldlM_maskPart_octets _ hoctets, hz] at hcounts
    rcases hrun : parts.foldlM maskPartChecked ⟨0, false⟩ with stop | s
    · rw [hrun] at hcounts h
      cases stop with
      | none => cases hcounts
      | prefixOverflow => exact absurd rfl h
      | octetsOverflow => exact absurd hrun (foldlM_ne_error maskPartChecked_ne_octetsOverflow parts _)
    · exact ⟨s, rfl⟩

/-- The copy of the plan, by its loop. -/
theorem net_checked_eq (mask : String) : Net.ipv4MaskToPrefixChecked mask =
    ((mask.toList.splitOn '.').foldlM maskPartChecked ⟨0, false⟩).bind fun s =>
      if (mask.toList.splitOn '.').length = 4 then .ok s.prefixLen else .error .none := rfl

/-- The copy of the route table, by the loop of the other one. -/
theorem proxy_checked_eq (mask : String) : ipv4MaskToPrefixChecked mask =
    (((mask.toList.splitOn '.').take i32Max).foldlM maskPartChecked ⟨0, false⟩).bind fun s =>
      if i32Max < (mask.toList.splitOn '.').length then .error .octetsOverflow
      else if (mask.toList.splitOn '.').length = 4 then .ok s.prefixLen else .error .none := by
  have hloop := foldlM_countPartChecked (mask.toList.splitOn '.') (Nat.zero_le i32Max) ⟨0, false⟩
  unfold ipv4MaskToPrefixChecked
  rw [hloop, Nat.sub_zero, Nat.zero_add]
  cases ((mask.toList.splitOn '.').take i32Max).foldlM maskPartChecked ⟨0, false⟩ with
  | error stop => rfl
  | ok s =>
    by_cases hmax : i32Max < (mask.toList.splitOn '.').length
    · simp only [Except.bind, if_pos hmax, if_neg (not_le.mpr hmax)]
      rfl
    · simp only [Except.bind, if_neg hmax, if_pos (not_lt.mp hmax)]
      rfl

/-- **When the conversions agree**: unless the first 32 parts are 255, or more parts convert than an `i32`
counts. -/
theorem conversion_agrees_iff (mask : String) :
    ConversionAgrees mask ↔
      ¬ ThirtyTwoFull (mask.toList.splitOn '.') ∧ ¬ TooManyParts (mask.toList.splitOn '.') := by
  unfold ConversionAgrees
  rw [net_checked_eq, proxy_checked_eq]
  generalize mask.toList.splitOn '.' = parts
  have hfull := foldlM_overflows_iff parts (show 0 < 32 by decide)
  have hfullTake := foldlM_overflows_iff (parts.take i32Max) (show 0 < 32 by decide)
  have hzero : UInt8.ofNat (8 * 0) = 0 := rfl
  rw [hzero, Nat.sub_zero] at hfull hfullTake
  by_cases hones : ThirtyTwoFull parts
  · refine iff_of_false (fun h => h.1 ?_) fun h => h.1 hones
    rw [hfull.mpr hones]
    rfl
  have hno : parts.foldlM maskPartChecked ⟨0, false⟩ ≠ .error .prefixOverflow := fun h => hones (hfull.mp h)
  have hnoTake : (parts.take i32Max).foldlM maskPartChecked ⟨0, false⟩ ≠ .error .prefixOverflow := by
    intro h
    obtain ⟨hlen, hall⟩ := hfullTake.mp h
    rw [List.length_take] at hlen
    rw [List.take_take, show min 32 i32Max = 32 by decide] at hall
    exact hones ⟨by omega, hall⟩
  have hstop : ∀ {ps : List (List Char)}, ps.foldlM maskPartChecked ⟨0, false⟩ ≠ .error .prefixOverflow →
      (∃ s, ps.foldlM maskPartChecked ⟨0, false⟩ = .ok s) ∨
        ps.foldlM maskPartChecked ⟨0, false⟩ = .error .none := by
    intro ps hps
    rcases hrun : ps.foldlM maskPartChecked ⟨0, false⟩ with stop | s
    · cases stop with
      | none => exact .inr rfl
      | prefixOverflow => exact absurd hrun hps
      | octetsOverflow => exact absurd hrun (foldlM_ne_error maskPartChecked_ne_octetsOverflow ps _)
    · exact .inl ⟨s, rfl⟩
  by_cases hmax : i32Max < parts.length
  · -- more parts than are counted: the other copy stops at the count, or where this one stops
    have hsplit : parts.foldlM maskPartChecked ⟨0, false⟩ =
        (parts.take i32Max).foldlM maskPartChecked ⟨0, false⟩ >>=
          fun s => (parts.drop i32Max).foldlM maskPartChecked s := by
      rw [← List.foldlM_append, List.take_append_drop]
    have hfour : ¬ parts.length = 4 := by
      unfold i32Max at hmax
      omega
    rcases hstop hnoTake with ⟨s, hs⟩ | hnone
    · refine iff_of_false (fun h => ?_) fun h => h.2 ⟨hmax, (foldlM_maskPartChecked_isOk hnoTake).mp ⟨s, hs⟩⟩
      have heq := h.2.2
      rw [hs] at heq
      simp only [Except.bind, if_pos hmax, if_neg hfour] at heq
      rcases hstop hno with ⟨t, ht⟩ | hnone
      · rw [ht] at heq
        cases heq
      · rw [hnone] at heq
        cases heq
    · refine iff_of_true ?_ ⟨hones, fun h => ?_⟩
      · rw [hsplit, hnone]
        exact ⟨by simp [bind, Except.bind], by simp [Except.bind], rfl⟩
      · obtain ⟨s, hs⟩ := (foldlM_maskPartChecked_isOk hnoTake).mpr h.2
        cases hs.symm.trans hnone
  · refine iff_of_true ?_ ⟨hones, fun h => hmax h.1⟩
    rw [List.take_of_length_le (not_lt.mp hmax)]
    simp only [if_neg hmax, and_true]
    rcases hstop hno with ⟨s, hs⟩ | hnone
    · rw [hs]
      simp only [Except.bind]
      split <;> simp
    · rw [hnone]
      simp [Except.bind]

/-- With numbers for counters the two copies are one function. -/
theorem ipv4MaskToPrefix_eq_net (mask : String) : ipv4MaskToPrefix mask = Net.ipv4MaskToPrefix mask := by
  unfold ipv4MaskToPrefix Net.ipv4MaskToPrefix
  rw [foldlM_countPart]
  cases (mask.toList.splitOn '.').foldlM maskPart ⟨0, false⟩ with
  | none => rfl
  | some s => simp

/-- **Without an overflow** the checked conversions are those with numbers for counters. -/
theorem checked_eq_counted {mask : String} (h : ConversionAgrees mask) :
    (Net.ipv4MaskToPrefixChecked mask).toOption.map UInt8.toNat = Net.ipv4MaskToPrefix mask ∧
      (ipv4MaskToPrefixChecked mask).toOption.map UInt8.toNat = ipv4MaskToPrefix mask := by
  rw [ipv4MaskToPrefix_eq_net, ← h.2.2, and_self]
  have hno := h.1
  have hcounts : CountsAs _ ((mask.toList.splitOn '.').foldlM maskPart ⟨0, false⟩) :=
    countsAs_foldlM countsAs_part (mask.toList.splitOn '.') ⟨0, false⟩
  rw [net_checked_eq] at hno ⊢
  unfold Net.ipv4MaskToPrefix
  rcases hrun : (mask.toList.splitOn '.').foldlM maskPartChecked ⟨0, false⟩ with stop | s
  · rw [hrun] at hno hcounts
    cases stop with
    | none =>
      rw [show _ = none from hcounts]
      rfl
    | prefixOverflow => exact absurd rfl hno
    | octetsOverflow => exact absurd hrun (foldlM_ne_error maskPartChecked_ne_octetsOverflow _ _)
  · rw [hrun] at hcounts
    rw [show _ = some _ from hcounts]
    simp only [Except.bind, Option.bind_eq_bind, Option.bind_some]
    split <;> rfl

/-- Thirty-two full octets overflow the count of the ones, in both copies. -/
theorem conversion_overflows :
    Net.ipv4MaskToPrefixChecked (String.intercalate "." (List.replicate 32 "255")) = .error .prefixOverflow ∧
      ¬ ∀ mask, ConversionAgrees mask := by
  have hrun : Net.ipv4MaskToPrefixChecked (String.intercalate "." (List.replicate 32 "255")) =
      .error .prefixOverflow := by decide +kernel
  exact ⟨hrun, fun h => (h _).1 hrun⟩

end Proxy

end OpenfortivpnRs
