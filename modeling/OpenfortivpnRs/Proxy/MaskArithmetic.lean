import OpenfortivpnRs.Lib.Bytes
import OpenfortivpnRs.Proxy.RouteTable

/-!
# Routes as mask arithmetic

The conversion of a mask goes through its bits and keeps a count.  What it accepts are full octets,
then one octet in which the ones end, then zeros (`foldlM_maskOctet_iff`); of four octets these are the
blocks of ones followed by zeros (`toU32_isBlock_iff`), and the count is the length of the prefix mask
that the block is.  So a route covers an address when the two agree under the mask as it was written
(`contains_fromAddrAndMask_iff`).
-/

namespace OpenfortivpnRs.Proxy

open Auth Net Lib.Bytes

/-! ### Octets of ones and zeros -/

/-- The octet of `j` ones followed by zeros. -/
def blockOctet (j : ℕ) : UInt8 := UInt8.ofNat (256 - 2 ^ (8 - j))

/-- Octets whose `k` ones all stand in front of their zeros. -/
inductive OnesThenZeros : List UInt8 → ℕ → Prop
  | nil : OnesThenZeros [] 0
  | full {octets : List UInt8} {k : ℕ} (h : OnesThenZeros octets k) : OnesThenZeros (255 :: octets) (k + 8)
  | ends {j : ℕ} (hj : j < 8) (zeros : ℕ) : OnesThenZeros (blockOctet j :: List.replicate zeros 0) j

theorem maskBit_add (n : ℕ) (s : MaskState) (isOne : Bool) :
    maskBit ⟨n + s.prefixLen, s.sawZero⟩ isOne =
      (maskBit s isOne).map fun s => ⟨n + s.prefixLen, s.sawZero⟩ := by
  obtain ⟨k, z⟩ := s
  cases isOne <;> cases z <;> rfl

/-- The count an octet starts from is added to what it counts. -/
theorem maskOctet_add (n : ℕ) (s : MaskState) (octet : UInt8) :
    maskOctet ⟨n + s.prefixLen, s.sawZero⟩ octet =
      (maskOctet s octet).map fun s => ⟨n + s.prefixLen, s.sawZero⟩ := by
  unfold maskOctet
  generalize [7, 6, 5, 4, 3, 2, 1, (0 : UInt8)] = bits
  induction bits generalizing s with
  | nil => rfl
  | cons bit bits ih =>
    rw [List.foldlM_cons, List.foldlM_cons, maskBit_add]
    cases maskBit s (octet &&& (1 <<< bit) != 0) with
    | none => rfl
    | some s' => exact ih s'

/-- Once a zero was seen only zeros are accepted. -/
theorem maskOctet_zero (n : ℕ) (octet : UInt8) :
    maskOctet ⟨n, true⟩ octet = if octet = 0 then some ⟨n, true⟩ else none := by
  have hoctet : maskOctet ⟨0, true⟩ octet = if octet = 0 then some ⟨0, true⟩ else none :=
    forall_byte (P := fun octet => maskOctet ⟨0, true⟩ octet = if octet = 0 then some ⟨0, true⟩ else none)
      (by decide +kernel) octet
  rw [show (⟨n, true⟩ : MaskState) = ⟨n + 0, true⟩ from rfl, maskOctet_add n ⟨0, true⟩, hoctet]
  split <;> rfl

/-- Before a zero was seen an octet is full, or its ones end in it. -/
theorem maskOctet_one (n : ℕ) (octet : UInt8) (s : MaskState) :
    maskOctet ⟨n, false⟩ octet = some s ↔
      (octet = 255 ∧ s = ⟨n + 8, false⟩) ∨ ∃ j < 8, octet = blockOctet j ∧ s = ⟨n + j, true⟩ := by
  have hfull : maskOctet ⟨0, false⟩ 255 = some ⟨8, false⟩ := by decide
  have hblock : ∀ j < 8, maskOctet ⟨0, false⟩ (blockOctet j) = some ⟨j, true⟩ := by decide
  have hother : (maskOctet ⟨0, false⟩ octet).isSome → octet = 255 ∨ ∃ j < 8, octet = blockOctet j :=
    forall_byte (P := fun octet => (maskOctet ⟨0, false⟩ octet).isSome →
      octet = 255 ∨ ∃ j < 8, octet = blockOctet j) (by decide +kernel) octet
  rw [show (⟨n, false⟩ : MaskState) = ⟨n + 0, false⟩ from rfl, maskOctet_add n ⟨0, false⟩]
  constructor
  · intro h
    obtain ⟨t, ht, rfl⟩ := Option.map_eq_some_iff.mp h
    rcases hother (by rw [ht]; rfl) with rfl | ⟨j, hj, rfl⟩
    · cases hfull.symm.trans ht
      exact .inl ⟨rfl, rfl⟩
    · cases (hblock j hj).symm.trans ht
      exact .inr ⟨j, hj, rfl, rfl⟩
  · rintro (⟨rfl, rfl⟩ | ⟨j, hj, rfl, rfl⟩)
    · rw [hfull]
      rfl
    · rw [hblock j hj]
      rfl

theorem foldlM_maskOctet_zero (octets : List UInt8) (n : ℕ) (s : MaskState) :
    octets.foldlM maskOctet ⟨n, true⟩ = some s ↔
      octets = List.replicate octets.length 0 ∧ s = ⟨n, true⟩ := by
  induction octets with
  | nil => simp [eq_comm]
  | cons octet octets ih =>
    rw [List.foldlM_cons, maskOctet_zero, List.length_cons, List.replicate_succ, List.cons.injEq]
    split
    · rename_i hzero
      simp only [Option.bind_eq_bind, Option.bind_some, ih, hzero, true_and]
    · rename_i hzero
      simp [hzero]

/-- What the loop accepts is ones, then zeros, and its count is the number of ones. -/
theorem onesThenZeros_of_foldlM {octets : List UInt8} {n : ℕ} {s : MaskState}
    (h : octets.foldlM maskOctet ⟨n, false⟩ = some s) : ∃ k, s.prefixLen = n + k ∧ OnesThenZeros octets k := by
  induction octets generalizing n with
  | nil =>
    cases h
    exact ⟨0, rfl, .nil⟩
  | cons octet octets ih =>
    rw [List.foldlM_cons] at h
    obtain ⟨t, ht, hrest⟩ := Option.bind_eq_some_iff.mp h
    rcases (maskOctet_one n octet t).mp ht with ⟨rfl, rfl⟩ | ⟨j, hj, rfl, rfl⟩
    · obtain ⟨k, hk, hones⟩ := ih hrest
      exact ⟨k + 8, by omega, .full hones⟩
    · obtain ⟨hzeros, rfl⟩ := (foldlM_maskOctet_zero octets _ _).mp hrest
      rw [hzeros]
      exact ⟨j, rfl, .ends hj _⟩

/-- The loop accepts ones, then zeros. -/
theorem OnesThenZeros.foldlM {octets : List UInt8} {k : ℕ} (h : OnesThenZeros octets k) (n : ℕ) :
    ∃ z, octets.foldlM maskOctet ⟨n, false⟩ = some ⟨n + k, z⟩ := by
  induction h generalizing n with
  | nil => exact ⟨false, rfl⟩
  | @full octets k _ ih =>
    obtain ⟨z, hz⟩ := ih (n + 8)
    refine ⟨z, ?_⟩
    rw [List.foldlM_cons, (maskOctet_one n 255 _).mpr (.inl ⟨rfl, rfl⟩), Nat.add_comm k 8, ← Nat.add_assoc]
    exact hz
  | @ends j hj zeros =>
    refine ⟨true, ?_⟩
    rw [List.foldlM_cons, (maskOctet_one n _ _).mpr (.inr ⟨j, hj, rfl, rfl⟩)]
    exact (foldlM_maskOctet_zero _ _ _).mpr ⟨by rw [List.length_replicate], rfl⟩

/-! ### The value of a mask -/

/-- The 32-bit value of a mask whose four parts are numbers up to 255. -/
def maskValue (mask : String) : Option UInt32 :=
  match (mask.toList.splitOn '.').map (Text.parseUnsigned 255) with
  | [some a, some b, some c, some d] =>
    some (Ipv4Addr.toU32 ⟨UInt8.ofNat a, UInt8.ofNat b, UInt8.ofNat c, UInt8.ofNat d⟩)
  | _ => none

/-- A block of ones followed by zeros. -/
def IsBlock (m : UInt32) : Prop := ∃ k ≤ 32, m.toNat = (2 ^ k - 1) * 2 ^ (32 - k)

theorem isBlock_iff (m : UInt32) : IsBlock m ↔ ∃ k ≤ 32, m = prefixMask k := by
  refine exists_congr fun k => and_congr_right fun hk => ?_
  rw [← UInt32.toNat_inj, toNat_prefixMask k hk, Nat.shiftLeft_eq]

/-- Ones, then zeros, by the octet in which the ones end. -/
theorem OnesThenZeros.shape {octets : List UInt8} {k : ℕ} (h : OnesThenZeros octets k) :
    (octets = List.replicate octets.length 255 ∧ k = 8 * octets.length) ∨
      ∃ i j, j < 8 ∧ k = 8 * i + j ∧ i < octets.length ∧
        octets = List.replicate i 255 ++ blockOctet j :: List.replicate (octets.length - 1 - i) 0 := by
  induction h with
  | nil => exact .inl ⟨rfl, rfl⟩
  | @full octets k _ ih =>
    rw [List.length_cons]
    rcases ih with ⟨hall, rfl⟩ | ⟨i, j, hj, rfl, hi, hends⟩
    · refine .inl ⟨?_, by omega⟩
      rw [List.replicate_succ, ← hall]
    · refine .inr ⟨i + 1, j, hj, by omega, by omega, ?_⟩
      have hlen : octets.length + 1 - 1 - (i + 1) = octets.length - 1 - i := by omega
      rw [hlen, List.replicate_succ, List.cons_append, ← hends]
  | @ends j hj zeros =>
    refine .inr ⟨0, j, hj, by omega, Nat.succ_pos _, ?_⟩
    rw [List.length_cons, List.length_replicate]
    rfl

theorem octets_inj {x y : Ipv4Addr} (h : x.octets = y.octets) : x = y := by
  obtain ⟨a, b, c, d⟩ := x
  simp only [Ipv4Addr.octets, List.cons.injEq, and_true] at h
  obtain ⟨rfl, rfl, rfl, rfl⟩ := h
  rfl

/-- **Four octets are ones, then zeros,** exactly when they are the octets of a prefix mask. -/
theorem onesThenZeros_octets_iff (m : Ipv4Addr) (k : ℕ) :
    OnesThenZeros m.octets k ↔ k ≤ 32 ∧ m.toU32 = prefixMask k := by
  have hall : Ipv4Addr.octets (.ofU32 (prefixMask 32)) = List.replicate 4 255 := by decide
  have hends : ∀ i < 4, ∀ j < 8, Ipv4Addr.octets (.ofU32 (prefixMask (8 * i + j))) =
      List.replicate i 255 ++ blockOctet j :: List.replicate (3 - i) 0 := by decide
  constructor
  · intro h
    rcases h.shape with ⟨hones, rfl⟩ | ⟨i, j, hj, rfl, hi, hblock⟩
    · refine ⟨le_rfl, ?_⟩
      rw [octets_inj (hones.trans hall.symm), Ipv4Addr.toU32_ofU32]
      rfl
    · have hi : i < 4 := hi
      refine ⟨by omega, ?_⟩
      rw [octets_inj (hblock.trans (hends i hi j hj).symm), Ipv4Addr.toU32_ofU32]
  · rintro ⟨hk, hm⟩
    obtain ⟨k', hk', h⟩ := onesThenZeros_of_foldlM (foldlM_prefixMask k hk)
    have hmaskLen : k' = k := (Nat.zero_add k').symm.trans hk'.symm
    subst hmaskLen
    rwa [← Ipv4Addr.ofU32_toU32 m, hm]

/-! ### Converting a mask -/

/-- Parts that are numbers up to 255 count as the octets with these values. -/
theorem foldlM_maskPart_octets {parts : List (List Char)} {octets : List UInt8} (s : MaskState)
    (h : parts.map (Text.parseUnsigned 255) = octets.map fun octet => some octet.toNat) :
    parts.foldlM maskPart s = octets.foldlM maskOctet s := by
  induction parts generalizing octets s with
  | nil =>
    rw [List.map_nil] at h
    rw [List.map_eq_nil_iff.mp h.symm]
    rfl
  | cons part parts ih =>
    obtain _ | ⟨octet, octets⟩ := octets
    · cases h
    · rw [List.map_cons, List.map_cons, List.cons.injEq] at h
      have hpart : maskPart s part = maskOctet s octet := by
        unfold maskPart
        rw [h.1]
        show maskOctet s (UInt8.ofNat octet.toNat) = _
        rw [UInt8.ofNat_toNat]
      rw [List.foldlM_cons, List.foldlM_cons, hpart]
      exact bind_congr fun s' => ih s' h.2

/-- A part that is no number up to 255 ends the conversion. -/
theorem octets_of_foldlM_maskPart {parts : List (List Char)} {s t : MaskState}
    (h : parts.foldlM maskPart s = some t) :
    ∃ octets : List UInt8, parts.map (Text.parseUnsigned 255) = octets.map fun octet => some octet.toNat := by
  induction parts generalizing s with
  | nil => exact ⟨[], rfl⟩
  | cons part parts ih =>
    rw [List.foldlM_cons] at h
    obtain ⟨u, hu, hrest⟩ := Option.bind_eq_some_iff.mp h
    obtain ⟨n, hn, -⟩ := Option.bind_eq_some_iff.mp hu
    obtain ⟨octets, hoctets⟩ := ih hrest
    have hle : n ≤ 255 := Text.parseUnsigned_le hn
    refine ⟨UInt8.ofNat n :: octets, ?_⟩
    rw [List.map_cons, List.map_cons, hn, hoctets, UInt8.toNat_ofNat', Nat.mod_eq_of_lt (by omega)]

/-- A mask has a value when its parts are the octets of an address in decimal. -/
theorem maskValue_eq_some {mask : String} {m : UInt32} :
    maskValue mask = some m ↔ (mask.toList.splitOn '.').map (Text.parseUnsigned 255) =
      (Ipv4Addr.ofU32 m).octets.map fun octet => some octet.toNat := by
  unfold maskValue
  constructor
  · intro h
    split at h
    · rename_i a b c d hparts
      have hle : ∀ n, some n ∈ (mask.toList.splitOn '.').map (Text.parseUnsigned 255) → n % 256 = n := by
        intro n hn
        obtain ⟨part, -, hpart⟩ := List.mem_map.mp hn
        exact Nat.mod_eq_of_lt (by have := Text.parseUnsigned_le hpart; omega)
      rw [hparts] at hle
      cases h
      rw [hparts, Ipv4Addr.ofU32_toU32]
      simp [Ipv4Addr.octets, hle]
    · cases h
  · intro h
    rw [h]
    simp only [Ipv4Addr.octets, List.map_cons, List.map_nil, UInt8.ofNat_toNat]
    exact congrArg some (Ipv4Addr.toU32_ofU32 m)

/-- **A mask converts to `k` exactly when its value is the mask of length `k`.** -/
theorem ipv4MaskToPrefix_eq_some {mask : String} {k : ℕ} :
    ipv4MaskToPrefix mask = some k ↔ k ≤ 32 ∧ maskValue mask = some (prefixMask k) := by
  unfold ipv4MaskToPrefix
  rw [foldlM_countPart]
  constructor
  · intro h
    obtain ⟨⟨count, s⟩, hfold, hcount⟩ := Option.bind_eq_some_iff.mp h
    obtain ⟨t, ht, hpair⟩ := Option.map_eq_some_iff.mp hfold
    cases hpair
    obtain ⟨octets, hoctets⟩ := octets_of_foldlM_maskPart ht
    rw [foldlM_maskPart_octets _ hoctets] at ht
    obtain ⟨k', hk', hones⟩ := onesThenZeros_of_foldlM ht
    dsimp only at hcount
    split at hcount
    · rename_i hfour
      cases hcount
      have hlen : octets.length = 4 := by
        have hlen := congrArg List.length hoctets
        rw [List.length_map, List.length_map] at hlen
        omega
      obtain ⟨a, b, c, d, rfl⟩ : ∃ a b c d, octets = [a, b, c, d] := by
        obtain _ | ⟨a, _ | ⟨b, _ | ⟨c, _ | ⟨d, _ | ⟨e, rest⟩⟩⟩⟩⟩ := octets
        all_goals simp at hlen
        exact ⟨a, b, c, d, rfl⟩
      obtain ⟨hle, hm⟩ := (onesThenZeros_octets_iff ⟨a, b, c, d⟩ k').mp hones
      have hmaskLen : s.prefixLen = k' := hk'.trans (Nat.zero_add k')
      rw [hmaskLen]
      refine ⟨hle, maskValue_eq_some.mpr ?_⟩
      rw [← hm, Ipv4Addr.ofU32_toU32]
      exact hoctets
    · cases hcount
  · rintro ⟨hle, hvalue⟩
    have hoctets := maskValue_eq_some.mp hvalue
    have hones := (onesThenZeros_octets_iff (.ofU32 (prefixMask k)) k).mpr ⟨hle, Ipv4Addr.toU32_ofU32 _⟩
    obtain ⟨z, hz⟩ := hones.foldlM 0
    have hlen := congrArg List.length hoctets
    rw [List.length_map, List.length_map] at hlen
    rw [foldlM_maskPart_octets _ hoctets, hz, hlen]
    simp [Ipv4Addr.octets]

/-! ### Routes -/

/-- An accepted route covers the address: its mask is a block, and the address and the destination agree
under it. -/
def RouteCovers (destination mask : String) (x : Ipv4Addr) : Prop :=
  ∃ addr m, Ipv4Addr.parse destination = some addr ∧ maskValue mask = some m ∧ IsBlock m ∧
    x.toU32 &&& m = addr.toU32 &&& m

variable {destination mask : String} {addr : Ipv4Addr}

theorem fromAddrAndMask_eq_some (haddr : Ipv4Addr.parse destination = some addr) {net : Ipv4Net} :
    Ipv4Net.fromAddrAndMask destination mask = some net ↔
      ∃ k ≤ 32, maskValue mask = some (prefixMask k) ∧ net = .new addr k := by
  unfold Ipv4Net.fromAddrAndMask
  rw [haddr]
  simp only [Option.bind_eq_bind, Option.bind_some, Option.pure_def, Option.bind_eq_some_iff,
    ipv4MaskToPrefix_eq_some, Option.some.injEq, and_assoc, @eq_comm _ net]

/-- A route is accepted when its mask is a block. -/
theorem fromAddrAndMask_isSome_iff (haddr : Ipv4Addr.parse destination = some addr) :
    (Ipv4Net.fromAddrAndMask destination mask).isSome ↔ ∃ m, maskValue mask = some m ∧ IsBlock m := by
  constructor
  · intro h
    obtain ⟨net, hnet⟩ := Option.isSome_iff_exists.mp h
    obtain ⟨k, hle, hvalue, -⟩ := (fromAddrAndMask_eq_some haddr).mp hnet
    exact ⟨_, hvalue, (isBlock_iff _).mpr ⟨k, hle, rfl⟩⟩
  · rintro ⟨m, hvalue, hblock⟩
    obtain ⟨k, hle, rfl⟩ := (isBlock_iff m).mp hblock
    exact Option.isSome_iff_exists.mpr ⟨_, (fromAddrAndMask_eq_some haddr).mpr ⟨k, hle, hvalue, rfl⟩⟩

/-- **An accepted route contains the addresses that agree with its own under its mask.** -/
theorem contains_iff_mask {m : UInt32} {net : Ipv4Net} (haddr : Ipv4Addr.parse destination = some addr)
    (hvalue : maskValue mask = some m) (hnet : Ipv4Net.fromAddrAndMask destination mask = some net)
    (x : Ipv4Addr) : net.contains x = true ↔ x.toU32 &&& m = addr.toU32 &&& m := by
  obtain ⟨k, hle, hmaskLen, rfl⟩ := (fromAddrAndMask_eq_some haddr).mp hnet
  obtain rfl := Option.some.inj (hvalue.symm.trans hmaskLen)
  unfold Ipv4Net.contains Ipv4Net.new
  simp only [Nat.min_eq_left hle, Ipv4Addr.toU32_ofU32, beq_iff_eq]

theorem routeCovers_iff (destination mask : String) (x : Ipv4Addr) :
    RouteCovers destination mask x ↔
      ∃ net, Ipv4Net.fromAddrAndMask destination mask = some net ∧ net.contains x = true := by
  constructor
  · rintro ⟨addr, m, haddr, hvalue, hblock, hx⟩
    obtain ⟨net, hnet⟩ := Option.isSome_iff_exists.mp
      ((fromAddrAndMask_isSome_iff haddr).mpr ⟨m, hvalue, hblock⟩)
    exact ⟨net, hnet, (contains_iff_mask haddr hvalue hnet x).mpr hx⟩
  · rintro ⟨net, hnet, hx⟩
    obtain ⟨addr, haddr, -⟩ := Option.bind_eq_some_iff.mp hnet
    obtain ⟨m, hvalue, hblock⟩ :=
      (fromAddrAndMask_isSome_iff haddr).mp (Option.isSome_iff_exists.mpr ⟨net, hnet⟩)
    exact ⟨addr, m, haddr, hvalue, hblock, (contains_iff_mask haddr hvalue hnet x).mp hx⟩

/-- What the table of a configuration routes. -/
theorem canRoute_iff (config : Config) (vpnConfig : VpnConfigXml) (x : Ipv4Addr) :
    (ProxyRouteTable.fromConfig config vpnConfig).canRoute x = true ↔
      config.setRoutes = true ∧ (vpnConfig.splitRoutes = [] ∨
        ∃ route ∈ vpnConfig.splitRoutes, RouteCovers route.destination route.mask x) := by
  by_cases hset : config.setRoutes = true
  · by_cases hnil : vpnConfig.splitRoutes = []
    · exact iff_of_true (canRoute_nil hset hnil x) ⟨hset, .inl hnil⟩
    · unfold ProxyRouteTable.fromConfig ProxyRouteTable.canRoute
      rw [if_neg (by simp [hset]), if_pos hnil]
      simp only [List.any_eq_true, List.mem_filterMap, routeCovers_iff, hset, hnil, true_and, false_or]
      constructor
      · rintro ⟨net, ⟨route, hroute, hnet⟩, hx⟩
        exact ⟨route, hroute, net, hnet, hx⟩
      · rintro ⟨route, hroute, net, hnet, hx⟩
        exact ⟨net, ⟨route, hroute, hnet⟩, hx⟩
  · unfold ProxyRouteTable.fromConfig
    rw [if_pos hset]
    exact iff_of_false (by simp [ProxyRouteTable.canRoute]) fun h => hset h.1

/-- **Routing is mask arithmetic.**  A route whose mask has four parts is accepted when these are numbers
up to 255 that make a block of ones followed by zeros, and then contains the addresses that agree with its
own under that value; a table routes what its routes cover; and without split routes both tables route
everything. -/
theorem routing_is_mask_arithmetic :
    (∀ (destination mask : String) (addr : Ipv4Addr), Ipv4Addr.parse destination = some addr →
      (mask.toList.splitOn '.').length = 4 →
      ((Ipv4Net.fromAddrAndMask destination mask).isSome ↔
        (∀ part ∈ mask.toList.splitOn '.', (Text.parseUnsigned 255 part).isSome) ∧
          ∃ m, maskValue mask = some m ∧ IsBlock m) ∧
      ∀ net m, Ipv4Net.fromAddrAndMask destination mask = some net → maskValue mask = some m →
        ∀ x : Ipv4Addr, net.contains x = true ↔ x.toU32 &&& m = addr.toU32 &&& m) ∧
    (∀ (config : Config) (vpnConfig : VpnConfigXml) (x : Ipv4Addr),
      (ProxyRouteTable.fromConfig config vpnConfig).canRoute x = true ↔
        config.setRoutes = true ∧ (vpnConfig.splitRoutes = [] ∨
          ∃ route ∈ vpnConfig.splitRoutes, RouteCovers route.destination route.mask x)) ∧
    ∀ (config : Config) (vpnConfig : VpnConfigXml) (x : Ipv4Addr),
      (ProxyRouteTable.fromConfig { config with halfInternetRoutes := true } vpnConfig).canRoute x =
        (ProxyRouteTable.fromConfig { config with halfInternetRoutes := false } vpnConfig).canRoute x := by
  refine ⟨fun destination mask addr haddr hfour => ⟨?_, fun net m hnet hvalue x =>
    contains_iff_mask haddr hvalue hnet x⟩, canRoute_iff, fun config vpnConfig x => ?_⟩
  · rw [fromAddrAndMask_isSome_iff haddr]
    refine ⟨fun h => ⟨fun part hpart => ?_, h⟩, fun h => h.2⟩
    obtain ⟨m, hvalue, -⟩ := h
    have hmem := @List.mem_map_of_mem _ _ _ _ (Text.parseUnsigned 255) hpart
    rw [maskValue_eq_some.mp hvalue] at hmem
    obtain ⟨octet, -, hoctet⟩ := List.mem_map.mp hmem
    rw [← hoctet]
    rfl
  · rw [Bool.eq_iff_iff, canRoute_iff, canRoute_iff]

/-- A mask in which the ones end inside an octet. -/
theorem routing_is_mask_arithmetic_example :
    (Ipv4Net.fromAddrAndMask "10.10.0.0" "255.254.0.0").isSome ∧
      ∀ net, Ipv4Net.fromAddrAndMask "10.10.0.0" "255.254.0.0" = some net → ∀ x : Ipv4Addr,
        net.contains x = true ↔ x.toU32 &&& 0xfffe0000 = Ipv4Addr.toU32 ⟨10, 10, 0, 0⟩ &&& 0xfffe0000 := by
  have hvalue : maskValue "255.254.0.0" = some 0xfffe0000 := by decide
  obtain ⟨haccepted, hcontains⟩ := routing_is_mask_arithmetic.1 "10.10.0.0" "255.254.0.0" ⟨10, 10, 0, 0⟩
    (by decide) (by decide)
  refine ⟨haccepted.mpr ⟨by decide, _, hvalue, 15, by decide, by decide⟩, fun net hnet => ?_⟩
  exact hcontains net _ hnet hvalue

end OpenfortivpnRs.Proxy
