import OpenfortivpnRs.Text

/-!
# IPv4 addresses

`std::net::Ipv4Addr` as its four octets, its 32-bit form, and the netmasks of the form 255.255.0.0.
-/

namespace OpenfortivpnRs

structure Ipv4Addr where
  a : UInt8
  b : UInt8
  c : UInt8
  d : UInt8
  deriving DecidableEq, Repr

namespace Ipv4Addr

/-- `Ipv4Addr::UNSPECIFIED`. -/
def unspecified : Ipv4Addr := ⟨0, 0, 0, 0⟩

def octets (addr : Ipv4Addr) : List UInt8 := [addr.a, addr.b, addr.c, addr.d]

/-- What an address displays, its octets in decimal. -/
def display (addr : Ipv4Addr) : String :=
  String.intercalate "." (addr.octets.map fun octet => toString octet.toNat)

/-- An octet in decimal, as an address is written: without a sign or leading zeros. -/
def parseOctet (s : List Char) : Option UInt8 :=
  if s ≠ [] ∧ s.all Char.isDigit ∧ s.length ≤ 3 ∧ (s.length = 1 ∨ s.head? ≠ some '0') ∧
      Text.digitsValue s ≤ 255 then some (UInt8.ofNat (Text.digitsValue s))
  else none

/-- `str::parse::<Ipv4Addr>`. -/
def parse (s : String) : Option Ipv4Addr :=
  match (s.toList.splitOn '.').map parseOctet with
  | [some a, some b, some c, some d] => some ⟨a, b, c, d⟩
  | _ => none

/-- `u32::from`. -/
def toU32 (addr : Ipv4Addr) : UInt32 :=
  addr.a.toUInt32 <<< 24 ||| addr.b.toUInt32 <<< 16 ||| addr.c.toUInt32 <<< 8 ||| addr.d.toUInt32

/-- `Ipv4Addr::from`. -/
def ofU32 (n : UInt32) : Ipv4Addr :=
  ⟨(n >>> 24).toUInt8, (n >>> 16).toUInt8, (n >>> 8).toUInt8, n.toUInt8⟩

/-! ### The 32-bit form -/

@[simp] theorem toU32_ofU32 (n : UInt32) : (ofU32 n).toU32 = n := by
  apply UInt32.toBitVec_inj.mp
  apply BitVec.eq_of_getLsbD_eq
  intro i hi
  simp only [toU32, ofU32, UInt32.toBitVec_or, UInt32.toBitVec_shiftLeft, UInt8.toBitVec_toUInt32,
    UInt32.toBitVec_toUInt8, UInt32.toBitVec_shiftRight]
  simp
  interval_cases i <;> simp

theorem ofU32_toU32 (addr : Ipv4Addr) : ofU32 addr.toU32 = addr := by
  obtain ⟨a, b, c, d⟩ := addr
  simp only [toU32, ofU32, Ipv4Addr.mk.injEq]
  refine ⟨?_, ?_, ?_, ?_⟩
  all_goals
    apply UInt8.toBitVec_inj.mp
    apply BitVec.eq_of_getLsbD_eq
    intro i hi
    simp <;> interval_cases i <;> simp

/-! ### The text of an address -/

/-- An octet that parses as part of an address parses as a number. -/
theorem parseUnsigned_of_parseOctet {s : List Char} {octet : UInt8} (h : parseOctet s = some octet) :
    Text.parseUnsigned 255 s = some octet.toNat := by
  unfold parseOctet at h
  split at h
  · rename_i hs
    obtain ⟨hne, hdigits, -, -, hle⟩ := hs
    cases h
    rw [Text.parseUnsigned_digits 255 (List.all_eq_true.mp hdigits), if_pos ⟨hne, hle⟩, UInt8.toNat_ofNat',
      Nat.mod_eq_of_lt (by omega)]
  · cases h

/-- The text of an address is four octets with dots in between. -/
theorem parse_eq_some {s : String} {addr : Ipv4Addr} (h : parse s = some addr) :
    (s.toList.splitOn '.').map parseOctet = addr.octets.map some := by
  unfold parse at h
  split at h
  · rename_i heq
    cases h
    exact heq
  · cases h

/-- A character of an address is a digit or a dot. -/
theorem mem_of_parse {s : String} {addr : Ipv4Addr} (h : parse s = some addr) {c : Char}
    (hc : c ∈ s.toList) : c = '.' ∨ c.isDigit = true := by
  rw [← @List.intercalate_splitOn _ s.toList _ _ '.'] at hc
  rcases Text.mem_intercalate hc with hdot | ⟨piece, hmem, hcp⟩
  · exact .inl hdot
  · refine .inr ?_
    have hoctet : parseOctet piece ∈ addr.octets.map some := by
      rw [← parse_eq_some h]
      exact List.mem_map_of_mem hmem
    obtain ⟨octet, -, ho⟩ := List.mem_map.mp hoctet
    unfold parseOctet at ho
    split at ho
    · rename_i hs
      exact List.all_eq_true.mp hs.2.1 c hcp
    · cases ho

end Ipv4Addr

/-! ### Netmasks -/

/-- The ones counted so far, and whether they have ended. -/
structure MaskState where
  prefixLen : ℕ
  sawZero : Bool
  deriving DecidableEq, Repr

/-- One bit of a mask: a one behind a zero is refused. -/
def maskBit (s : MaskState) (isOne : Bool) : Option MaskState :=
  if isOne then
    if s.sawZero then none else some { s with prefixLen := s.prefixLen + 1 }
  else some { s with sawZero := true }

/-- The bits of an octet, from the highest on. -/
def maskOctet (s : MaskState) (octet : UInt8) : Option MaskState :=
  [7, 6, 5, 4, 3, 2, 1, 0].foldlM (fun s (bit : UInt8) => maskBit s (octet &&& (1 <<< bit) != 0)) s

/-- One turn of the loop of `ipv4_mask_to_prefix` over the parts of a mask. -/
def maskPart (s : MaskState) (part : List Char) : Option MaskState := do
  let octet ← Text.parseUnsigned 255 part
  maskOctet s (UInt8.ofNat octet)

/-- `prefix_mask`. -/
def prefixMask (prefixLen : ℕ) : UInt32 :=
  if prefixLen = 0 then 0 else 0xffffffff <<< (32 - UInt32.ofNat prefixLen)

/-- The text of a contiguous mask of `k` ones. -/
def IsNetmask (mask : String) (k : ℕ) : Prop :=
  k ≤ 32 ∧ Ipv4Addr.parse mask = some (.ofU32 (prefixMask k))

/-- Parts that are the octets of an address count as these octets. -/
theorem foldlM_maskPart {parts : List (List Char)} {octets : List UInt8} (s : MaskState)
    (h : parts.map Ipv4Addr.parseOctet = octets.map some) :
    parts.foldlM maskPart s = octets.foldlM maskOctet s := by
  induction parts generalizing octets s with
  | nil =>
    rw [List.map_nil] at h
    rw [List.map_eq_nil_iff.mp h.symm]
    rfl
  | cons part parts ih =>
    obtain _ | ⟨octet, octets⟩ := octets
    · cases h
    · rw [List.map_cons, List.map_cons, List.cons.injEq] at h
      have hpart : maskPart s part = maskOctet s octet := by
        unfold maskPart
        rw [Ipv4Addr.parseUnsigned_of_parseOctet h.1]
        show maskOctet s (UInt8.ofNat octet.toNat) = _
        rw [UInt8.ofNat_toNat]
      rw [List.foldlM_cons, List.foldlM_cons, hpart]
      exact bind_congr fun s' => ih s' h.2

/-- The octets of the mask of each length count its ones. -/
theorem foldlM_prefixMask : ∀ k ≤ 32,
    (Ipv4Addr.octets (.ofU32 (prefixMask k))).foldlM maskOctet ⟨0, false⟩ =
      some ⟨k, decide (k < 32)⟩ := by decide

/-- The parts of a contiguous mask count its ones. -/
theorem IsNetmask.foldlM {mask : String} {k : ℕ} (h : IsNetmask mask k) :
    (mask.toList.splitOn '.').length = 4 ∧
      (mask.toList.splitOn '.').foldlM maskPart ⟨0, false⟩ = some ⟨k, decide (k < 32)⟩ := by
  have hparts := Ipv4Addr.parse_eq_some h.2
  refine ⟨?_, ?_⟩
  · have hlen := congrArg List.length hparts
    rwa [List.length_map, List.length_map] at hlen
  · rw [foldlM_maskPart _ hparts]
    exact foldlM_prefixMask k h.1

end OpenfortivpnRs
