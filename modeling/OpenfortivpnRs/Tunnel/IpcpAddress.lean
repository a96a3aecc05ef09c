import OpenfortivpnRs.Tunnel.PppObeys

/-!
# The address in an IPCP packet

Two functions look for the address option of an IPCP packet: `ipcpIpv4Address` in the whole packet,
for the caller of the tunnel, and `parseIpcpIpAddress` in the options that `parseControlPacket`
cut out, for the engine.  They are one walk over the options (`ipcpOptionsLoop_eq`), seen through two
windows (`addressLoop_window`).

Indexing is total in the model.  The functions here whose names end in `Indexed` are the same ones
with the checked indexing of the source, `none` where it would panic; they never do.
-/

namespace OpenfortivpnRs.Tunnel

open Lib.Bytes

/-! ### With checked indexing -/

/-- The loop of `ipcp_ipv4_address`, and that of `parse_ipcp_ip_address` where `stop` is the length of
the options. -/
def addressLoopIndexed (p : List UInt8) (stop offset : ℕ) : Option (Option Ipv4Addr) :=
  if offset + 2 ≤ stop then do
    let optionType ← p[offset]?
    let optionLen ← p[offset + 1]?
    if optionLen.toNat < 2 ∨ offset + optionLen.toNat > stop then pure none
    else if optionType = 0x03 ∧ optionLen.toNat = 6 then
      pure (some ⟨← p[offset + 2]?, ← p[offset + 3]?, ← p[offset + 4]?, ← p[offset + 5]?⟩)
    else addressLoopIndexed p stop (offset + optionLen.toNat)
  else pure none
termination_by stop - offset
decreasing_by omega

/-- `ipcp_ipv4_address`. -/
def ipcpIpv4AddressIndexed (p : List UInt8) : Option (Option Ipv4Addr) :=
  if p.length < 10 then pure none
  else do
    if (← p[0]?) ≠ 0x80 then pure none
    else if (← p[1]?) ≠ 0x21 then pure none
    else
      let length := (fromBeBytes (← p[4]?) (← p[5]?)).toNat
      if length < 4 ∨ p.length < 2 + length then pure none
      else addressLoopIndexed p (2 + length) 6

/-- `parse_control_packet`; the slice of the options needs its bounds in order and in the payload. -/
def parseControlPacketIndexed (payload : List UInt8) : Option (Result ControlPacket) :=
  if payload.length < pppControlHeaderLen then pure (.error .hdlcInvalidFrame)
  else do
    let length := (fromBeBytes (← payload[2]?) (← payload[3]?)).toNat
    if length < pppControlHeaderLen ∨ payload.length < length then pure (.error .hdlcInvalidFrame)
    else
      let code ← payload[0]?
      let identifier ← payload[1]?
      if pppControlHeaderLen ≤ length ∧ length ≤ payload.length then
        pure (.ok ⟨code, identifier, (payload.take length).drop pppControlHeaderLen⟩)
      else none

/-- `parse_ipcp_ip_address`. -/
def parseIpcpIpAddressIndexed (options : List UInt8) : Option (Option Ipv4Addr) :=
  addressLoopIndexed options options.length 0

/-- Within the buffer the loop indexes nothing that is not there. -/
theorem addressLoopIndexed_eq {p : List UInt8} {stop : ℕ} (h : stop ≤ p.length) (offset : ℕ) :
    addressLoopIndexed p stop offset = some (PppPacket.ipcpIpv4AddressLoop p stop offset) := by
  induction offset using PppPacket.ipcpIpv4AddressLoop.induct p stop with
  | case1 offset hlen optionLen hbad =>
    have h0 := @getElem?_eq_getD p offset (by omega)
    have h1 := @getElem?_eq_getD p (offset + 1) (by omega)
    rw [addressLoopIndexed, PppPacket.ipcpIpv4AddressLoop, if_pos hlen, if_pos hlen, h0, h1]
    simp only [Option.bind_eq_bind, Option.bind_some]
    rw [if_pos hbad, if_pos hbad]
    rfl
  | case2 offset hlen optionType optionLen hgood haddress =>
    have h0 := @getElem?_eq_getD p offset (by omega)
    have h1 := @getElem?_eq_getD p (offset + 1) (by omega)
    have h2 := @getElem?_eq_getD p (offset + 2) (by omega)
    have h3 := @getElem?_eq_getD p (offset + 3) (by omega)
    have h4 := @getElem?_eq_getD p (offset + 4) (by omega)
    have h5 := @getElem?_eq_getD p (offset + 5) (by omega)
    rw [addressLoopIndexed, PppPacket.ipcpIpv4AddressLoop, if_pos hlen, if_pos hlen, h0, h1]
    simp only [Option.bind_eq_bind, Option.bind_some]
    rw [if_neg hgood, if_neg hgood, if_pos haddress, if_pos haddress, h2, h3, h4, h5]
    rfl
  | case3 offset hlen optionType optionLen hgood hother ih =>
    have h0 := @getElem?_eq_getD p offset (by omega)
    have h1 := @getElem?_eq_getD p (offset + 1) (by omega)
    rw [addressLoopIndexed, PppPacket.ipcpIpv4AddressLoop, if_pos hlen, if_pos hlen, h0, h1]
    simp only [Option.bind_eq_bind, Option.bind_some]
    rw [if_neg hgood, if_neg hgood, if_neg hother, if_neg hother]
    exact ih
  | case4 offset hshort =>
    rw [addressLoopIndexed, PppPacket.ipcpIpv4AddressLoop, if_neg hshort, if_neg hshort]
    rfl

theorem ipcpIpv4AddressIndexed_eq (p : List UInt8) :
    ipcpIpv4AddressIndexed p = some (PppPacket.ipcpIpv4Address ⟨p⟩) := by
  unfold ipcpIpv4AddressIndexed PppPacket.ipcpIpv4Address
  by_cases hlen : p.length < 10
  · simp [hlen]
  rw [if_neg hlen, @getElem?_eq_getD p 0 (by omega), @getElem?_eq_getD p 1 (by omega),
    @getElem?_eq_getD p 4 (by omega), @getElem?_eq_getD p 5 (by omega)]
  simp only [Option.bind_eq_bind, Option.bind_some, hlen, false_or]
  by_cases h0 : p.getD 0 0 = 0x80
  · by_cases h1 : p.getD 1 0 = 0x21
    · simp only [h0, h1, ne_eq, not_true_eq_false, if_false, or_self]
      by_cases hbad : (wordAt p 4).toNat < 4 ∨ p.length < 2 + (wordAt p 4).toNat
      · rw [if_pos hbad]
        exact if_pos hbad
      · rw [if_neg hbad, ← addressLoopIndexed_eq (by omega)]
        exact if_neg hbad
    · simp only [h0, h1, ne_eq, not_true_eq_false, not_false_eq_true, if_true, if_false, or_true]
      rfl
  · simp only [h0, ne_eq, not_false_eq_true, if_true, true_or]
    rfl

theorem parseControlPacketIndexed_eq (payload : List UInt8) :
    parseControlPacketIndexed payload = some (parseControlPacket payload) := by
  unfold parseControlPacketIndexed parseControlPacket
  by_cases hlen : payload.length < pppControlHeaderLen
  · simp [hlen]
  have hlen' := hlen
  unfold pppControlHeaderLen at hlen'
  rw [if_neg hlen, if_neg hlen, @getElem?_eq_getD payload 0 (by omega),
    @getElem?_eq_getD payload 1 (by omega), @getElem?_eq_getD payload 2 (by omega),
    @getElem?_eq_getD payload 3 (by omega)]
  simp only [Option.bind_eq_bind, Option.bind_some]
  change (if (wordAt payload 2).toNat < _ ∨ payload.length < (wordAt payload 2).toNat then _ else _) = _
  by_cases hbad : (wordAt payload 2).toNat < pppControlHeaderLen ∨
      payload.length < (wordAt payload 2).toNat
  · rw [if_pos hbad, if_pos hbad]
    rfl
  · have hslice : pppControlHeaderLen ≤ (wordAt payload 2).toNat ∧
        (wordAt payload 2).toNat ≤ payload.length := by omega
    rw [if_neg hbad, if_neg hbad]
    exact if_pos hslice

/-- The engine's loop is the caller's over all the options. -/
theorem ipcpOptionsLoop_eq (options : List UInt8) (offset : ℕ) :
    ipcpOptionsLoop options offset = PppPacket.ipcpIpv4AddressLoop options options.length offset := by
  induction offset using ipcpOptionsLoop.induct options with
  | case1 offset hlen optionLen hbad =>
    rw [ipcpOptionsLoop, PppPacket.ipcpIpv4AddressLoop, if_pos hlen, if_pos hlen]
    simp only
    rw [if_pos hbad, if_pos hbad]
  | case2 offset hlen optionType optionLen hgood haddress =>
    rw [ipcpOptionsLoop, PppPacket.ipcpIpv4AddressLoop, if_pos hlen, if_pos hlen]
    simp only
    rw [if_neg hgood, if_neg hgood, if_pos haddress]
    exact (if_pos haddress).symm
  | case3 offset hlen optionType optionLen hgood hother ih =>
    rw [ipcpOptionsLoop, PppPacket.ipcpIpv4AddressLoop, if_pos hlen, if_pos hlen]
    simp only
    rw [if_neg hgood, if_neg hgood, if_neg hother, ih]
    exact (if_neg hother).symm
  | case4 offset hshort =>
    rw [ipcpOptionsLoop, PppPacket.ipcpIpv4AddressLoop, if_neg hshort, if_neg hshort]

theorem parseIpcpIpAddressIndexed_eq (options : List UInt8) :
    parseIpcpIpAddressIndexed options = some (parseIpcpIpAddress options) := by
  rw [parseIpcpIpAddressIndexed, addressLoopIndexed_eq le_rfl, parseIpcpIpAddress, ipcpOptionsLoop_eq]

/-! ### Two windows on one walk -/

/-- A walk over a part of a packet is the walk over that part alone. -/
theorem addressLoop_window (p : List UInt8) (k stop offset : ℕ) :
    PppPacket.ipcpIpv4AddressLoop p (k + stop) (k + offset) =
      PppPacket.ipcpIpv4AddressLoop ((p.drop k).take stop) stop offset := by
  have hget : ∀ i < stop, ((p.drop k).take stop).getD i 0 = p.getD (k + i) 0 := fun i hi => by
    simp [List.getD_eq_getElem?_getD, hi]
  induction offset using PppPacket.ipcpIpv4AddressLoop.induct ((p.drop k).take stop) stop with
  | case1 offset hlen optionLen hbad =>
    simp only [optionLen, hget (offset + 1) (by omega)] at hbad
    rw [PppPacket.ipcpIpv4AddressLoop, PppPacket.ipcpIpv4AddressLoop, if_pos hlen, if_pos (by omega)]
    simp only [hget (offset + 1) (by omega), Nat.add_assoc]
    rw [if_pos hbad, if_pos (by omega)]
  | case2 offset hlen optionType optionLen hgood haddress =>
    simp only [optionLen, optionType, hget offset (by omega), hget (offset + 1) (by omega)]
      at hgood haddress
    rw [PppPacket.ipcpIpv4AddressLoop, PppPacket.ipcpIpv4AddressLoop, if_pos hlen, if_pos (by omega)]
    simp only [hget offset (by omega), hget (offset + 1) (by omega), Nat.add_assoc]
    rw [if_neg hgood, if_neg (by omega), if_pos haddress, if_pos haddress, hget (offset + 2) (by omega),
      hget (offset + 3) (by omega), hget (offset + 4) (by omega), hget (offset + 5) (by omega)]
  | case3 offset hlen optionType optionLen hgood hother ih =>
    simp only [optionLen, optionType, hget offset (by omega), hget (offset + 1) (by omega)]
      at hgood hother ih
    rw [PppPacket.ipcpIpv4AddressLoop, if_pos (by omega)]
    conv_rhs => rw [PppPacket.ipcpIpv4AddressLoop, if_pos hlen]
    simp only [hget offset (by omega), hget (offset + 1) (by omega), Nat.add_assoc]
    rw [if_neg hgood, if_neg (by omega), if_neg hother, if_neg hother]
    exact ih
  | case4 offset hshort =>
    rw [PppPacket.ipcpIpv4AddressLoop, PppPacket.ipcpIpv4AddressLoop, if_neg hshort, if_neg (by omega)]

/-- `parse_control_packet` followed, when it succeeds, by `parse_ipcp_ip_address` on its options. -/
def controlPacketAddress (payload : List UInt8) : Option Ipv4Addr :=
  match parseControlPacket payload with
  | .ok packet => parseIpcpIpAddress packet.options
  | .error _ => none

/-- Fewer than six bytes hold no address option. -/
theorem addressLoop_short (p : List UInt8) (stop offset : ℕ) (h : stop < offset + 6) :
    PppPacket.ipcpIpv4AddressLoop p stop offset = none := by
  induction offset using PppPacket.ipcpIpv4AddressLoop.induct p stop with
  | case1 offset hlen optionLen hbad =>
    rw [PppPacket.ipcpIpv4AddressLoop, if_pos hlen]
    exact if_pos hbad
  | case2 offset hlen optionType optionLen hgood haddress => omega
  | case3 offset hlen optionType optionLen hgood hother ih =>
    rw [PppPacket.ipcpIpv4AddressLoop, if_pos hlen]
    simp only
    rw [if_neg hgood, if_neg hother]
    exact ih (by omega)
  | case4 offset hshort => rw [PppPacket.ipcpIpv4AddressLoop, if_neg hshort]

/-- What the engine finds, as a walk over the whole packet. -/
theorem controlPacketAddress_eq (p : List UInt8) (h : 6 ≤ p.length) :
    controlPacketAddress (p.drop 2) =
      if (wordAt p 4).toNat < 4 ∨ p.length < 2 + (wordAt p 4).toNat then none
      else PppPacket.ipcpIpv4AddressLoop p (2 + (wordAt p 4).toNat) 6 := by
  have hword : wordAt (p.drop 2) 2 = wordAt p 4 := wordAt_drop p 2 2
  unfold controlPacketAddress parseControlPacket pppControlHeaderLen
  rw [hword, List.length_drop, if_neg (by omega)]
  simp only
  by_cases hbad : (wordAt p 4).toNat < 4 ∨ p.length < 2 + (wordAt p 4).toNat
  · rw [if_pos hbad, if_pos (by omega)]
  · have hlen : ((p.drop 6).take ((wordAt p 4).toNat - 4)).length = (wordAt p 4).toNat - 4 := by
      rw [List.length_take, List.length_drop]
      omega
    rw [if_neg hbad, if_neg (by omega)]
    simp only
    rw [List.drop_take, List.drop_drop, parseIpcpIpAddress, ipcpOptionsLoop_eq, hlen,
      ← addressLoop_window p 6]
    congr 1
    omega

/-- **The two extractors agree.** -/
theorem ipcpIpv4Address_eq {p : List UInt8} (h : p.take 2 = [0x80, 0x21]) :
    PppPacket.ipcpIpv4Address ⟨p⟩ = controlPacketAddress (p.drop 2) := by
  obtain ⟨rest, rfl⟩ : ∃ rest, p = 0x80 :: 0x21 :: rest :=
    ⟨p.drop 2, by rw [← List.take_append_drop 2 p, h]; rfl⟩
  generalize hp : (0x80 :: 0x21 :: rest : List UInt8) = p at *
  have h0 : p.getD 0 0 = 0x80 := by rw [← hp]; rfl
  have h1 : p.getD 1 0 = 0x21 := by rw [← hp]; rfl
  unfold PppPacket.ipcpIpv4Address
  simp only [h0, h1, ne_eq, not_true_eq_false, or_false]
  by_cases hlen : p.length < 10
  · rw [if_pos hlen]
    by_cases hsix : 6 ≤ p.length
    · rw [controlPacketAddress_eq p hsix]
      split
      · rfl
      · exact (addressLoop_short p _ 6 (by omega)).symm
    · have hfour : (p.drop 2).length < 4 := by
        rw [List.length_drop]
        omega
      unfold controlPacketAddress parseControlPacket pppControlHeaderLen
      rw [if_pos hfour]
  · rw [if_neg hlen, controlPacketAddress_eq p (by omega)]

/-! ### Options -/

/-- An option as it stands in a packet: its type, its length with the two bytes in front, its value. -/
def encodeOption (option : UInt8 × List UInt8) : List UInt8 :=
  option.1 :: UInt8.ofNat (2 + option.2.length) :: option.2

def encodeOptions (options : List (UInt8 × List UInt8)) : List UInt8 := options.flatMap encodeOption

/-- Reading options undoes writing them. -/
theorem controlOptions_encodeOptions (options : List (UInt8 × List UInt8))
    (h : ∀ option ∈ options, option.2.length ≤ 253) :
    controlOptions (encodeOptions options) = options := by
  induction options with
  | nil => simp [encodeOptions, controlOptions]
  | cons option options ih =>
    obtain ⟨t, value⟩ := option
    have hvalue : value.length ≤ 253 := h (t, value) (List.mem_cons_self ..)
    have hlen : (UInt8.ofNat (2 + value.length)).toNat = 2 + value.length := by
      rw [UInt8.toNat_ofNat', Nat.mod_eq_of_lt (by omega)]
    have hrest := ih fun option ho => h option (List.mem_cons_of_mem _ ho)
    change controlOptions (t :: UInt8.ofNat (2 + value.length) :: (value ++ encodeOptions options)) = _
    rw [controlOptions_cons (by rw [hlen, List.length_append]; omega), hlen, Nat.add_sub_cancel_left,
      List.take_left' rfl, List.drop_left' rfl, hrest]

/-- An option that carries an address. -/
def isAddressOption (option : UInt8 × List UInt8) : Bool := option.1 = 0x03 ∧ option.2.length = 4

/-- **The two extractors agree and are right.**  In a packet that starts with the IPCP protocol number
they find the same; they index only what is there; and from options made of any list of types and
values they take the value of the first address option. -/
theorem ipcp_extractors_agree (p : List UInt8) (h : p.take 2 = [0x80, 0x21]) :
    PppPacket.ipcpIpv4Address ⟨p⟩ = controlPacketAddress (p.drop 2) ∧
      ipcpIpv4AddressIndexed p = some (PppPacket.ipcpIpv4Address ⟨p⟩) ∧
      parseControlPacketIndexed (p.drop 2) = some (parseControlPacket (p.drop 2)) ∧
      (∀ control, parseControlPacket (p.drop 2) = .ok control →
        parseIpcpIpAddressIndexed control.options = some (parseIpcpIpAddress control.options) ∧
        ∀ options : List (UInt8 × List UInt8), (∀ option ∈ options, option.2.length ≤ 253) →
          control.options = encodeOptions options →
          (PppPacket.ipcpIpv4Address ⟨p⟩).map Ipv4Addr.octets =
            (options.find? isAddressOption).map Prod.snd) := by
  refine ⟨ipcpIpv4Address_eq h, ipcpIpv4AddressIndexed_eq p, parseControlPacketIndexed_eq _,
    fun control hcontrol => ⟨parseIpcpIpAddressIndexed_eq _, fun options hsize hoptions => ?_⟩⟩
  have haddress : PppPacket.ipcpIpv4Address ⟨p⟩ = parseIpcpIpAddress control.options := by
    rw [ipcpIpv4Address_eq h, controlPacketAddress, hcontrol]
  rw [haddress, parseIpcpIpAddress, ipcpOptionsLoop_octets, List.drop_zero, hoptions, optionValue,
    controlOptions_encodeOptions options hsize]
  rfl

/-- The Configure-Ack of the source's test, with an option in front of the address. -/
theorem ipcp_extractors_agree_at :
    (PppPacket.ipcpIpv4Address
      ⟨[0x80, 0x21, 0x02, 0x7a, 0x00, 0x0e, 0x81, 0x04, 1, 1, 0x03, 0x06, 10, 212, 134, 201]⟩).map
        Ipv4Addr.octets = some [10, 212, 134, 201] :=
  ((ipcp_extractors_agree
    [0x80, 0x21, 0x02, 0x7a, 0x00, 0x0e, 0x81, 0x04, 1, 1, 0x03, 0x06, 10, 212, 134, 201] rfl).2.2.2
    ⟨0x02, 0x7a, [0x81, 0x04, 1, 1, 0x03, 0x06, 10, 212, 134, 201]⟩ (by decide)).2
    [(0x81, [1, 1]), (0x03, [10, 212, 134, 201])] (by decide) (by decide)

end OpenfortivpnRs.Tunnel
