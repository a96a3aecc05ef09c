import OpenfortivpnRs.Tunnel.PppIdentifiers

/-!
# Naks and Rejects

What the engine makes of a Configure-Nak or -Reject for its outstanding request: it always sends
another request at once.  In IPCP that request carries the address the gateway suggests.  In LCP it
is the same request again, and after a Reject it still carries the rejected option.
-/

namespace OpenfortivpnRs.Tunnel

open Lib.Bytes Lib.History

/-! ### The options of a control packet -/

theorem drop_value_lt (length : UInt8) (rest : List UInt8) (t : UInt8) :
    (rest.drop (length.toNat - 2)).length < (t :: length :: rest).length := by
  simp only [List.length_drop, List.length_cons]
  omega

/-- The options up to the first that is malformed: type and value. -/
def controlOptions : List UInt8 → List (UInt8 × List UInt8)
  | t :: length :: rest =>
    if 2 ≤ length.toNat ∧ length.toNat - 2 ≤ rest.length then
      (t, rest.take (length.toNat - 2)) :: controlOptions (rest.drop (length.toNat - 2))
    else []
  | _ => []
termination_by options => options.length
decreasing_by exact drop_value_lt length rest t

/-- The option the engine requests of a protocol, and the size of its value: the MRU in LCP, the
address in IPCP. -/
def requestedOption (protocol : UInt16) : UInt8 × ℕ :=
  if protocol = protocolLcp then (lcpOptionMru, 2) else (ipcpOptionIpAddress, 4)

/-- The first option of type `t` with a value of `size` bytes. -/
def optionValue (t : UInt8) (size : ℕ) (options : List UInt8) : Option (List UInt8) :=
  ((controlOptions options).find? fun option => option.1 = t ∧ option.2.length = size).map Prod.snd

/-- The value some options have for the option the engine requests. -/
def carried (protocol : UInt16) (options : List UInt8) : Option (List UInt8) :=
  optionValue (requestedOption protocol).1 (requestedOption protocol).2 options

/-- The options list the option the engine requests, whatever its value. -/
def Lists (protocol : UInt16) (options : List UInt8) : Prop :=
  (requestedOption protocol).1 ∈ (controlOptions options).map Prod.fst

instance (protocol : UInt16) : DecidablePred (Lists protocol) :=
  fun options => by unfold Lists; infer_instance

/-- A well-formed option in front of others. -/
theorem controlOptions_cons {t length : UInt8} {rest : List UInt8}
    (h : 2 ≤ length.toNat ∧ length.toNat - 2 ≤ rest.length) : controlOptions (t :: length :: rest) =
      (t, rest.take (length.toNat - 2)) :: controlOptions (rest.drop (length.toNat - 2)) := by
  rw [controlOptions, if_pos h]

/-- The header of the option at `offset`. -/
theorem drop_option {options : List UInt8} {offset : ℕ} (h : offset + 2 ≤ options.length) :
    options.drop offset =
      options.getD offset 0 :: options.getD (offset + 1) 0 :: options.drop (offset + 2) := by
  have h0 : offset < options.length := by omega
  have h1 : offset + 1 < options.length := by omega
  rw [List.drop_eq_getElem_cons h0, List.drop_eq_getElem_cons h1, List.getD_eq_getElem?_getD,
    List.getD_eq_getElem?_getD, List.getElem?_eq_getElem h0, List.getElem?_eq_getElem h1]
  rfl

/-- A value of four bytes is read byte by byte. -/
theorem take_four {options : List UInt8} {offset : ℕ} (h : offset + 4 ≤ options.length) :
    (options.drop offset).take 4 = [options.getD offset 0, options.getD (offset + 1) 0,
      options.getD (offset + 2) 0, options.getD (offset + 3) 0] := by
  rw [drop_option (by omega), @drop_option options (offset + 2) (by omega)]
  rfl

/-- `parse_ipcp_ip_address` finds the first address option. -/
theorem ipcpOptionsLoop_octets (options : List UInt8) (offset : ℕ) :
    (ipcpOptionsLoop options offset).map Ipv4Addr.octets =
      optionValue ipcpOptionIpAddress 4 (options.drop offset) := by
  induction offset using ipcpOptionsLoop.induct options with
  | case1 offset hlen optionLen hbad =>
    have hnot : ¬ (2 ≤ optionLen ∧ optionLen - 2 ≤ (options.drop (offset + 2)).length) := by
      rw [List.length_drop]
      omega
    rw [ipcpOptionsLoop, if_pos hlen, drop_option hlen]
    simp only
    rw [if_pos hbad, optionValue, controlOptions, if_neg hnot]
    rfl
  | case2 offset hlen optionType optionLen hgood haddress =>
    have hwell : 2 ≤ optionLen ∧ optionLen - 2 ≤ (options.drop (offset + 2)).length := by
      rw [List.length_drop]
      omega
    have hvalue := @take_four options (offset + 2) (by omega)
    rw [ipcpOptionsLoop, if_pos hlen, drop_option hlen]
    simp only
    rw [if_neg hgood, if_pos haddress, optionValue, controlOptions_cons hwell]
    rw [show (options.getD (offset + 1) 0).toNat - 2 = 4 by have := haddress.2; omega, hvalue,
      List.find?_cons_of_pos]
    · rfl
    · exact decide_eq_true ⟨haddress.1, rfl⟩
  | case3 offset hlen optionType optionLen hgood hother ih =>
    have hwell : 2 ≤ optionLen ∧ optionLen - 2 ≤ (options.drop (offset + 2)).length := by
      rw [List.length_drop]
      omega
    have hsize : ((options.drop (offset + 2)).take (optionLen - 2)).length = optionLen - 2 := by
      rw [List.length_take]
      omega
    rw [ipcpOptionsLoop, if_pos hlen, drop_option hlen]
    simp only
    rw [if_neg hgood, if_neg hother, ih, optionValue, optionValue, controlOptions_cons hwell,
      List.find?_cons_of_neg, List.drop_drop]
    · rw [show offset + 2 + (optionLen - 2) = offset + optionLen by omega]
    · intro haddress
      obtain ⟨htype, hfour⟩ := of_decide_eq_true haddress
      have hlen4 := hsize.symm.trans hfour
      exact hother ⟨htype, by omega⟩
  | case4 offset hshort =>
    have hnil : controlOptions (options.drop offset) = [] := by
      unfold controlOptions
      split
      · rename_i heq
        have hlen := congrArg List.length heq
        simp only [List.length_drop, List.length_cons] at hlen
        omega
      · rfl
    rw [ipcpOptionsLoop, if_neg hshort, optionValue, hnil]
    rfl

/-- What the engine parses is the address the gateway suggests. -/
theorem parseIpcpIpAddress_octets (options : List UInt8) :
    (parseIpcpIpAddress options).map Ipv4Addr.octets = carried protocolIpcp options :=
  ipcpOptionsLoop_octets options 0

/-! ### The requests that answer a Nak or a Reject -/

variable {engine : PppEngine} {packet : PppPacket} {control : ControlPacket}

theorem lcpRequest_option (identifier : UInt8) :
    ∃ request, asRequest protocolLcp (lcpRequest identifier) = some request ∧
      carried protocolLcp request.options = some (toBeBytes lcpDefaultMru) ∧
      Lists protocolLcp request.options := by
  have hcarried : carried protocolLcp ([lcpOptionMru, 4] ++ toBeBytes lcpDefaultMru) =
      some (toBeBytes lcpDefaultMru) := by decide +kernel
  have hlists : Lists protocolLcp ([lcpOptionMru, 4] ++ toBeBytes lcpDefaultMru) := by
    decide +kernel
  exact ⟨_, asRequest_lcpRequest identifier, hcarried, hlists⟩

theorem ipcpRequest_option (identifier : UInt8) (ip : Ipv4Addr) :
    ∃ request, asRequest protocolIpcp (ipcpRequest identifier ip) = some request ∧
      carried protocolIpcp request.options = some ip.octets ∧
      Lists protocolIpcp request.options := by
  refine ⟨_, asRequest_ipcpRequest identifier ip, ?_, ?_⟩
  · rw [← parseIpcpIpAddress_octets, parseIpcpIpAddress_request]
    rfl
  · have hcons : controlOptions ([ipcpOptionIpAddress, 6] ++ ip.octets) =
        (ipcpOptionIpAddress, ip.octets) :: controlOptions [] :=
      controlOptions_cons ⟨by decide, by simp [Ipv4Addr.octets]⟩
    unfold Lists
    rw [hcons]
    simp [requestedOption, protocolIpcp, protocolLcp]

/-- A Nak or a Reject of the outstanding LCP request makes the engine send the request again. -/
theorem queued_lcp (hc : packet.asControl = some (protocolLcp, control))
    (hid : engine.outstanding protocolLcp = some control.identifier)
    (hcode : control.code = codeConfigureNak ∨ control.code = codeConfigureReject) :
    (engine.call (.handleIncoming packet)).1.queued = [lcpRequest engine.nextIdentifier] := by
  have hparse := (parse_of_asControl hc).2
  have hid : some control.identifier = engine.lcpIdentifier := hid.symm
  have h1 : control.code ≠ codeConfigureRequest := by rcases hcode with h | h <;> rw [h] <;> decide
  have h2 : control.code ≠ codeConfigureAck := by rcases hcode with h | h <;> rw [h] <;> decide
  simp only [PppEngine.call, handleIncoming_lcp hc, PppEngine.handleLcp, hparse]
  rw [if_neg h1, if_neg (fun h => h2 h.1), if_pos ⟨hcode, hid⟩]
  exact List.drop_left' rfl

/-- A Nak or a Reject of the outstanding IPCP request makes the engine send a request with the
address of the Nak, with the one it requested before, or with none. -/
theorem queued_ipcp (hc : packet.asControl = some (protocolIpcp, control))
    (hid : engine.outstanding protocolIpcp = some control.identifier)
    (hcode : control.code = codeConfigureNak ∨ control.code = codeConfigureReject) :
    (engine.call (.handleIncoming packet)).1.queued = [ipcpRequest engine.nextIdentifier
      (if control.code = codeConfigureNak then
        (parseIpcpIpAddress control.options).getD engine.requestedIp else .unspecified)] := by
  have hparse := (parse_of_asControl hc).2
  have hid : some control.identifier = engine.ipcpIdentifier := hid.symm
  have h1 : control.code ≠ codeConfigureRequest := by rcases hcode with h | h <;> rw [h] <;> decide
  have h2 : control.code ≠ codeConfigureAck := by rcases hcode with h | h <;> rw [h] <;> decide
  simp only [PppEngine.call, handleIncoming_ipcp hc, PppEngine.handleIpcp, hparse]
  rw [if_neg h1, if_neg (fun h => h2 h.1)]
  rcases hcode with hcode | hcode
  · rw [if_pos ⟨hcode, hid⟩, if_pos hcode]
    cases parseIpcpIpAddress control.options <;> exact List.drop_left' rfl
  · have h3 : control.code ≠ codeConfigureNak := by rw [hcode]; decide
    rw [if_neg (fun h => h3 h.1), if_pos ⟨hcode, hid⟩, if_neg h3]
    exact List.drop_left' rfl

/-! ### Obeying -/

/-- The packet is an answer with code `code` to the outstanding request of `protocol`. -/
structure Answers (engine : PppEngine) (protocol : UInt16) (code : UInt8) (packet : PppPacket)
    (control : ControlPacket) : Prop where
  known : protocol = protocolLcp ∨ protocol = protocolIpcp
  reads : packet.asControl = some (protocol, control)
  code : control.code = code
  identifier : engine.outstanding protocol = some control.identifier

/-- The requests of `protocol` queued by `packet` and by the calls after it. -/
def requestsFrom (front : List Call) (packet : PppPacket) (back : List Call) (protocol : UInt16) :
    List ControlPacket :=
  requests protocol (history PppEngine.call (PppEngine.reached front) (.handleIncoming packet :: back))

/-- Naks and Rejects are obeyed in a run: the first request after a Nak carries the value it suggests
for the option the engine requests, and no request after a Reject carries an option it lists. -/
structure Obeys (calls : List Call) : Prop where
  nak : ∀ front packet back protocol control value, calls = front ++ .handleIncoming packet :: back →
    Answers (PppEngine.reached front) protocol codeConfigureNak packet control →
    carried protocol control.options = some value →
    ∀ request, (requestsFrom front packet back protocol).head? = some request →
      carried protocol request.options = some value
  reject : ∀ front packet back protocol control, calls = front ++ .handleIncoming packet :: back →
    Answers (PppEngine.reached front) protocol codeConfigureReject packet control →
    Lists protocol control.options →
    ∀ request ∈ requestsFrom front packet back protocol, ¬ Lists protocol request.options

/-- The packet is a Nak that suggests another MRU than the engine's own, or a Reject that lists the
option the engine requests. -/
def Unheeded (engine : PppEngine) (packet : PppPacket) : Prop :=
  ∃ protocol control,
    (protocol = protocolLcp ∧ Answers engine protocol codeConfigureNak packet control ∧
      ∃ value, carried protocol control.options = some value ∧ value ≠ toBeBytes lcpDefaultMru) ∨
    (Answers engine protocol codeConfigureReject packet control ∧ Lists protocol control.options)

/-- The first request after a Nak or a Reject, with the option of its protocol. -/
theorem Answers.next {front : List Call} {protocol : UInt16} {code : UInt8}
    (h : Answers (PppEngine.reached front) protocol code packet control)
    (hcode : code = codeConfigureNak ∨ code = codeConfigureReject) (back : List Call) :
    ∃ request more, requestsFrom front packet back protocol = request :: more ∧
      Lists protocol request.options ∧
      (protocol = protocolLcp → carried protocol request.options = some (toBeBytes lcpDefaultMru)) ∧
      (protocol = protocolIpcp → code = codeConfigureNak →
        ∀ value, carried protocol control.options = some value →
          carried protocol request.options = some value) := by
  have hcons : requestsFrom front packet back protocol =
      ((PppEngine.reached front).call (.handleIncoming packet)).1.queued.filterMap (asRequest protocol) ++
        requests protocol (history PppEngine.call
          ((PppEngine.reached front).call (.handleIncoming packet)).2 back) := rfl
  have hcontrol : control.code = codeConfigureNak ∨ control.code = codeConfigureReject := by
    rw [h.code]; exact hcode
  rcases h.known with rfl | rfl
  · obtain ⟨request, hr, hcarried, hlists⟩ := lcpRequest_option (PppEngine.reached front).nextIdentifier
    rw [queued_lcp h.reads h.identifier hcontrol, List.filterMap_cons_some hr] at hcons
    refine ⟨request, _, hcons, hlists, fun _ => hcarried, ?_⟩
    intro hne
    exact absurd hne (by decide)
  · obtain ⟨request, hr, hcarried, hlists⟩ :=
      ipcpRequest_option (PppEngine.reached front).nextIdentifier _
    rw [queued_ipcp h.reads h.identifier hcontrol, List.filterMap_cons_some hr] at hcons
    refine ⟨request, _, hcons, hlists, ?_, ?_⟩
    · intro hne
      exact absurd hne (by decide)
    · intro _ hnak value hvalue
      rw [← parseIpcpIpAddress_octets] at hvalue
      obtain ⟨ip, hip, hoctets⟩ := Option.map_eq_some_iff.mp hvalue
      rw [hcarried, if_pos (h.code.trans hnak), hip, Option.getD_some, hoctets]

/-- **When Naks and Rejects are obeyed**: exactly when the gateway never suggests, for the LCP request
that is outstanding, another MRU than the one requested, and never rejects the option of an
outstanding request. -/
theorem obeys_iff (calls : List Call) : Obeys calls ↔
    ∀ front packet back, calls = front ++ .handleIncoming packet :: back →
      ¬ Unheeded (PppEngine.reached front) packet := by
  constructor
  · rintro h front packet back hcalls ⟨protocol, control, hunheeded⟩
    rcases hunheeded with ⟨rfl, hanswers, value, hvalue, hne⟩ | ⟨hanswers, hlists⟩
    · obtain ⟨request, more, hnext, -, hmru, -⟩ := hanswers.next (.inl rfl) back
      have hobeyed := h.nak front packet back _ control value hcalls hanswers hvalue request
        (by rw [hnext]; rfl)
      rw [hmru rfl] at hobeyed
      exact hne (Option.some.inj hobeyed).symm
    · obtain ⟨request, more, hnext, hrequest, -⟩ := hanswers.next (.inr rfl) back
      exact h.reject front packet back protocol control hcalls hanswers hlists request
        (by rw [hnext]; simp) hrequest
  · intro h
    constructor
    · intro front packet back protocol control value hcalls hanswers hvalue request hhead
      obtain ⟨first, more, hnext, -, hmru, haddress⟩ := hanswers.next (.inl rfl) back
      rw [hnext] at hhead
      obtain rfl := Option.some.inj hhead
      rcases hanswers.known with rfl | rfl
      · rw [hmru rfl]
        by_contra hne
        refine h front packet back hcalls ⟨protocolLcp, control, .inl ⟨rfl, hanswers, value, hvalue, ?_⟩⟩
        rintro rfl
        exact hne rfl
      · exact haddress rfl rfl value hvalue
    · intro front packet back protocol control hcalls hanswers hlists
      exact absurd ⟨protocol, control, .inr ⟨hanswers, hlists⟩⟩ (h front packet back hcalls)

/-- The gateway suggests an MRU of 1400 for the first LCP request, and gets it again. -/
theorem naks_not_obeyed : ¬ ∀ calls, Obeys calls := by
  intro h
  have hanswers : Answers (PppEngine.reached [.start]) protocolLcp codeConfigureNak
      (controlPacket protocolLcp codeConfigureNak 1 [lcpOptionMru, 4, 0x05, 0x78])
      ⟨codeConfigureNak, 1, [lcpOptionMru, 4, 0x05, 0x78]⟩ :=
    ⟨.inl rfl, by decide, rfl, by decide +kernel⟩
  have hobeyed := (h [.start, .handleIncoming (controlPacket protocolLcp codeConfigureNak 1
    [lcpOptionMru, 4, 0x05, 0x78])]).nak [.start] _ [] protocolLcp _ [0x05, 0x78] rfl hanswers
    (by decide +kernel) ⟨codeConfigureRequest, 2, [lcpOptionMru, 4, 0x05, 0x4a]⟩ (by decide +kernel)
  exact absurd hobeyed (by decide +kernel)

end OpenfortivpnRs.Tunnel
