import OpenfortivpnRs.Net.Plan

/-!
# The routes of the proxy (`proxy/route_table.rs`)

The proxy decides by masked integers which destinations go through the VPN; in system mode the
kernel decides by the routes of the plan.  Both cover an address when its first bits are those of a
route (`contains_iff`, `covers_split`), so the modes agree unless routes without a gateway are
dropped from the plan.
-/

namespace OpenfortivpnRs.Proxy

open Auth Net

/-- One turn of the loop of `ipv4_mask_to_prefix` of this file, which counts the parts as it goes. -/
def countPart (counted : ℕ × MaskState) (part : List Char) : Option (ℕ × MaskState) := do
  let s ← maskPart counted.2 part
  return (counted.1 + 1, s)

/-- `ipv4_mask_to_prefix` of this file. -/
def ipv4MaskToPrefix (mask : String) : Option ℕ := do
  let (octets, s) ← (mask.toList.splitOn '.').foldlM countPart (0, ⟨0, false⟩)
  if octets = 4 then some s.prefixLen else none

structure Ipv4Net where
  network : Ipv4Addr
  prefixLen : ℕ
  deriving DecidableEq, Repr

namespace Ipv4Net

def new (network : Ipv4Addr) (prefixLen : ℕ) : Ipv4Net :=
  let prefixLen := min prefixLen 32
  ⟨.ofU32 (network.toU32 &&& prefixMask prefixLen), prefixLen⟩

/-- `from_addr_and_mask`. -/
def fromAddrAndMask (addr mask : String) : Option Ipv4Net := do
  let addr ← Ipv4Addr.parse addr
  let prefixLen ← ipv4MaskToPrefix mask
  return .new addr prefixLen

def contains (net : Ipv4Net) (addr : Ipv4Addr) : Bool :=
  addr.toU32 &&& prefixMask net.prefixLen == net.network.toU32

end Ipv4Net

structure ProxyRouteTable where
  routes : List Ipv4Net
  deriving DecidableEq, Repr

namespace ProxyRouteTable

/-- `from_config`. -/
def fromConfig (config : Config) (vpnConfig : VpnConfigXml) : ProxyRouteTable :=
  if ¬ config.setRoutes then ⟨[]⟩
  else if vpnConfig.splitRoutes ≠ [] then
    ⟨vpnConfig.splitRoutes.filterMap fun route => Ipv4Net.fromAddrAndMask route.destination route.mask⟩
  else if config.halfInternetRoutes then
    ⟨[.new ⟨0, 0, 0, 0⟩ 1, .new ⟨128, 0, 0, 0⟩ 1]⟩
  else ⟨[.new ⟨0, 0, 0, 0⟩ 0]⟩

/-- `can_route`. -/
def canRoute (table : ProxyRouteTable) (destination : Ipv4Addr) : Bool :=
  table.routes.any fun route => route.contains destination

end ProxyRouteTable

/-! ### The meaning of a route -/

/-- The first `k` bits of two addresses are the same. -/
def SamePrefix (k : ℕ) (x y : Ipv4Addr) : Prop :=
  x.toU32.toNat / 2 ^ (32 - k) = y.toU32.toNat / 2 ^ (32 - k)

instance (k : ℕ) (x y : Ipv4Addr) : Decidable (SamePrefix k x y) := by
  unfold SamePrefix; infer_instance

/-- The network `D/k` a text names. -/
def parseNet (text : String) : Option (Ipv4Addr × ℕ) := do
  let (addr, len) ← Text.splitOnce ['/'] text.toList
  let addr ← Ipv4Addr.parse (.ofList addr)
  let len ← Text.parseUnsigned 32 len
  return (addr, len)

/-- The action covers the address: it replaces the default route, or adds a route `D/k` whose first
`k` bits the address has. -/
def Covers (action : NetworkAction) (addr : Ipv4Addr) : Prop :=
  match action with
  | .replaceDefaultRoute _ _ => True
  | .runCommand "ip" ("route" :: "add" :: net :: _) =>
    ∃ dest k, parseNet net = some (dest, k) ∧ SamePrefix k dest addr
  | _ => False

/-! ### Masks -/

theorem toNat_prefixMask : ∀ k ≤ 32, (prefixMask k).toNat = (2 ^ k - 1) <<< (32 - k) := by decide

/-- The mask of length `k` keeps the first `k` bits. -/
theorem testBit_and_prefixMask {k : ℕ} (h : k ≤ 32) (x : UInt32) (i : ℕ) :
    (x &&& prefixMask k).toNat.testBit i = (x.toNat.testBit i && decide (32 - k ≤ i)) := by
  rw [UInt32.toNat_and, Nat.testBit_and, toNat_prefixMask k h, Nat.testBit_shiftLeft,
    Nat.testBit_two_pow_sub_one]
  by_cases hi : i < 32
  · by_cases hk : 32 - k ≤ i
    · have hlt : i - (32 - k) < k := by omega
      simp [hk, hlt]
    · simp [hk]
  · have hx : x.toNat.testBit i = false :=
      Nat.testBit_lt_two_pow (x.toNat_lt.trans_le (Nat.pow_le_pow_right (by omega) (by omega)))
    simp [hx]

/-- Two addresses agree under the mask of length `k` when their first `k` bits are the same. -/
theorem and_prefixMask_eq_iff {k : ℕ} (h : k ≤ 32) (x y : UInt32) :
    x &&& prefixMask k = y &&& prefixMask k ↔ x.toNat / 2 ^ (32 - k) = y.toNat / 2 ^ (32 - k) := by
  constructor
  · intro heq
    apply Nat.eq_of_testBit_eq
    intro j
    have hbit := congrArg (fun z : UInt32 => z.toNat.testBit (j + (32 - k))) heq
    simp only [testBit_and_prefixMask h] at hbit
    rw [Nat.testBit_div_two_pow, Nat.testBit_div_two_pow]
    simpa using hbit
  · intro heq
    apply UInt32.toNat_inj.mp
    apply Nat.eq_of_testBit_eq
    intro i
    rw [testBit_and_prefixMask h, testBit_and_prefixMask h]
    by_cases hi : 32 - k ≤ i
    · have hbit := congrArg (fun z : ℕ => z.testBit (i - (32 - k))) heq
      simp only [Nat.testBit_div_two_pow] at hbit
      rw [Nat.sub_add_cancel hi] at hbit
      rw [hbit]
    · simp [hi]

/-- **A route of the proxy contains the addresses that share its first bits.** -/
theorem Ipv4Net.contains_iff {k : ℕ} (h : k ≤ 32) (network addr : Ipv4Addr) :
    (Ipv4Net.new network k).contains addr = true ↔ SamePrefix k network addr := by
  unfold Ipv4Net.contains Ipv4Net.new SamePrefix
  simp only [Nat.min_eq_left h, Ipv4Addr.toU32_ofU32, beq_iff_eq]
  rw [and_prefixMask_eq_iff h]
  exact eq_comm

theorem foldlM_countPart (parts : List (List Char)) (n : ℕ) (s : MaskState) :
    parts.foldlM countPart (n, s) =
      (parts.foldlM maskPart s).map fun s => (n + parts.length, s) := by
  induction parts generalizing n s with
  | nil => rfl
  | cons part parts ih =>
    rw [List.foldlM_cons, List.foldlM_cons]
    cases hpart : maskPart s part with
    | none =>
      have hcount : countPart (n, s) part = none := by simp [countPart, hpart]
      rw [hcount]
      rfl
    | some s' =>
      have hcount : countPart (n, s) part = some (n + 1, s') := by simp [countPart, hpart]
      rw [hcount]
      show parts.foldlM countPart (n + 1, s') = (parts.foldlM maskPart s').map _
      rw [ih, List.length_cons, Nat.add_right_comm, Nat.add_assoc]

/-- A contiguous mask converts to the number of its ones. -/
theorem ipv4MaskToPrefix_eq {mask : String} {k : ℕ} (h : IsNetmask mask k) :
    ipv4MaskToPrefix mask = some k := by
  obtain ⟨hlen, hfold⟩ := h.foldlM
  unfold ipv4MaskToPrefix
  rw [foldlM_countPart, hfold, hlen]
  rfl

/-! ### Split routes -/

/-- A split route with a dotted-quad destination and a contiguous mask. -/
structure WellFormed (route : Ipv4Route) : Prop where
  destination : (Ipv4Addr.parse route.destination).isSome
  mask : ∃ k, IsNetmask route.mask k

/-- What the two modes make of a split route: its destination and the length of its mask. -/
theorem WellFormed.exists_net {route : Ipv4Route} (h : WellFormed route) :
    ∃ dest k, k ≤ 32 ∧ Ipv4Addr.parse route.destination = some dest ∧
      Net.ipv4MaskToPrefix route.mask = some k ∧ ipv4MaskToPrefix route.mask = some k := by
  obtain ⟨dest, hdest⟩ := Option.isSome_iff_exists.mp h.destination
  obtain ⟨k, hk⟩ := h.mask
  exact ⟨dest, k, hk.1, hdest, Net.ipv4MaskToPrefix_eq hk, ipv4MaskToPrefix_eq hk⟩

/-- The text the plan writes for a network names it. -/
theorem parseNet_text {text : String} {dest : Ipv4Addr} {k : ℕ}
    (h : Ipv4Addr.parse text = some dest) (hk : k ≤ 32) :
    parseNet (text ++ "/" ++ toString k) = some (dest, k) := by
  have hslash : '/' ∉ text.toList := by
    intro hmem
    rcases Ipv4Addr.mem_of_parse h hmem with hdot | hdigit
    · exact absurd hdot (by decide)
    · exact absurd hdigit (by decide)
  have hsplit : Text.splitOnce ['/'] (text ++ "/" ++ toString k).toList =
      some (text.toList, (toString k).toList) := by
    rw [String.toList_append, String.toList_append, List.append_assoc]
    exact Text.splitOnce_char _ hslash
  simp only [parseNet, hsplit, Option.bind_eq_bind, Option.bind_some, String.ofList_toList, h,
    Text.parseUnsigned_toString hk, Option.pure_def]

/-- The address has the first bits of the destination of a split route. -/
def RouteHas (route : Ipv4Route) (addr : Ipv4Addr) : Prop :=
  ∃ dest k, k ≤ 32 ∧ Ipv4Addr.parse route.destination = some dest ∧
    ipv4MaskToPrefix route.mask = some k ∧ SamePrefix k dest addr

/-- The proxy routes what its split routes have. -/
theorem contains_fromAddrAndMask {route : Ipv4Route} (h : WellFormed route) (addr : Ipv4Addr) :
    (∃ net, Ipv4Net.fromAddrAndMask route.destination route.mask = some net ∧
      net.contains addr = true) ↔ RouteHas route addr := by
  obtain ⟨dest, k, hk, hdest, -, hmask⟩ := h.exists_net
  have hnet : Ipv4Net.fromAddrAndMask route.destination route.mask = some (.new dest k) := by
    simp [Ipv4Net.fromAddrAndMask, hdest, hmask]
  rw [hnet]
  constructor
  · rintro ⟨net, hsome, hc⟩
    cases hsome
    exact ⟨dest, k, hk, hdest, hmask, (Ipv4Net.contains_iff hk dest addr).mp hc⟩
  · rintro ⟨dest', k', -, hdest', hmask', hsame⟩
    cases hdest.symm.trans hdest'
    cases hmask.symm.trans hmask'
    exact ⟨_, rfl, (Ipv4Net.contains_iff hk dest addr).mpr hsame⟩

/-- The plan covers what the split routes that have a gateway have. -/
theorem covers_routeAction {route : Ipv4Route} (h : WellFormed route) (interface : String)
    (addr : Ipv4Addr) :
    (∃ action, routeAction route .linux interface = some action ∧ Covers action addr) ↔
      route.gateway.isSome ∧ RouteHas route addr := by
  obtain ⟨dest, k, hk, hdest, hmask, hmask'⟩ := h.exists_net
  have hhas : RouteHas route addr ↔ SamePrefix k dest addr := by
    constructor
    · rintro ⟨dest', k', -, hd, hm, hsame⟩
      cases hdest.symm.trans hd
      cases hmask'.symm.trans hm
      exact hsame
    · exact fun hsame => ⟨dest, k, hk, hdest, hmask', hsame⟩
  rw [hhas]
  unfold routeAction
  cases hgw : route.gateway with
  | none => simp
  | some gateway =>
    have haction : routeActionFromParts route.destination route.mask (some gateway) .linux interface =
        .runCommand "ip" ("route" :: "add" :: (route.destination ++ "/" ++ toString k) ::
          ["via", gateway, "dev", interface]) := by
      simp only [routeActionFromParts, hmask]
      rfl
    constructor
    · rintro ⟨action, hsome, hc⟩
      cases hsome
      rw [haction] at hc
      obtain ⟨dest', k', hnet, hsame⟩ := hc
      rw [parseNet_text hdest hk] at hnet
      cases hnet
      exact ⟨rfl, hsame⟩
    · rintro ⟨-, hsame⟩
      refine ⟨_, rfl, ?_⟩
      rw [haction]
      exact ⟨dest, k, parseNet_text hdest hk, hsame⟩

/-! ### The routes of a configuration -/

/-- Every address has the first bit of one of the halves. -/
theorem samePrefix_half (addr : Ipv4Addr) :
    SamePrefix 1 ⟨0, 0, 0, 0⟩ addr ∨ SamePrefix 1 ⟨128, 0, 0, 0⟩ addr := by
  have hlt := addr.toU32.toNat_lt
  have h0 : (Ipv4Addr.toU32 ⟨0, 0, 0, 0⟩).toNat = 0 := by decide
  have h128 : (Ipv4Addr.toU32 ⟨128, 0, 0, 0⟩).toNat = 2 ^ 31 := by decide
  unfold SamePrefix
  rw [h0, h128]
  omega

theorem samePrefix_zero (x y : Ipv4Addr) : SamePrefix 0 x y := by
  have hx := x.toU32.toNat_lt
  have hy := y.toU32.toNat_lt
  unfold SamePrefix
  omega

theorem isNetmask_half : IsNetmask "128.0.0.0" 1 := ⟨by decide, by decide⟩

/-- Without split routes the plan covers every address. -/
theorem covers_planRoutes_nil (half : Bool) (interface : String) (addr : Ipv4Addr) :
    ∃ action ∈ planRoutes [] half .linux interface, Covers action addr := by
  have hmask := Net.ipv4MaskToPrefix_eq isNetmask_half
  cases half with
  | false => exact ⟨.replaceDefaultRoute .linux interface, by simp [planRoutes], trivial⟩
  | true =>
    have hroutes : planRoutes [] true .linux interface =
        [.runCommand "ip" ["route", "add", "0.0.0.0" ++ "/" ++ toString 1, "dev", interface],
          .runCommand "ip" ["route", "add", "128.0.0.0" ++ "/" ++ toString 1, "dev", interface]] := by
      simp only [planRoutes, routeActionFromParts, hmask]
      rfl
    rw [hroutes]
    rcases samePrefix_half addr with h | h
    · exact ⟨_, List.mem_cons_self, _, _, parseNet_text (by decide) (by decide), h⟩
    · exact ⟨_, List.mem_cons_of_mem _ List.mem_cons_self, _, _,
        parseNet_text (by decide) (by decide), h⟩

/-- Without split routes the proxy routes every address. -/
theorem canRoute_nil {config : Config} {vpnConfig : VpnConfigXml} (hset : config.setRoutes = true)
    (hnil : vpnConfig.splitRoutes = []) (addr : Ipv4Addr) :
    (ProxyRouteTable.fromConfig config vpnConfig).canRoute addr = true := by
  unfold ProxyRouteTable.fromConfig
  rw [if_neg (by simp [hset]), if_neg (by simp [hnil])]
  split
  · unfold ProxyRouteTable.canRoute
    rcases samePrefix_half addr with h | h
    · have := (Ipv4Net.contains_iff (by decide) _ _).mpr h
      simp [this]
    · have := (Ipv4Net.contains_iff (by decide) _ _).mpr h
      simp [this]
  · unfold ProxyRouteTable.canRoute
    have := (Ipv4Net.contains_iff (by decide) _ _).mpr (samePrefix_zero ⟨0, 0, 0, 0⟩ addr)
    simp [this]

/-- With split routes the proxy routes what they have. -/
theorem canRoute_split {config : Config} {vpnConfig : VpnConfigXml} (hset : config.setRoutes = true)
    (hne : vpnConfig.splitRoutes ≠ []) (hwf : ∀ route ∈ vpnConfig.splitRoutes, WellFormed route)
    (addr : Ipv4Addr) :
    (ProxyRouteTable.fromConfig config vpnConfig).canRoute addr = true ↔
      ∃ route ∈ vpnConfig.splitRoutes, RouteHas route addr := by
  unfold ProxyRouteTable.fromConfig ProxyRouteTable.canRoute
  rw [if_neg (by simp [hset]), if_pos hne]
  simp only [List.any_eq_true, List.mem_filterMap]
  constructor
  · rintro ⟨net, ⟨route, hmem, hnet⟩, hc⟩
    exact ⟨route, hmem, (contains_fromAddrAndMask (hwf route hmem) addr).mp ⟨net, hnet, hc⟩⟩
  · rintro ⟨route, hmem, hhas⟩
    obtain ⟨net, hnet, hc⟩ := (contains_fromAddrAndMask (hwf route hmem) addr).mpr hhas
    exact ⟨net, ⟨route, hmem, hnet⟩, hc⟩

/-- The actions of a plan that cover an address are those that route it. -/
theorem covers_plan_iff {config : Config} {vpnConfig : VpnConfigXml} (hset : config.setRoutes = true)
    (interface : String) (endpoint : Option Ipv4Addr) (addr : Ipv4Addr) :
    (∃ action ∈ (planNetworkActions config vpnConfig .linux interface endpoint).actions,
      Covers action addr) ↔
    ∃ action ∈ planRoutes vpnConfig.splitRoutes config.halfInternetRoutes .linux interface,
      Covers action addr := by
  unfold planNetworkActions
  simp only [hset, if_true]
  constructor
  · rintro ⟨action, hmem, hc⟩
    rw [List.mem_append, List.mem_append] at hmem
    rcases hmem with (htunnel | hroute) | hdns
    · cases endpoint with
      | none => cases htunnel
      | some endpoint =>
        simp only [List.mem_cons, List.not_mem_nil, or_false] at htunnel
        rcases htunnel with rfl | rfl <;> exact hc.elim
    · exact ⟨action, hroute, hc⟩
    · split at hdns
      · rw [List.mem_singleton] at hdns
        subst hdns
        exact hc.elim
      · cases hdns
  · rintro ⟨action, hmem, hc⟩
    exact ⟨action, List.mem_append_left _ (List.mem_append_right _ hmem), hc⟩

/-- With split routes the plan covers what those with a gateway have. -/
theorem covers_planRoutes_split {routes : List Ipv4Route} (hne : routes ≠ [])
    (hwf : ∀ route ∈ routes, WellFormed route) (half : Bool) (interface : String) (addr : Ipv4Addr) :
    (∃ action ∈ planRoutes routes half .linux interface, Covers action addr) ↔
      ∃ route ∈ routes, route.gateway.isSome ∧ RouteHas route addr := by
  unfold planRoutes
  rw [if_pos hne]
  simp only [List.mem_filterMap]
  constructor
  · rintro ⟨action, ⟨route, hmem, haction⟩, hc⟩
    exact ⟨route, hmem, (covers_routeAction (hwf route hmem) interface addr).mp ⟨action, haction, hc⟩⟩
  · rintro ⟨route, hmem, hroute⟩
    obtain ⟨action, haction, hc⟩ := (covers_routeAction (hwf route hmem) interface addr).mpr hroute
    exact ⟨action, ⟨route, hmem, haction⟩, hc⟩

/-- **The modes agree when the gateway is known.**  For a configuration the gateway sends, the proxy
routes exactly the addresses the plan covers if there are no split routes or the configuration names
a gateway; otherwise the plan has no route for any of them. -/
theorem modes_agree_iff {config : Config} (hset : config.setRoutes = true) (rawXml interface : String)
    (endpoint : Option Ipv4Addr)
    (hwf : ∀ route ∈ (parseVpnConfigXml rawXml).splitRoutes, WellFormed route) :
    (∀ addr, (ProxyRouteTable.fromConfig config (parseVpnConfigXml rawXml)).canRoute addr = true ↔
      ∃ action ∈ (planNetworkActions config (parseVpnConfigXml rawXml) .linux interface
        endpoint).actions, Covers action addr) ↔
    (parseVpnConfigXml rawXml).splitRoutes = [] ∨ (parseVpnConfigXml rawXml).gateway.isSome := by
  have hgw : ∀ route ∈ (parseVpnConfigXml rawXml).splitRoutes,
      route.gateway = (parseVpnConfigXml rawXml).gateway := fun _ => gateway_of_mem_splitRoutes
  generalize parseVpnConfigXml rawXml = vpnConfig at hwf hgw ⊢
  by_cases hnil : vpnConfig.splitRoutes = []
  · refine iff_of_true (fun addr => ?_) (.inl hnil)
    rw [covers_plan_iff hset, hnil]
    exact iff_of_true (canRoute_nil hset hnil addr) (covers_planRoutes_nil _ _ addr)
  · have hiff : ∀ addr, (∃ action ∈ (planNetworkActions config vpnConfig .linux interface
        endpoint).actions, Covers action addr) ↔
        ∃ route ∈ vpnConfig.splitRoutes, route.gateway.isSome ∧ RouteHas route addr := fun addr =>
      (covers_plan_iff hset interface endpoint addr).trans
        (covers_planRoutes_split hnil hwf _ _ addr)
    constructor
    · intro hagree
      obtain ⟨route, hmem⟩ := List.exists_mem_of_ne_nil _ hnil
      obtain ⟨dest, k, hk, hdest, -, hmask⟩ := (hwf route hmem).exists_net
      -- The destination of a route has its own first bits.
      have hcan := (canRoute_split hset hnil hwf dest).mpr
        ⟨route, hmem, dest, k, hk, hdest, hmask, rfl⟩
      obtain ⟨route', hmem', hsome, -⟩ := (hiff dest).mp ((hagree dest).mp hcan)
      exact .inr (hgw route' hmem' ▸ hsome)
    · intro hor addr
      have hsome := hor.resolve_left hnil
      rw [hiff, canRoute_split hset hnil hwf]
      constructor
      · rintro ⟨route, hmem, hhas⟩
        exact ⟨route, hmem, hgw route hmem ▸ hsome, hhas⟩
      · rintro ⟨route, hmem, -, hhas⟩
        exact ⟨route, hmem, hhas⟩

/-- A configuration that names its gateway. -/
def withGatewayXml : String :=
  "<assigned-addr ipv4='10.0.0.1'/><split-tunnel-info><addr ip='10.0.0.0' mask='255.0.0.0'/></split-tunnel-info>"

/-- The same configuration with the assigned address as text, and so without a gateway. -/
def withoutGatewayXml : String :=
  "<assigned-addr>10.0.0.1</assigned-addr><split-tunnel-info><addr ip='10.0.0.0' mask='255.0.0.0'/></split-tunnel-info>"

theorem parse_withGatewayXml : parseVpnConfigXml withGatewayXml =
    ⟨withGatewayXml, some "10.0.0.1", some "10.0.0.1", [], none,
      [⟨"10.0.0.0", "255.0.0.0", some "10.0.0.1"⟩]⟩ := by decide +kernel

theorem parse_withoutGatewayXml : parseVpnConfigXml withoutGatewayXml =
    ⟨withoutGatewayXml, none, some "10.0.0.1", [], none, [⟨"10.0.0.0", "255.0.0.0", none⟩]⟩ := by
  decide +kernel

theorem modes_agree_with_gateway :
    (∀ route ∈ (parseVpnConfigXml withGatewayXml).splitRoutes, WellFormed route) ∧
    ∀ addr, (ProxyRouteTable.fromConfig .default (parseVpnConfigXml withGatewayXml)).canRoute addr = true ↔
      ∃ action ∈ (planNetworkActions .default (parseVpnConfigXml withGatewayXml) .linux "ppp0"
        none).actions, Covers action addr := by
  have hwf : ∀ route ∈ (parseVpnConfigXml withGatewayXml).splitRoutes, WellFormed route := by
    rw [parse_withGatewayXml]
    rintro _ hroute
    cases List.mem_singleton.mp hroute
    exact ⟨by decide, 8, by decide, by decide⟩
  have hgateway : (parseVpnConfigXml withGatewayXml).gateway.isSome := by
    rw [parse_withGatewayXml]
    rfl
  exact ⟨hwf, (modes_agree_iff rfl withGatewayXml "ppp0" none hwf).mpr (.inr hgateway)⟩

/-- Without a gateway the proxy routes the split route, and the plan is empty. -/
theorem modes_disagree_without_gateway :
    (∀ route ∈ (parseVpnConfigXml withoutGatewayXml).splitRoutes, WellFormed route) ∧
    ¬ ∀ addr, (ProxyRouteTable.fromConfig .default (parseVpnConfigXml withoutGatewayXml)).canRoute addr =
        true ↔
      ∃ action ∈ (planNetworkActions .default (parseVpnConfigXml withoutGatewayXml) .linux "ppp0"
        none).actions, Covers action addr := by
  rw [parse_withoutGatewayXml]
  refine ⟨?_, fun hagree => ?_⟩
  · rintro _ hroute
    cases List.mem_singleton.mp hroute
    exact ⟨by decide, 8, by decide, by decide⟩
  · obtain ⟨action, hmem, -⟩ := (hagree ⟨10, 1, 2, 3⟩).mp (by decide +kernel)
    have hempty : (planNetworkActions .default ⟨withoutGatewayXml, none, some "10.0.0.1", [], none,
        [⟨"10.0.0.0", "255.0.0.0", none⟩]⟩ .linux "ppp0" none).actions = [] := by decide +kernel
    rw [hempty] at hmem
    cases hmem

end OpenfortivpnRs.Proxy
