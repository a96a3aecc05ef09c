import OpenfortivpnRs.Text

/-!
# The configuration the gateway sends (`auth/portal.rs`)

`parse_vpn_config_xml` looks for tags and attributes in the text; it does not parse XML.
-/

namespace OpenfortivpnRs.Auth

open Text

structure Ipv4Route where
  destination : String
  mask : String
  gateway : Option String
  deriving DecidableEq, Repr

structure VpnConfigXml where
  rawXml : String
  gateway : Option String
  assignedIp : Option String
  dnsServers : List String
  dnsSuffix : Option String
  splitRoutes : List Ipv4Route
  deriving DecidableEq, Repr

/-- A tag name ends where `rest` begins. -/
def nameBoundary (rest : List Char) : Bool :=
  match rest.head? with
  | some ch => isAsciiWhitespace ch || ch == '/' || ch == '>'
  | none => true

theorem splitOnce_drop_lt {needle s before after xml : List Char} {n : ℕ} (hn : needle ≠ [])
    (h : splitOnce needle (s.drop n) = some (before, after)) (hlt : s.length < xml.length) :
    after.length < xml.length := by
  have hshort := splitOnce_lt hn h
  rw [List.length_drop] at hshort
  omega

/-- `start_tags`: the inside of each start tag of the name `tag`. -/
def startTags (xml tag : List Char) : List (List Char) :=
  match h : splitOnce ['<'] xml with
  | none => []
  | some (_, afterLt) =>
    have hlt := splitOnce_lt (List.cons_ne_nil _ _) h
    if afterLt.head? = some '/' ∨ afterLt.head? = some '!' ∨ afterLt.head? = some '?' then
      startTags afterLt tag
    else if tag <+: afterLt ∧ nameBoundary (afterLt.drop tag.length) then
      match h' : splitOnce ['>'] (afterLt.drop tag.length) with
      | none => []
      | some (inside, rest) =>
        have : rest.length < xml.length := splitOnce_drop_lt (List.cons_ne_nil _ _) h' hlt
        (tag ++ inside) :: startTags rest tag
    else startTags afterLt tag
termination_by xml.length

/-- `element_bodies`: what stands between each start tag of the name `tag` and the end tag. -/
def elementBodies (xml tag : List Char) : List (List Char) :=
  let close := ['<', '/'] ++ tag ++ ['>']
  match h : splitOnce ['<'] xml with
  | none => []
  | some (_, afterLt) =>
    have hlt := splitOnce_lt (List.cons_ne_nil _ _) h
    if ¬ tag <+: afterLt then elementBodies afterLt tag
    else if ¬ nameBoundary (afterLt.drop tag.length) then elementBodies afterLt tag
    else
      match h' : splitOnce ['>'] (afterLt.drop tag.length) with
      | none => []
      | some (inside, body) =>
        have hbody : body.length < xml.length := splitOnce_drop_lt (List.cons_ne_nil _ _) h' hlt
        if ['/', '>'] <:+ trimEnd (['<'] ++ tag ++ inside ++ ['>']) then elementBodies body tag
        else
          match h'' : splitOnce close body with
          | none => []
          | some (content, rest) =>
            have : rest.length < xml.length := (splitOnce_lt (by simp [close]) h'').trans hbody
            content :: elementBodies rest tag
termination_by xml.length

/-- `xml_unescape`. -/
def xmlUnescape (value : List Char) : List Char :=
  let value := replace ['&', 'l', 't', ';'] ['<'] (by simp) value
  let value := replace ['&', 'g', 't', ';'] ['>'] (by simp) value
  let value := replace ['&', 'a', 'm', 'p', ';'] ['&'] (by simp) value
  let value := replace ['&', 'q', 'u', 'o', 't', ';'] ['"'] (by simp) value
  replace ['&', 'a', 'p', 'o', 's', ';'] ['\''] (by simp) value

/-- The characters that end an attribute name. -/
def endsName (ch : Char) : Bool := isAsciiWhitespace ch || ch == '=' || ch == '/' || ch == '>'

theorem trimStart_length_le (s : List Char) : (trimStart s).length ≤ s.length :=
  (List.dropWhile_suffix _).length_le

/-- What stands behind an attribute name is shorter. -/
theorem afterName_lt {rest name : List Char} (hrest : rest ≠ []) (hname : name ≠ []) :
    (trimStart ((trimStart rest).drop name.length)).length < rest.length := by
  have h1 := trimStart_length_le ((trimStart rest).drop name.length)
  have h2 := trimStart_length_le rest
  have h3 := List.length_pos_iff.mpr hname
  have h4 := List.length_pos_iff.mpr hrest
  rw [List.length_drop] at h1
  omega

/-- The loop of `attr_value` over the attributes that are left. -/
def attrLoop (attr rest : List Char) : Option (List Char) :=
  if hrest : rest = [] then none
  else if (trimStart rest).head? = some '/' then none
  else
    let name := (trimStart rest).takeWhile fun ch => !endsName ch
    if hname : name = [] then none
    else
      have hlt := afterName_lt hrest hname
      match h : trimStart ((trimStart rest).drop name.length) with
      | '=' :: assigned =>
        match hq : trimStart assigned with
        | [] => none
        | quote :: valueRest =>
          if quote ≠ '\'' ∧ quote ≠ '"' then none
          else
            match hv : splitOnce [quote] valueRest with
            | none => none
            | some (value, after) =>
              have : after.length < rest.length := by
                have h1 := splitOnce_lt (List.cons_ne_nil _ _) hv
                have h2 := trimStart_length_le assigned
                rw [h, List.length_cons] at hlt
                rw [hq, List.length_cons] at h2
                omega
              if name = attr then some (xmlUnescape value) else attrLoop attr after
      | more =>
        have : more.length < rest.length := h ▸ hlt
        attrLoop attr more
termination_by rest.length

/-- `attr_value`. -/
def attrValue (startTag attr : List Char) : Option (List Char) :=
  match (trimStart startTag).dropWhile fun ch => !isWhitespace ch with
  | [] => none
  | _ :: afterName => attrLoop attr afterName

/-- `xml_values`. -/
def xmlValues (xml tag : List Char) : List (List Char) :=
  let opening := ['<'] ++ tag ++ ['>']
  let close := ['<', '/'] ++ tag ++ ['>']
  match h : splitOnce opening xml with
  | none => []
  | some (_, afterOpen) =>
    match h' : splitOnce close afterOpen with
    | none => []
    | some (value, rest) =>
      have : rest.length < xml.length := by
        have h1 := splitOnce_lt (by simp [opening]) h
        have h2 := splitOnce_lt (by simp [close]) h'
        omega
      xmlUnescape (trimEnd (trimStart value)) :: xmlValues rest tag
termination_by xml.length

/-- `tag_attr_values`. -/
def tagAttrValues (xml tag attr : List Char) : List (List Char) :=
  (startTags xml tag).filterMap fun startTag => attrValue startTag attr

/-- `first_tag_attr`. -/
def firstTagAttr (xml tag attr : List Char) : Option (List Char) := (tagAttrValues xml tag attr).head?

/-- `first_xml_value`. -/
def firstXmlValue (xml tag : List Char) : Option (List Char) := (xmlValues xml tag).head?

/-- `parse_split_routes`. -/
def parseSplitRoutes (xml : List Char) (gateway : Option String) : List Ipv4Route :=
  ((elementBodies xml "split-tunnel-info".toList).flatMap fun body => startTags body "addr".toList).filterMap
    fun startTag => do
      let destination ← attrValue startTag "ip".toList
      let mask ← attrValue startTag "mask".toList
      return ⟨.ofList destination, .ofList mask, gateway⟩

/-- `parse_vpn_config_xml`. -/
def parseVpnConfigXml (rawXml : String) : VpnConfigXml :=
  let xml := rawXml.toList
  let gateway := firstTagAttr xml "assigned-addr".toList "ipv4".toList
  let assignedIp := gateway.orElse fun _ => (firstXmlValue xml "assigned-addr".toList).orElse fun _ =>
    (firstXmlValue xml "ip".toList).orElse fun _ => firstXmlValue xml "addr".toList
  let dnsServers := tagAttrValues xml "dns".toList "ip".toList ++ xmlValues xml "dns-server".toList
  let dnsServers := if dnsServers = [] then xmlValues xml "dns".toList else dnsServers
  let dnsSuffix := (firstTagAttr xml "dns".toList "domain".toList).orElse fun _ =>
    (firstXmlValue xml "dns-suffix".toList).orElse fun _ => firstXmlValue xml "domain".toList
  { rawXml := rawXml
    gateway := gateway.map .ofList
    assignedIp := assignedIp.map .ofList
    dnsServers := dnsServers.map .ofList
    dnsSuffix := dnsSuffix.map .ofList
    splitRoutes := parseSplitRoutes xml (gateway.map .ofList) }

/-- Every split route goes through the gateway of the configuration. -/
theorem gateway_of_mem_splitRoutes {rawXml : String} {route : Ipv4Route}
    (h : route ∈ (parseVpnConfigXml rawXml).splitRoutes) :
    route.gateway = (parseVpnConfigXml rawXml).gateway := by
  obtain ⟨startTag, -, hroute⟩ := List.mem_filterMap.mp h
  obtain ⟨destination, -, hroute⟩ := Option.bind_eq_some_iff.mp hroute
  obtain ⟨mask, -, hroute⟩ := Option.bind_eq_some_iff.mp hroute
  cases hroute
  rfl

end OpenfortivpnRs.Auth
