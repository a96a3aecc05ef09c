import OpenfortivpnRs.Auth.Portal
import OpenfortivpnRs.Net.Dns
import OpenfortivpnRs.Text.Lines

/-!
# What the gateway's values do to the DNS configuration

The servers and the search domain come from the gateway's XML as they are.  The three texts made of
them are lists of commands, each closed by a newline (`buildResolvconfBody_eq`, `buildScript_eq`), and
such a text is cut into its commands if and only if no command holds a newline (`emits_iff`).  Neither
`replace(';', " ")` nor the quoting of `scutil_value` takes a newline out.
-/

namespace OpenfortivpnRs.Net

open Text

/-- The lines of `text` are the commands, one for each, and nothing stands behind the last newline. -/
def Emits (text : String) (commands : List String) : Prop :=
  text.toList.splitOn '\n' = commands.map String.toList ++ [[]]

/-- The commands that `build_macos_scutil_dns_script` is made of. -/
def scutilCommands (key interface : String) (servers : List String) (searchDomain : Option String) :
    List String :=
  let values (words : List String) := String.join (words.map fun word => " " ++ scutilValue word)
  let searchDomains := splitDnsSearchDomains searchDomain
  ["d.init", "d.add InterfaceName " ++ scutilValue interface] ++
    (if servers ≠ [] then ["d.add ServerAddresses *" ++ values servers] else []) ++
    (if searchDomains ≠ [] then
      ["d.add SearchDomains *" ++ values searchDomains,
        "d.add SupplementalMatchDomains *" ++ values searchDomains]
    else []) ++ ["set " ++ key]

/-- The texts hold the commands they are made of and no others: a `nameserver` line for each server and
a `search` line if there is a search domain, and the commands for `scutil`. -/
structure OnlyCommands (interface : String) (servers : List String) (searchDomain : Option String) : Prop where
  body : Emits (buildResolvconfBody servers searchDomain) (buildDnsLines servers searchDomain)
  entries : ∀ entry ∈ buildDnsLines servers searchDomain, '\n' ∉ entry.toList
  script : Emits (buildMacosScutilDnsScript (macosScutilDnsKey interface) interface servers searchDomain)
    (scutilCommands (macosScutilDnsKey interface) interface servers searchDomain)

/-! ### The texts as commands -/

/-- **Commands come out one for each line** if and only if there is no newline in them. -/
theorem emits_iff {text : String} {commands : List String}
    (htext : text.toList = unlines (commands.map String.toList)) :
    Emits text commands ↔ ∀ command ∈ commands, '\n' ∉ command.toList := by
  rw [Emits, htext, splitOn_unlines_iff, List.forall_mem_map]

variable (key interface : String) (servers : List String) (searchDomain : Option String)

theorem buildResolvconfBody_eq : (buildResolvconfBody servers searchDomain).toList =
    unlines ((buildDnsLines servers searchDomain).map String.toList) := by
  have hservers : (String.join (servers.map fun server => "nameserver " ++ server ++ "\n")).toList =
      unlines ((servers.map fun server => "nameserver " ++ server).map String.toList) := by
    rw [String.toList_join, unlines, List.flatMap_map, List.flatMap_map, List.flatMap_map]
    refine List.flatMap_congr fun server _ => ?_
    rw [String.toList_append]
    rfl
  unfold buildResolvconfBody buildDnsLines
  rw [String.toList_append, hservers, List.map_append]
  unfold unlines
  rw [List.flatMap_append]
  congr 1
  cases searchDomain.filter (· ≠ "") with
  | none => rfl
  | some domain => simp

theorem buildScript_eq : (buildMacosScutilDnsScript key interface servers searchDomain).toList =
    unlines ((scutilCommands key interface servers searchDomain).map String.toList) := by
  unfold buildMacosScutilDnsScript scutilCommands unlines
  by_cases hservers : servers = [] <;> by_cases hdomains : splitDnsSearchDomains searchDomain = [] <;>
    simp [hservers, hdomains]

/-! ### Where a newline comes from -/

theorem newline_mem_replaceSemicolons (value : String) :
    '\n' ∈ (replaceSemicolons value).toList ↔ '\n' ∈ value.toList := by
  unfold replaceSemicolons
  rw [String.toList_ofList, List.mem_map]
  constructor
  · rintro ⟨c, hc, hnewline⟩
    split at hnewline
    · cases hnewline
    · rwa [← hnewline]
  · intro h
    exact ⟨'\n', h, by decide⟩

/-- Quoting keeps newlines. -/
theorem newline_mem_scutilValue (value : String) : '\n' ∈ (scutilValue value).toList ↔ '\n' ∈ value.toList := by
  have hchar (ch : Char) : '\n' ∈ (if ch = '\\' ∨ ch = '"' then ['\\', ch] else [ch]) ↔ '\n' = ch := by
    split <;> simp
  unfold scutilValue
  split
  · rfl
  · simp only [String.toList_append, String.toList_ofList, List.mem_append, List.mem_flatMap, hchar]
    simp

/-- The key of an interface has no newline, whatever the name of the interface. -/
theorem newline_not_mem_key : '\n' ∉ (macosScutilDnsKey interface).toList := by
  have hchar (ch : Char) :
      (if isAsciiAlphanumeric ch || ch == '-' || ch == '_' then ch else '-') ≠ '\n' := by
    split
    · rename_i h
      rintro rfl
      revert h
      decide
    · decide
  have hcomponent : '\n' ∉ (sanitizeScutilKeyComponent interface).toList := by
    unfold sanitizeScutilKeyComponent
    simp only
    split
    · decide
    · rw [String.toList_ofList, List.mem_map]
      rintro ⟨ch, -, h⟩
      exact hchar ch h
  unfold macosScutilDnsKey
  rw [String.toList_append, String.toList_append, List.mem_append, List.mem_append, not_or, not_or]
  exact ⟨⟨by decide, hcomponent⟩, by decide⟩

theorem newline_mem_values (words : List String) :
    '\n' ∈ (String.join (words.map fun word => " " ++ scutilValue word)).toList ↔
      ∃ word ∈ words, '\n' ∈ word.toList := by
  rw [String.toList_join, List.flatMap_map]
  simp [newline_mem_scutilValue]

/-- A search domain without newline is cut into domains without newline. -/
theorem newline_not_mem_searchDomains (h : ∀ domain, searchDomain = some domain → '\n' ∉ domain.toList) :
    ∀ domain ∈ splitDnsSearchDomains searchDomain, '\n' ∉ domain.toList := by
  intro domain hdomain hnewline
  obtain ⟨piece, hpiece, rfl⟩ := List.mem_map.mp hdomain
  rw [String.toList_ofList] at hnewline
  have hmem := mem_of_mem_splitOnP (List.mem_filter.mp hpiece).1 hnewline
  cases searchDomain with
  | none => cases hmem
  | some whole => exact h whole rfl hmem

theorem entries_iff : (∀ entry ∈ buildDnsLines servers searchDomain, '\n' ∉ entry.toList) ↔
    (∀ server ∈ servers, '\n' ∉ server.toList) ∧
      ∀ domain, searchDomain = some domain → '\n' ∉ domain.toList := by
  have hserver (server : String) : '\n' ∈ ("nameserver " ++ server).toList ↔ '\n' ∈ server.toList := by
    simp
  have hsearch (domain : String) :
      '\n' ∈ ("search " ++ replaceSemicolons domain).toList ↔ '\n' ∈ domain.toList := by
    simp [newline_mem_replaceSemicolons]
  unfold buildDnsLines
  rw [List.forall_mem_append, List.forall_mem_map]
  simp only [hserver]
  refine and_congr_right fun _ => ?_
  cases searchDomain with
  | none => simp
  | some domain =>
    by_cases hempty : domain = ""
    · rw [Option.filter_some_neg (by simpa)]
      simp [hempty]
    · rw [Option.filter_some_pos (by simpa)]
      simp only [List.forall_mem_singleton, hsearch, Option.some.injEq, forall_eq']

/-- **The commands and no others**: the texts hold the commands they are made of if and only if there is
no newline in a server or in the search domain. -/
theorem onlyCommands_iff (hinterface : '\n' ∉ interface.toList) :
    OnlyCommands interface servers searchDomain ↔
      (∀ server ∈ servers, '\n' ∉ server.toList) ∧
        ∀ domain, searchDomain = some domain → '\n' ∉ domain.toList := by
  refine ⟨fun h => (entries_iff ..).mp h.entries, fun h => ?_⟩
  have hentries := (entries_iff servers searchDomain).mpr h
  refine ⟨(emits_iff (buildResolvconfBody_eq ..)).mpr hentries, hentries,
    (emits_iff (buildScript_eq ..)).mpr ?_⟩
  have hdomains := newline_not_mem_searchDomains searchDomain h.2
  have hvalues (words : List String) (front : String) (hfront : '\n' ∉ front.toList)
      (hwords : ∀ word ∈ words, '\n' ∉ word.toList) :
      '\n' ∉ (front ++ String.join (words.map fun word => " " ++ scutilValue word)).toList := by
    rw [String.toList_append, List.mem_append, newline_mem_values, not_or]
    exact ⟨hfront, fun ⟨word, hword, hnewline⟩ => hwords word hword hnewline⟩
  intro command hcommand
  simp only [scutilCommands, List.mem_append, List.mem_cons, List.not_mem_nil, or_false] at hcommand
  rcases hcommand with (((rfl | rfl) | hserver) | hdomain) | rfl
  · decide
  · rw [String.toList_append, List.mem_append, newline_mem_scutilValue, not_or]
    exact ⟨by decide, hinterface⟩
  · split at hserver
    · rw [List.mem_singleton.mp hserver]
      exact hvalues servers _ (by decide) h.1
    · cases hserver
  · split at hdomain
    · rcases List.mem_cons.mp hdomain with rfl | hdomain
      · exact hvalues _ _ (by decide) hdomains
      · rw [List.mem_singleton.mp hdomain]
        exact hvalues _ _ (by decide) hdomains
    · cases hdomain
  · rw [String.toList_append, List.mem_append, not_or]
    exact ⟨by decide, newline_not_mem_key interface⟩

/-! ### The gateway's values -/

open Auth in
/-- **What the gateway can inject**: the texts made of what `parse_vpn_config_xml` reads hold the commands
they are made of and no others exactly when no server and no suffix that it reads holds a newline. -/
theorem gateway_cannot_inject_iff (rawXml interface : String) (hinterface : '\n' ∉ interface.toList) :
    OnlyCommands interface (parseVpnConfigXml rawXml).dnsServers (parseVpnConfigXml rawXml).dnsSuffix ↔
      (∀ server ∈ (parseVpnConfigXml rawXml).dnsServers, '\n' ∉ server.toList) ∧
        ∀ suffix, (parseVpnConfigXml rawXml).dnsSuffix = some suffix → '\n' ∉ suffix.toList :=
  onlyCommands_iff interface _ _ hinterface

open Auth in
/-- Values without newline, with characters that are quoted. -/
theorem gateway_cannot_inject_example :
    OnlyCommands "ppp0" (parseVpnConfigXml "<dns ip='10.0.0.53;set' domain='corp.example'/>").dnsServers
      (parseVpnConfigXml "<dns ip='10.0.0.53;set' domain='corp.example'/>").dnsSuffix := by
  have hservers : (parseVpnConfigXml "<dns ip='10.0.0.53;set' domain='corp.example'/>").dnsServers =
      ["10.0.0.53;set"] := by decide +kernel
  have hsuffix : (parseVpnConfigXml "<dns ip='10.0.0.53;set' domain='corp.example'/>").dnsSuffix =
      some "corp.example" := by decide +kernel
  refine (gateway_cannot_inject_iff _ "ppp0" (by decide)).mpr ⟨?_, ?_⟩
  · rw [hservers]
    decide
  · rw [hsuffix]
    rintro suffix h
    cases h
    decide

open Auth in
/-- An attribute with a newline in it is a server, and what stands behind the newline becomes a line of
its own. -/
theorem gateway_injects :
    ¬ ∀ rawXml interface : String, '\n' ∉ interface.toList →
      OnlyCommands interface (parseVpnConfigXml rawXml).dnsServers (parseVpnConfigXml rawXml).dnsSuffix := by
  intro h
  have hentries := (h "<dns ip='10.0.0.53\noptions debug'/>" "ppp0" (by decide)).entries
  have hservers : (parseVpnConfigXml "<dns ip='10.0.0.53\noptions debug'/>").dnsServers =
      ["10.0.0.53\noptions debug"] := by decide +kernel
  rw [hservers] at hentries
  refine hentries "nameserver 10.0.0.53\noptions debug" (List.mem_append_left _ ?_) (by decide)
  exact List.mem_singleton_self _

end OpenfortivpnRs.Net
