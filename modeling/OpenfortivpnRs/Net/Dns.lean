import OpenfortivpnRs.Net.Commands

/-!
# DNS settings (`net_apply.rs`)

The lines that go into `/etc/resolv.conf` and out of it again, the scripts for `resolvconf` and
`scutil`, and the search for these programs.
-/

namespace OpenfortivpnRs.Net

open Text

def resolvConfPath : String := "/etc/resolv.conf"
def resolvconfCandidates : List String := ["/sbin/resolvconf", "/usr/sbin/resolvconf", "resolvconf"]
def scutilCandidates : List String := ["/usr/sbin/scutil", "/usr/bin/scutil", "scutil"]

/-! ### Lines of `resolv.conf` -/

/-- `str::replace(';', " ")`. -/
def replaceSemicolons (value : String) : String :=
  .ofList (value.toList.map fun c => if c = ';' then ' ' else c)

def buildResolvconfBody (servers : List String) (searchDomain : Option String) : String :=
  String.join (servers.map fun server => "nameserver " ++ server ++ "\n") ++
    match searchDomain.filter (· ≠ "") with
    | some searchDomain => "search " ++ replaceSemicolons searchDomain ++ "\n"
    | none => ""

def buildDnsLines (servers : List String) (searchDomain : Option String) : List String :=
  servers.map (fun server => "nameserver " ++ server) ++
    match searchDomain.filter (· ≠ "") with
    | some searchDomain => ["search " ++ replaceSemicolons searchDomain]
    | none => []

def dnsLinesToAdd (original : List UInt8) (servers : List String) (searchDomain : Option String) :
    List String :=
  (buildDnsLines servers searchDomain).filter (· ∉ lines (fromUtf8Lossy original))

def prependDnsLinesToResolvConf (original : List UInt8) (addedLines : List String) : List UInt8 :=
  (addedLines.flatMap fun line => asBytes line ++ [0x0a]) ++ original

/-- The loop of `remove_added_dns_lines` with the lines still `pending`. -/
def removeLines : List String → List String → List String
  | [], _ => []
  | line :: rest, pending =>
    if line ∈ pending then removeLines rest (pending.erase line)
    else line :: removeLines rest pending

def removeAddedDnsLines (current : List UInt8) (addedLines : List String) : List UInt8 :=
  (removeLines (lines (fromUtf8Lossy current)) addedLines).flatMap fun line => asBytes line ++ [0x0a]

/-! ### Scripts for `scutil` -/

def isAsciiAlphanumeric (c : Char) : Bool :=
  ('a' ≤ c && c ≤ 'z') || ('A' ≤ c && c ≤ 'Z') || ('0' ≤ c && c ≤ '9')

def sanitizeScutilKeyComponent (value : String) : String :=
  let sanitized := String.ofList (value.toList.map fun ch =>
    if isAsciiAlphanumeric ch || ch == '-' || ch == '_' then ch else '-')
  if sanitized = "" then "vpn" else sanitized

def macosScutilDnsKey (interface : String) : String :=
  "State:/Network/Service/openfortivpn-" ++ sanitizeScutilKeyComponent interface ++ "/DNS"

def scutilValue (value : String) : String :=
  if value.toList.all fun ch => isAsciiAlphanumeric ch || ch ∈ ['.', '-', '_', ':', '/'] then value
  else
    "\"" ++ .ofList (value.toList.flatMap fun ch =>
      if ch = '\\' ∨ ch = '"' then ['\\', ch] else [ch]) ++ "\""

def splitDnsSearchDomains (searchDomain : Option String) : List String :=
  (((searchDomain.getD "").toList.splitOnP fun ch => ch ∈ [';', ' ', '\t']).filter (· ≠ [])).map .ofList

def buildMacosScutilDnsScript (key interface : String) (servers : List String)
    (searchDomain : Option String) : String :=
  let values (words : List String) := String.join (words.map fun word => " " ++ scutilValue word)
  let searchDomains := splitDnsSearchDomains searchDomain
  "d.init\n" ++ "d.add InterfaceName " ++ scutilValue interface ++ "\n" ++
    (if servers ≠ [] then "d.add ServerAddresses *" ++ values servers ++ "\n" else "") ++
    (if searchDomains ≠ [] then
      "d.add SearchDomains *" ++ values searchDomains ++ "\n" ++
        "d.add SupplementalMatchDomains *" ++ values searchDomains ++ "\n"
    else "") ++ "set " ++ key ++ "\n"

def buildMacosScutilRemoveScript (key : String) : String := "remove " ++ key ++ "\n"

/-! ### Finding programs -/

variable {σ : Type} (host : Host σ)

/-- `PathBuf::join` of a directory and a plain name. -/
def joinPath (dir program : List UInt8) : List UInt8 :=
  if dir = [] ∨ dir.getLast? = some 0x2f then dir ++ program else dir ++ [0x2f] ++ program

def firstFile : List (List UInt8) → Cmd σ (Option (List UInt8))
  | [] => pure none
  | candidate :: rest => do
    if ← Cmd.look (host.isFile candidate) then pure (some candidate) else firstFile rest

def findProgramInPath (program : String) : Cmd σ (Option (List UInt8)) := do
  match ← Cmd.look host.pathVar with
  | none => pure none
  | some paths => firstFile host ((paths.splitOn 0x3a).map fun dir => joinPath dir (asBytes program))

def findProgramFromCandidates : List String → Cmd σ (Option String)
  | [] => pure none
  | candidate :: rest => do
    if '/' ∈ candidate.toList then
      if ← Cmd.look (host.pathExists candidate) then pure (some candidate)
      else findProgramFromCandidates rest
    else
      match ← findProgramInPath host candidate with
      | some path => pure (some (fromUtf8Lossy path))
      | none => findProgramFromCandidates rest

def findResolvconf : Cmd σ (Option String) := findProgramFromCandidates host resolvconfCandidates

def findScutil : Cmd σ (Option String) := findProgramFromCandidates host scutilCandidates

end OpenfortivpnRs.Net
