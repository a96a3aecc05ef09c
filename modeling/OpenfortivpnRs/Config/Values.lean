import OpenfortivpnRs.Config
import OpenfortivpnRs.Error
import OpenfortivpnRs.Text.Split

/-!
# The values of options (`config.rs`)

How the text of an option is read, and what has been read when that succeeds.
-/

namespace OpenfortivpnRs

open Text

/-- What a computation that succeeds has gone through. -/
theorem bind_eq_ok {α β : Type} {x : Result α} {f : α → Result β} {b : β} :
    (x >>= f) = .ok b ↔ ∃ a, x = .ok a ∧ f a = .ok b := by
  cases x with
  | error err => exact ⟨nofun, by rintro ⟨a, ha, -⟩; cases ha⟩
  | ok a => exact ⟨fun h => ⟨a, rfl, h⟩, by rintro ⟨a', ha, h⟩; cases ha; exact h⟩

/-! ### Readers -/

def svpnCookieWithPrefix (value : String) : String :=
  if "SVPNCOOKIE=".toList <+: value.toList then value else "SVPNCOOKIE=" ++ value

/-- `cli_log_verbosity`; the sum of three bytes does not leave the 16-bit integers it is taken in. -/
def cliLogVerbosity (verbose quiet : ℕ) : ℕ :=
  let adjusted : ℤ := defaultLogVerbosity + verbose - quiet
  (max 0 (min adjusted maxLogVerbosity)).toNat

def parseBool (value : String) : Result Bool :=
  if value = "" then .ok false
  else if eqIgnoreAsciiCase value.toList "true".toList then .ok true
  else if eqIgnoreAsciiCase value.toList "false".toList then .ok false
  else
    match parseUnsigned 255 value.toList with
    | some 0 => .ok false
    | some 1 => .ok true
    | _ => .error (.badBoolean value)

def parseSocketAddr (key value : String) : Result SocketAddr :=
  match SocketAddr.parse value with
  | some addr => .ok addr
  | none => .error (.network ("bad socket address for " ++ key ++ ": " ++ value))

def parsePort (key value : String) : Result ℕ :=
  match parseUnsigned 65535 value.toList with
  | none => .error (.badPort key value)
  | some port => if port = 0 then .error (.badPort key value) else .ok port

def parseU32 (key value : String) : Result ℕ :=
  match parseUnsigned (2 ^ 32 - 1) value.toList with
  | some n => .ok n
  | none => .error (.badInteger key value)

def parseTlsVersion (value : String) : Result TlsVersion :=
  match value with
  | "1.0" => .ok .tls10
  | "1.1" => .ok .tls11
  | "1.2" => .ok .tls12
  | "1.3" => .ok .tls13
  | other => .error (.badTlsVersion other)

/-- `parse_gateway`: a host, and the port behind the last colon when there are only digits. -/
def parseGateway (value : String) : Result (String × Option ℕ) :=
  match rsplitOnce ':' value.toList with
  | some (host, port) =>
    if host ≠ [] ∧ port ≠ [] ∧ port.all Char.isDigit then
      match parsePort "gateway" (.ofList port) with
      | .error err => .error err
      | .ok port => .ok (.ofList host, some port)
    else .ok (value, none)
  | none => .ok (value, none)

/-- `char::is_ascii_hexdigit`. -/
def isAsciiHexdigit (c : Char) : Bool := c.isDigit || ('a' ≤ c && c ≤ 'f') || ('A' ≤ c && c ≤ 'F')

/-- The text is a SHA-256 digest in hexadecimal. -/
def isSha256Digest (digest : String) : Bool :=
  (asBytes digest).length == sha256DigestHexLen && digest.toList.all isAsciiHexdigit

/-! ### What has been read -/

theorem cliLogVerbosity_eq (verbose quiet : ℕ) :
    cliLogVerbosity verbose quiet = min maxLogVerbosity (defaultLogVerbosity + verbose - quiet) := by
  show (max 0 (min (((3 : ℕ) : ℤ) + verbose - quiet) ((6 : ℕ) : ℤ))).toNat = min 6 (3 + verbose - quiet)
  omega

def TlsVersion.text : TlsVersion → String
  | tls10 => "1.0"
  | tls11 => "1.1"
  | tls12 => "1.2"
  | tls13 => "1.3"

theorem parseTlsVersion_eq_ok_iff {value : String} {version : TlsVersion} :
    parseTlsVersion value = .ok version ↔ value = version.text := by
  constructor
  · intro h
    unfold parseTlsVersion at h
    split at h <;> cases h <;> rfl
  · rintro rfl
    cases version <;> rfl

/-- A port is a number that is not zero. -/
theorem parsePort_eq_ok {key value : String} {port : ℕ} (h : parsePort key value = .ok port) :
    parseUnsigned 65535 value.toList = some port ∧ port ≠ 0 := by
  unfold parsePort at h
  split at h
  · cases h
  · rename_i n hn
    split at h
    · cases h
    · rename_i hzero
      cases h
      exact ⟨hn, hzero⟩

theorem parsePort_range {key value : String} {port : ℕ} (h : parsePort key value = .ok port) :
    0 < port ∧ port ≤ 65535 := by
  obtain ⟨hport, hzero⟩ := parsePort_eq_ok h
  exact ⟨Nat.pos_of_ne_zero hzero, parseUnsigned_le hport⟩

/-- A port that is read from digits is the number they stand for. -/
theorem parsePort_digits {key : String} {digits : List Char} {port : ℕ}
    (hdigits : ∀ c ∈ digits, c.isDigit = true) (h : parsePort key (.ofList digits) = .ok port) :
    port = digitsValue digits := by
  have hport := (parsePort_eq_ok h).1
  rw [String.toList_ofList, parseUnsigned_digits _ hdigits] at hport
  split at hport
  · cases hport
    rfl
  · cases hport

/-- Digits in the range of a port are read as one. -/
theorem parsePort_of_digits (key : String) {digits : List Char} (hne : digits ≠ [])
    (hdigits : ∀ c ∈ digits, c.isDigit = true) (hpos : 0 < digitsValue digits)
    (hle : digitsValue digits ≤ 65535) : parsePort key (.ofList digits) = .ok (digitsValue digits) := by
  unfold parsePort
  rw [String.toList_ofList, parseUnsigned_digits _ hdigits, if_pos ⟨hne, hle⟩]
  exact if_neg hpos.ne'

/-! ### Gateways -/

/-- A gateway written as a host, a colon and the digits of a port. -/
structure HostPort (gateway : String) (host port : List Char) : Prop where
  text : gateway.toList = host ++ ':' :: port
  host_nonempty : host ≠ []
  port_nonempty : port ≠ []
  digits : ∀ c ∈ port, c.isDigit = true

/-- The port is what stands behind the last colon. -/
theorem HostPort.parseGateway {gateway : String} {host port : List Char} (h : HostPort gateway host port) :
    parseGateway gateway = (parsePort "gateway" (.ofList port)).map fun n => (.ofList host, some n) := by
  have hcolon : ':' ∉ port := fun hmem => absurd (h.digits ':' hmem) (by decide)
  have hcut : rsplitOnce ':' gateway.toList = some (host, port) :=
    rsplitOnce_eq_some_iff.mpr ⟨h.text, hcolon⟩
  unfold OpenfortivpnRs.parseGateway
  rw [hcut]
  simp only
  rw [if_pos ⟨h.host_nonempty, h.port_nonempty, List.all_eq_true.mpr h.digits⟩]
  cases parsePort "gateway" (.ofList port) <;> rfl

theorem parseGateway_of_not_hostPort {gateway : String} (h : ¬ ∃ host port, HostPort gateway host port) :
    parseGateway gateway = .ok (gateway, none) := by
  unfold parseGateway
  split
  · rename_i host port hcut
    have htext := (rsplitOnce_eq_some_iff.mp hcut).1
    rw [if_neg]
    rintro ⟨hhost, hport, hdigits⟩
    exact h ⟨host, port, htext, hhost, hport, List.all_eq_true.mp hdigits⟩
  · rfl

/-- A port is behind the last colon, and there has to be one. -/
example : parseGateway "vpn.example:8443" = .ok ("vpn.example", some 8443) ∧
    parseGateway "vpn.example:" = .ok ("vpn.example:", none) ∧
    parseGateway "vpn.example:0" = .error (.badPort "gateway" "0") := by decide

end OpenfortivpnRs
