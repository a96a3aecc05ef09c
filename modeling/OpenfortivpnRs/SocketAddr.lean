import OpenfortivpnRs.Ipv4Addr
import OpenfortivpnRs.Lib.Bytes

/-!
# Socket addresses

`std::net::SocketAddr` and how it is read from a text: an IPv4 address and a port, or an IPv6 address
in brackets, with its scope, and a port.  A reader takes what it reads off the front of the text.
-/

namespace OpenfortivpnRs

/-- A `std::net::SocketAddr`. -/
inductive SocketAddr
  | v4 (ip : Ipv4Addr) (port : ℕ)
  | v6 (ip : Vector UInt16 8) (port flowinfo scopeId : ℕ)
  deriving DecidableEq, Repr

namespace SocketAddr

open Lib.Bytes

/-- A reader of the front of a text. -/
abbrev Parser (α : Type) : Type := StateT (List Char) Option α

def readGivenChar (c : Char) : Parser Unit := fun s =>
  if s.head? = some c then some ((), s.tail) else none

/-- `char::to_digit`. -/
def toDigit (radix : ℕ) (c : Char) : Option ℕ :=
  let digit :=
    if '0' ≤ c ∧ c ≤ '9' then c.toNat - '0'.toNat
    else if 'a' ≤ c ∧ c ≤ 'z' then c.toNat - 'a'.toNat + 10
    else if 'A' ≤ c ∧ c ≤ 'Z' then c.toNat - 'A'.toNat + 10
    else radix
  if digit < radix then some digit else none

/-- `read_number`: all the digits there are, no more than `maxDigits` of them, of a number up to
`max`. -/
def readNumber (radix : ℕ) (maxDigits : Option ℕ) (allowZeroPrefix : Bool) (max : ℕ) : Parser ℕ := fun s =>
  let digits := (s.takeWhile fun c => (toDigit radix c).isSome).filterMap (toDigit radix)
  let value := digits.foldl (fun value digit => value * radix + digit) 0
  if digits = [] then none
  else if maxDigits.any (· < digits.length) then none
  else if ¬ allowZeroPrefix ∧ digits.head? = some 0 ∧ 1 < digits.length then none
  else if value ≤ max then some (value, s.drop digits.length)
  else none

/-- `read_ipv4_addr`. -/
def readIpv4Addr : Parser Ipv4Addr := do
  let a ← readNumber 10 (some 3) false 255
  readGivenChar '.'
  let b ← readNumber 10 (some 3) false 255
  readGivenChar '.'
  let c ← readNumber 10 (some 3) false 255
  readGivenChar '.'
  let d ← readNumber 10 (some 3) false 255
  return ⟨.ofNat a, .ofNat b, .ofNat c, .ofNat d⟩

/-- `read_groups`: up to `limit` groups with colons between them, the last two of which may be
written as an IPv4 address, whether they were, and what is left of the text. -/
def readGroups (first : Bool) : (limit : ℕ) → List Char → List UInt16 × Bool × List Char
  | 0, s => ([], false, s)
  | limit + 1, s =>
    let separator : Parser Unit := if first then pure () else readGivenChar ':'
    match if 0 < limit then (do separator; readIpv4Addr : Parser Ipv4Addr) s else none with
    | some (addr, s) => ([fromBeBytes addr.a addr.b, fromBeBytes addr.c addr.d], true, s)
    | none =>
      match (do separator; readNumber 16 (some 4) true 65535 : Parser ℕ) s with
      | none => ([], false, s)
      | some (group, s) =>
        let (groups, ipv4, s) := readGroups false limit s
        (.ofNat group :: groups, ipv4, s)

/-- `read_ipv6_addr`: eight groups, or what `::` leaves out of them filled with zeros. -/
def readIpv6Addr : Parser (Vector UInt16 8) := fun s =>
  let (front, ipv4, s) := readGroups true 8 s
  if front.length = 8 then some (.ofFn fun i => front.getD i 0, s)
  else if ipv4 then none
  else
    match (do readGivenChar ':'; readGivenChar ':' : Parser Unit) s with
    | none => none
    | some (_, s) =>
      let (back, _, s) := readGroups true (8 - (front.length + 1)) s
      let groups := front ++ List.replicate (8 - front.length - back.length) 0 ++ back
      some (.ofFn fun i => groups.getD i 0, s)

def readPort : Parser ℕ := do
  readGivenChar ':'
  readNumber 10 none true 65535

def readScopeId : Parser ℕ := do
  readGivenChar '%'
  readNumber 10 none true (2 ^ 32 - 1)

def readSocketAddrV4 : Parser SocketAddr := do
  let ip ← readIpv4Addr
  let port ← readPort
  return .v4 ip port

def readSocketAddrV6 : Parser SocketAddr := do
  readGivenChar '['
  let ip ← readIpv6Addr
  let scopeId ← readScopeId <|> pure 0
  readGivenChar ']'
  let port ← readPort
  return .v6 ip port 0 scopeId

/-- `str::parse::<SocketAddr>`: one of the two, with nothing behind it. -/
def parse (text : String) : Option SocketAddr :=
  match (readSocketAddrV4 <|> readSocketAddrV6 : Parser SocketAddr) text.toList with
  | some (addr, []) => some addr
  | _ => none

example : parse "127.0.0.1:1080" = some (.v4 ⟨127, 0, 0, 1⟩ 1080) ∧
    parse "[fe80::1:10.0.0.1%2]:80" = some (.v6 #v[0xfe80, 0, 0, 0, 0, 1, 0x0a00, 1] 80 0 2) ∧
    parse "127.0.0.1" = none ∧ parse "127.0.0.1:65536" = none := by decide +kernel

end SocketAddr
end OpenfortivpnRs
