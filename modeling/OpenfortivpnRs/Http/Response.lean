import OpenfortivpnRs.Text

/-!
# HTTP responses (`http.rs`)

A response with the cookies it sets, and percent-encoding.
-/

namespace OpenfortivpnRs.Http

open Text

def cookieSize : ℕ := 4096

/-- The session cookie the gateway sets. -/
def svpnCookieKey : List Char := "SVPNCOOKIE=".toList

structure HttpResponse where
  statusCode : ℕ
  reason : String
  headers : List (String × String)
  body : List UInt8
  deriving DecidableEq, Repr

/-- `valid_cookie_pair`. -/
def validCookiePair (cookie : List Char) : Option String :=
  match splitOnce ['='] cookie with
  | none => none
  | some (name, value) =>
    if cookieSize < (asBytes (.ofList cookie)).length ∨ name = [] ∨ value = [] then none
    else some (.ofList cookie)

/-- `extract_svpn_cookie_from_header`. -/
def extractSvpnCookieFromHeader (line : String) : Option String := do
  let (_, value) ← splitOnce svpnCookieKey line.toList
  let value := value.takeWhile fun ch => !(ch == '\r' || ch == '\n' || ch == ';')
  validCookiePair (svpnCookieKey ++ value)

/-- `extract_cookie_pair_from_set_cookie_header`. -/
def extractCookiePairFromSetCookieHeader (line : String) : Option String :=
  let cookie := match splitOnce [';'] line.toList with
    | some (cookie, _) => cookie
    | none => line.toList
  validCookiePair (trimEnd (trimStart cookie))

namespace HttpResponse

/-- `headers`: the values of the headers of a name. -/
def headersOf (response : HttpResponse) (name : String) : List String :=
  (response.headers.filter fun (key, _) => eqIgnoreAsciiCase key.toList name.toList).map Prod.snd

/-- `body_as_str`. -/
def bodyAsStr (response : HttpResponse) : Option (List Char) := fromUtf8 response.body

/-- `svpn_cookie`. -/
def svpnCookie (response : HttpResponse) : Option String :=
  (response.headersOf "Set-Cookie").findSome? extractSvpnCookieFromHeader

/-- `cookie_header`. -/
def cookieHeader (response : HttpResponse) : Option String :=
  let cookies := (response.headersOf "Set-Cookie").filterMap extractCookiePairFromSetCookieHeader
  if cookies = [] then none else some (String.intercalate "; " cookies)

end HttpResponse

/-- The bytes `url_encode` leaves as they are. -/
def isUnreserved (byte : UInt8) : Bool :=
  (0x41 ≤ byte && byte ≤ 0x5a) || (0x61 ≤ byte && byte ≤ 0x7a) || (0x30 ≤ byte && byte ≤ 0x39) ||
    byte == 0x2d || byte == 0x5f || byte == 0x2e || byte == 0x7e

def hexDigits : List Char := "0123456789ABCDEF".toList

/-- `url_encode`. -/
def urlEncode (input : String) : String :=
  .ofList ((asBytes input).flatMap fun byte =>
    if isUnreserved byte then [Char.ofNat byte.toNat]
    else ['%', hexDigits.getD (byte.toNat / 16) '0', hexDigits.getD (byte.toNat % 16) '0'])

end OpenfortivpnRs.Http
