import OpenfortivpnRs.Text.Form
import OpenfortivpnRs.Text.Split

/-!
# What is logged of a request (`http.rs`)

Before a request is sent its path, a preview of its headers and the names of its cookies are logged.  Two
requests that differ only in the values of their cookies and in bodies of the same length leave the same
lines (`request_log_hides_secrets`).
-/

namespace OpenfortivpnRs.Http

open Text

/-- `header_value_in`. -/
def headerValueIn (headers : List (String × String)) (name : String) : Option String :=
  (headers.find? fun (headerName, _) => eqIgnoreAsciiCase headerName.toList name.toList).map Prod.snd

/-- The name of one cookie of a header, if it has a name and a value. -/
def cookieName (cookie : List Char) : Option String := do
  let (name, value) ← splitOnce ['='] (trimEnd (trimStart cookie))
  if name = [] ∨ value = [] then none else some (.ofList name)

/-- `cookie_names_from_cookie_header`. -/
def cookieNamesFromCookieHeader (header : List Char) : List String :=
  (header.splitOn ';').filterMap cookieName

/-- `request_header_preview`. -/
def requestHeaderPreview (host method path : String) (headers : List (String × String)) (bodyLen : ℕ) : String :=
  let userAgent := (headerValueIn headers "User-Agent").getD "openfortivpn-rs"
  let contentType := (headerValueIn headers "Content-Type").getD "application/x-www-form-urlencoded"
  let cookieNames :=
    ((headerValueIn headers "Cookie").map fun cookie => cookieNamesFromCookieHeader cookie.toList).getD []
  let cookiePreview :=
    if cookieNames = [] then "<empty>" else String.intercalate "; " (cookieNames.map (· ++ "=<redacted>"))
  String.intercalate " | "
    [method ++ " " ++ path ++ " HTTP/1.1",
      "Host: " ++ host,
      "User-Agent: " ++ userAgent,
      "Accept: */*",
      "Accept-Encoding: identity",
      "Pragma: no-cache",
      "Cache-Control: no-store, no-cache, must-revalidate",
      "If-Modified-Since: Sat, 1 Jan 2000 00:00:00 GMT",
      "Content-Type: " ++ contentType,
      "Cookie: " ++ cookiePreview,
      "Content-Length: " ++ toString bodyLen]

/-- What `do_http_request` logs before it sends the request. -/
def requestLog (host method path : String) (headers : List (String × String)) (body : List UInt8) : List String :=
  ["HTTP request: " ++ method ++ " " ++ path,
    "HTTP request header preview: " ++ requestHeaderPreview host method path headers body.length] ++
  match headerValueIn headers "Cookie" with
  | some cookie =>
    let names := cookieNamesFromCookieHeader cookie.toList
    if names = [] then [] else ["HTTP request cookies: " ++ String.intercalate ", " names]
  | none => []

/-! ### The names of cookies -/

/-- Cookies as they are joined in a header. -/
def cookieText (cookies : List (List Char × List Char)) : List Char := "; ".toList.intercalate (cookies.map fieldText)

/-- A cookie whose name and value keep it apart from the others. -/
structure IsCookie (cookie : List Char × List Char) : Prop where
  name_eq : '=' ∉ cookie.1
  name_semi : ';' ∉ cookie.1
  value_semi : ';' ∉ cookie.2
  value_blank : ¬ Blank cookie.2

/-- What is shown of a cookie. -/
def shownName (name : List Char) : Option String :=
  if trimStart name = [] then none else some (.ofList (trimStart name))

theorem cookieName_eq {front : List Char} (hfront : Blank front) {cookie : List Char × List Char} (h : IsCookie cookie) :
    cookieName (front ++ fieldText cookie) = shownName cookie.1 := by
  have htrim : trimEnd (trimStart (front ++ fieldText cookie)) = trimStart cookie.1 ++ '=' :: trimEnd cookie.2 := by
    rw [fieldText, trimStart_append_blank hfront, trim_mark (by decide)]
  have hname : '=' ∉ trimStart cookie.1 := fun hmem => h.name_eq ((List.dropWhile_sublist _).subset hmem)
  have hvalue : trimEnd cookie.2 ≠ [] := fun hnil => h.value_blank ((trimEnd_eq_nil_iff _).mp hnil)
  unfold cookieName shownName
  rw [htrim, splitOnce_char _ hname]
  show (if trimStart cookie.1 = [] ∨ trimEnd cookie.2 = [] then none else some _) = _
  simp only [hvalue, or_false]

theorem cookieNames_append (s t : List Char) : cookieNamesFromCookieHeader (s ++ ';' :: t) =
    cookieNamesFromCookieHeader s ++ cookieNamesFromCookieHeader t := by
  unfold cookieNamesFromCookieHeader
  rw [List.splitOn_append_cons_self, List.filterMap_append]

theorem cookieNames_single {s : List Char} (h : ';' ∉ s) : cookieNamesFromCookieHeader s = (cookieName s).toList := by
  have hsplit : s.splitOn ';' = [s] := by
    have hpieces : ([';'].intercalate [s]).splitOn ';' = [s] :=
      List.splitOn_intercalate ';' (by simpa using h) (List.cons_ne_nil _ _)
    rwa [List.intercalate_singleton] at hpieces
  rw [cookieNamesFromCookieHeader, hsplit]
  cases hname : cookieName s <;> simp [hname]

theorem cookieName_blank {s : List Char} (h : Blank s) : cookieName s = none := by
  have htrim : trimStart s = [] := by
    have := trimStart_append_blank h []
    rwa [List.append_nil] at this
  rw [cookieName, htrim]
  rfl

/-- **The names that are logged depend on the names of the cookies only.** -/
theorem cookieNames_cookieText {front : List Char} (hfront : Blank front) {cookies : List (List Char × List Char)}
    (h : ∀ cookie ∈ cookies, IsCookie cookie) :
    cookieNamesFromCookieHeader (front ++ cookieText cookies) = (cookies.map Prod.fst).filterMap shownName := by
  have hsemi : ∀ {s : List Char}, Blank s → ';' ∉ s := fun hs hmem => absurd (hs _ hmem) (by decide)
  have hpiece : ∀ {front : List Char} {cookie : List Char × List Char}, Blank front → IsCookie cookie →
      cookieNamesFromCookieHeader (front ++ fieldText cookie) = (shownName cookie.1).toList := by
    intro front cookie hfront hcookie
    rw [cookieNames_single, cookieName_eq hfront hcookie]
    simp [fieldText, hsemi hfront, hcookie.name_semi, hcookie.value_semi]
  induction cookies generalizing front with
  | nil =>
    rw [cookieText, List.map_nil, List.intercalate_nil, List.append_nil, cookieNames_single (hsemi hfront),
      cookieName_blank hfront]
    rfl
  | cons cookie cookies ih =>
    have hcookie := h cookie List.mem_cons_self
    have hrest := fun c hc => h c (List.mem_cons_of_mem _ hc)
    by_cases hlast : cookies = []
    · subst hlast
      rw [cookieText, List.map_singleton, List.intercalate_singleton, hpiece hfront hcookie]
      cases hname : shownName cookie.1 <;> simp [hname]
    · have htext : cookieText (cookie :: cookies) = fieldText cookie ++ ';' :: ([' '] ++ cookieText cookies) := by
        rw [cookieText, List.map_cons, List.intercalate_cons_of_ne_nil (by simpa using hlast), List.append_assoc]
        rfl
      rw [htext, ← List.append_assoc, cookieNames_append, hpiece hfront hcookie, ih (by decide) hrest]
      cases hname : shownName cookie.1 <;> simp [hname]

/-! ### Two requests -/

/-- Two cookie headers with the same names. -/
def SameCookieNames (header header' : String) : Prop :=
  ∃ cookies cookies', header.toList = cookieText cookies ∧ header'.toList = cookieText cookies' ∧
    cookies.map Prod.fst = cookies'.map Prod.fst ∧ (∀ cookie ∈ cookies, IsCookie cookie) ∧
    ∀ cookie ∈ cookies', IsCookie cookie

/-- Two headers that are the same, but for the values of cookies. -/
def SameButCookies (header header' : String × String) : Prop :=
  header.1 = header'.1 ∧ (header.2 = header'.2 ∨
    eqIgnoreAsciiCase header.1.toList "Cookie".toList = true ∧ SameCookieNames header.2 header'.2)

theorem cookieNames_congr {header header' : String} (h : SameCookieNames header header') :
    cookieNamesFromCookieHeader header.toList = cookieNamesFromCookieHeader header'.toList := by
  obtain ⟨cookies, cookies', hheader, hheader', hnames, hcookies, hcookies'⟩ := h
  have hblank : Blank [] := by decide
  have hleft := cookieNames_cookieText hblank hcookies
  have hright := cookieNames_cookieText hblank hcookies'
  rw [List.nil_append] at hleft hright
  rw [hheader, hheader', hleft, hright, hnames]

/-- Lists that are related element by element are searched alike. -/
theorem find?_forall₂ {α : Type} {R : α → α → Prop} {p : α → Bool} {as bs : List α} (h : List.Forall₂ R as bs)
    (hp : ∀ a b, R a b → p a = p b) : as.find? p = none ∧ bs.find? p = none ∨
      ∃ a b, as.find? p = some a ∧ bs.find? p = some b ∧ R a b ∧ p a = true := by
  induction h with
  | nil => exact .inl ⟨rfl, rfl⟩
  | @cons a b as bs hab _ ih =>
    have hsame := hp a b hab
    cases ha : p a with
    | true => exact .inr ⟨a, b, List.find?_cons_of_pos ha, List.find?_cons_of_pos (hsame ▸ ha), hab, ha⟩
    | false =>
      rw [List.find?_cons_of_neg (by simp [ha]), List.find?_cons_of_neg (by simp [← hsame, ha])]
      exact ih

section

variable {headers headers' : List (String × String)} (h : List.Forall₂ SameButCookies headers headers')

include h

theorem headerValueIn_cases (name : String) :
    headerValueIn headers name = none ∧ headerValueIn headers' name = none ∨
      ∃ header header', headerValueIn headers name = some header.2 ∧ headerValueIn headers' name = some header'.2 ∧
        SameButCookies header header' ∧ eqIgnoreAsciiCase header.1.toList name.toList = true := by
  unfold headerValueIn
  rcases find?_forall₂ (p := fun (headerName, _) => eqIgnoreAsciiCase headerName.toList name.toList) h
    (fun a b hab => by simp only [hab.1]) with ⟨hnone, hnone'⟩ | ⟨a, b, ha, hb, hab, hname⟩
  · rw [hnone, hnone']
    exact .inl ⟨rfl, rfl⟩
  · rw [ha, hb]
    exact .inr ⟨a, b, rfl, rfl, hab, hname⟩

/-- Other headers are the same. -/
theorem headerValueIn_eq {name : String} (hname : eqIgnoreAsciiCase name.toList "Cookie".toList = false) :
    headerValueIn headers name = headerValueIn headers' name := by
  rcases headerValueIn_cases h name with ⟨hnone, hnone'⟩ | ⟨a, b, ha, hb, hab, hmatch⟩
  · rw [hnone, hnone']
  · rw [ha, hb]
    rcases hab.2 with heq | ⟨hcookie, -⟩
    · rw [heq]
    · have hlower : eqIgnoreAsciiCase name.toList "Cookie".toList = true := by
        unfold eqIgnoreAsciiCase at *
        rw [beq_iff_eq] at *
        rw [← hmatch, hcookie]
      rw [hname] at hlower
      cases hlower

/-- The cookies have the same names. -/
theorem cookieNames_eq : (headerValueIn headers "Cookie").map (fun cookie => cookieNamesFromCookieHeader cookie.toList) =
    (headerValueIn headers' "Cookie").map (fun cookie => cookieNamesFromCookieHeader cookie.toList) := by
  rcases headerValueIn_cases h "Cookie" with ⟨hnone, hnone'⟩ | ⟨a, b, ha, hb, hab, -⟩
  · rw [hnone, hnone']
  · rw [ha, hb, Option.map_some, Option.map_some]
    rcases hab.2 with heq | ⟨-, hnames⟩
    · rw [heq]
    · rw [cookieNames_congr hnames]

end

/-- The lines depend on two headers, the names of the cookies and the length of the body. -/
theorem requestLog_eq (host method path : String) (headers : List (String × String)) (body : List UInt8) :
    requestLog host method path headers body =
      ["HTTP request: " ++ method ++ " " ++ path,
        "HTTP request header preview: " ++ requestHeaderPreview host method path headers body.length] ++
      match (headerValueIn headers "Cookie").map fun cookie => cookieNamesFromCookieHeader cookie.toList with
      | some names => if names = [] then [] else ["HTTP request cookies: " ++ String.intercalate ", " names]
      | none => [] := by
  unfold requestLog
  cases headerValueIn headers "Cookie" <;> rfl

/-- **Requests that differ in secrets only leave the same log.** -/
theorem request_log_hides_secrets {headers headers' : List (String × String)} {body body' : List UInt8}
    (host method path : String) (hheaders : List.Forall₂ SameButCookies headers headers')
    (hbody : body.length = body'.length) :
    requestLog host method path headers body = requestLog host method path headers' body' := by
  have hpreview : requestHeaderPreview host method path headers body.length =
      requestHeaderPreview host method path headers' body'.length := by
    unfold requestHeaderPreview
    rw [headerValueIn_eq hheaders (show eqIgnoreAsciiCase "User-Agent".toList _ = false by decide),
      headerValueIn_eq hheaders (show eqIgnoreAsciiCase "Content-Type".toList _ = false by decide),
      cookieNames_eq hheaders, hbody]
  rw [requestLog_eq, requestLog_eq, hpreview, cookieNames_eq hheaders]

theorem request_log_hides_secrets_example :
    requestLog "vpn.example" "POST" "/remote/index" [("Cookie", "SVPNCOOKIE=secret; a=b= c")] [1, 2] =
      requestLog "vpn.example" "POST" "/remote/index" [("Cookie", "SVPNCOOKIE= x; a==")] [3, 4] :=
  request_log_hides_secrets "vpn.example" "POST" "/remote/index"
    (.cons ⟨rfl, .inr ⟨by decide,
      [("SVPNCOOKIE".toList, "secret".toList), ("a".toList, "b= c".toList)],
      [("SVPNCOOKIE".toList, " x".toList), ("a".toList, "=".toList)], by decide, by decide, by decide,
      by
        intro cookie hmem
        simp only [List.mem_cons, List.not_mem_nil, or_false] at hmem
        rcases hmem with rfl | rfl <;> exact ⟨by decide, by decide, by decide, by decide⟩,
      by
        intro cookie hmem
        simp only [List.mem_cons, List.not_mem_nil, or_false] at hmem
        rcases hmem with rfl | rfl <;> exact ⟨by decide, by decide, by decide, by decide⟩⟩⟩ .nil) rfl

end OpenfortivpnRs.Http
