import OpenfortivpnRs.Auth.Login
import OpenfortivpnRs.Text.Split
import OpenfortivpnRs.Text.CaseSearch
import Mathlib.Data.List.TakeWhile

/-!
# The session cookie and the cookies sent later (`http.rs`)

The login is accepted for the first `SVPNCOOKIE=` anywhere in a `Set-Cookie` line, and the cookies sent
later are what the lines begin with.  They are the same cookie if and only if some line begins with it
(`session_cookie_reaches_iff`).
-/

namespace OpenfortivpnRs.Auth

open Text Http

/-- The characters that a session cookie is cut at. -/
def cookieEnds : List Char := ['\r', '\n', ';']

/-- The line has a session cookie of this value: it stands behind the first `SVPNCOOKIE=`. -/
structure SessionValue (line value : List Char) : Prop where
  found : ∃ before rest, splitOnce svpnCookieKey line = some (before, value ++ rest) ∧ ∀ c ∈ rest.head?, c ∈ cookieEnds
  plain : ∀ c ∈ value, c ∉ cookieEnds
  nonempty : value ≠ []
  fits : byteLen (svpnCookieKey ++ value) ≤ cookieSize

/-- The first of the lines with a session cookie has this one. -/
def FirstValue (lines : List String) (value : List Char) : Prop :=
  ∃ front line back, lines = front ++ line :: back ∧ (∀ l ∈ front, ∀ v, ¬ SessionValue l.toList v) ∧
    SessionValue line.toList value

/-- The line begins with the session cookie: nothing but white space stands around it up to the first semicolon. -/
def BeginsWith (value line : List Char) : Prop :=
  ∃ front back rest, Blank front ∧ Blank back ∧ ';' ∉ value ∧ line = front ++ svpnCookieKey ++ value ++ back ++ rest ∧
    ∀ c ∈ rest.head?, c = ';'

/-- The header has the cookie among its pairs, but for white space behind it. -/
def Carries (header cookie : String) : Prop :=
  ∃ value value', cookie.toList = svpnCookieKey ++ value ∧
    svpnCookieKey ++ value' ∈ splitStr "; ".toList (by decide) header.toList ∧ trimEnd value' = trimEnd value

/-! ### Pairs -/

/-- A pair is valid if its name and its value are not empty and it is not too long. -/
theorem validCookiePair_eq_some {cookie : List Char} {pair : String} :
    validCookiePair cookie = some pair ↔ pair = .ofList cookie ∧ byteLen cookie ≤ cookieSize ∧
      ∃ name value, splitOnce ['='] cookie = some (name, value) ∧ name ≠ [] ∧ value ≠ [] := by
  have hlen : (asBytes (.ofList cookie)).length = byteLen cookie := by
    rw [← length_encode]
    unfold asBytes
    rw [String.toList_ofList]
    rfl
  unfold validCookiePair
  rw [hlen]
  cases splitOnce ['='] cookie with
  | none => simp
  | some split =>
    obtain ⟨name, value⟩ := split
    have hsplit : (∃ n v, some (name, value) = some (n, v) ∧ n ≠ [] ∧ v ≠ []) ↔ name ≠ [] ∧ value ≠ [] := by
      constructor
      · rintro ⟨n, v, h, hne⟩
        cases h
        exact hne
      · exact fun hne => ⟨name, value, rfl, hne⟩
    rw [hsplit]
    by_cases hbad : cookieSize < byteLen cookie ∨ name = [] ∨ value = []
    · simp only [if_pos hbad, reduceCtorEq, false_iff]
      rintro ⟨-, hfits, hname, hvalue⟩
      rcases hbad with hlong | h | h
      · exact absurd hfits (by omega)
      · exact hname h
      · exact hvalue h
    · simp only [if_neg hbad, Option.some.injEq]
      rw [not_or, not_or] at hbad
      exact ⟨fun h => ⟨h.symm, by omega, hbad.2⟩, fun h => h.1.symm⟩

theorem splitOnce_svpnCookie (value : List Char) :
    splitOnce ['='] (svpnCookieKey ++ value) = some ("SVPNCOOKIE".toList, value) := by
  have hkey : svpnCookieKey = "SVPNCOOKIE".toList ++ ['='] := by decide
  rw [hkey, List.append_assoc, List.singleton_append]
  exact splitOnce_char value (by decide)

theorem validCookiePair_svpnCookie {value : List Char} {pair : String} :
    validCookiePair (svpnCookieKey ++ value) = some pair ↔
      pair = .ofList (svpnCookieKey ++ value) ∧ byteLen (svpnCookieKey ++ value) ≤ cookieSize ∧ value ≠ [] := by
  rw [validCookiePair_eq_some, splitOnce_svpnCookie]
  constructor
  · rintro ⟨hpair, hfits, _, _, hsplit, -, hvalue⟩
    cases hsplit
    exact ⟨hpair, hfits, hvalue⟩
  · rintro ⟨hpair, hfits, hvalue⟩
    exact ⟨hpair, hfits, _, _, rfl, by decide, hvalue⟩

/-! ### What the login is accepted for -/

theorem extractSvpnCookie_eq_some {line cookie : String} :
    extractSvpnCookieFromHeader line = some cookie ↔
      ∃ value, SessionValue line.toList value ∧ cookie = .ofList (svpnCookieKey ++ value) := by
  have hend : ∀ c, (!(c == '\r' || c == '\n' || c == ';')) = true ↔ c ∉ cookieEnds := by
    simp [cookieEnds, not_or, and_assoc]
  have hend' : ∀ c, (!(c == '\r' || c == '\n' || c == ';')) = false ↔ c ∈ cookieEnds := by
    intro c
    rw [← Bool.not_eq_true, hend, not_not]
  unfold extractSvpnCookieFromHeader
  constructor
  · intro h
    obtain ⟨⟨before, after⟩, hsplit, h⟩ := Option.bind_eq_some_iff.mp h
    obtain ⟨hcookie, hfits, hne⟩ := validCookiePair_svpnCookie.mp h
    obtain ⟨rest, hafter, hplain, hrest⟩ := takeWhile_eq_iff.mp (rfl (a := after.takeWhile fun ch =>
      !(ch == '\r' || ch == '\n' || ch == ';')))
    rw [hafter] at hsplit
    exact ⟨_, ⟨⟨before, rest, hsplit, fun c hc => (hend' c).mp (hrest c hc)⟩,
      fun c hc => (hend c).mp (hplain c hc), hne, hfits⟩, hcookie⟩
  · rintro ⟨value, ⟨⟨before, rest, hsplit, hrest⟩, hplain, hne, hfits⟩, rfl⟩
    have hvalue : (value ++ rest).takeWhile (fun ch => !(ch == '\r' || ch == '\n' || ch == ';')) = value :=
      takeWhile_eq_iff.mpr ⟨rest, rfl, fun c hc => (hend c).mpr (hplain c hc), fun c hc => (hend' c).mpr (hrest c hc)⟩
    simp only [hsplit, Option.bind_eq_bind, Option.bind_some]
    rw [hvalue, validCookiePair_svpnCookie]
    exact ⟨rfl, hfits, hne⟩

/-- A line has at most one session cookie. -/
theorem extractSvpnCookie_eq_none {line : String} :
    extractSvpnCookieFromHeader line = none ↔ ∀ v, ¬ SessionValue line.toList v := by
  rw [Option.eq_none_iff_forall_ne_some]
  constructor
  · exact fun h v hv => h _ (extractSvpnCookie_eq_some.mpr ⟨v, hv, rfl⟩)
  · intro h c hc
    obtain ⟨v, hv, -⟩ := extractSvpnCookie_eq_some.mp hc
    exact h v hv

/-- The login is accepted for the first session cookie. -/
theorem svpnCookie_eq_some {response : HttpResponse} {cookie : String} :
    response.svpnCookie = some cookie ↔
      ∃ value, FirstValue (response.headersOf "Set-Cookie") value ∧ cookie = .ofList (svpnCookieKey ++ value) := by
  unfold HttpResponse.svpnCookie FirstValue
  rw [List.findSome?_eq_some_iff]
  simp only [extractSvpnCookie_eq_some, extractSvpnCookie_eq_none]
  constructor
  · rintro ⟨front, line, back, hlines, ⟨value, hvalue, hcookie⟩, hfront⟩
    exact ⟨value, ⟨front, line, back, hlines, hfront, hvalue⟩, hcookie⟩
  · rintro ⟨value, ⟨front, line, back, hlines, hfront, hvalue⟩, hcookie⟩
    exact ⟨front, line, back, hlines, ⟨value, hvalue, hcookie⟩, hfront⟩

/-! ### What is sent later -/

/-- What stands before the first semicolon. -/
def firstPair (line : List Char) : List Char :=
  match splitOnce [';'] line with
  | some (cookie, _) => cookie
  | none => line

theorem extractCookiePair_firstPair (line : String) :
    extractCookiePairFromSetCookieHeader line = validCookiePair (trimEnd (trimStart (firstPair line.toList))) := rfl

theorem firstPair_eq {cookie : List Char} (rest : List Char) (hcookie : ';' ∉ cookie) (hrest : ∀ c ∈ rest.head?, c = ';') :
    firstPair (cookie ++ rest) = cookie := by
  unfold firstPair
  cases rest with
  | nil => rw [List.append_nil, splitOnce_none_of_not_mem [] hcookie]
  | cons c rest => rw [hrest c rfl, splitOnce_char rest hcookie]

theorem exists_firstPair (line : List Char) :
    ';' ∉ firstPair line ∧ ∃ rest, line = firstPair line ++ rest ∧ ∀ c ∈ rest.head?, c = ';' := by
  by_cases hmem : ';' ∈ line
  · obtain ⟨cookie, rest, rfl, hcookie⟩ := List.eq_append_cons_of_mem hmem
    rw [firstPair_eq (';' :: rest) hcookie (by simp)]
    exact ⟨hcookie, _, rfl, by simp⟩
  · have hline : firstPair line = line := by
      have := firstPair_eq [] hmem (by simp)
      rwa [List.append_nil] at this
    rw [hline]
    exact ⟨hmem, [], (List.append_nil line).symm, by simp⟩

theorem semicolon_not_mem_blank {s : List Char} (h : Blank s) : ';' ∉ s := by
  intro hmem
  exact absurd (h _ hmem) (by decide)

theorem trim_svpnCookie (front value : List Char) (h : Blank front) :
    trimEnd (trimStart (front ++ svpnCookieKey ++ value)) = svpnCookieKey ++ trimEnd value := by
  have hkey : front ++ svpnCookieKey ++ value = (front ++ "SVPNCOOKIE".toList) ++ '=' :: value := by
    have : svpnCookieKey = "SVPNCOOKIE".toList ++ ['='] := by decide
    simp [this]
  rw [hkey, trim_mark (by decide), trimStart_append_blank h]
  have hname : trimStart "SVPNCOOKIE".toList ++ ['='] = svpnCookieKey := by decide
  rw [← hname, List.append_assoc]
  rfl

/-- What a line begins with is trimmed. -/
theorem beginsWith_iff {line value : List Char} :
    BeginsWith value line ∧ trimEnd value = value ↔ trimEnd (trimStart (firstPair line)) = svpnCookieKey ++ value := by
  constructor
  · rintro ⟨⟨front, back, rest, hfront, hback, hvalue, rfl, hrest⟩, htrim⟩
    have hplain : ';' ∉ front ++ svpnCookieKey ++ value ++ back := by
      have hkey : ';' ∉ svpnCookieKey := by decide
      simp [semicolon_not_mem_blank hfront, semicolon_not_mem_blank hback, hkey, hvalue]
    rw [firstPair_eq rest hplain hrest, List.append_assoc _ value, trim_svpnCookie _ _ hfront, trimEnd_append_blank hback,
      htrim]
  · intro h
    obtain ⟨hplain, rest, hline, hrest⟩ := exists_firstPair line
    obtain ⟨front, hfront, hstart⟩ := exists_blank_trimStart (firstPair line)
    obtain ⟨back, hback, hend⟩ := exists_blank_trimEnd (trimStart (firstPair line))
    rw [h] at hend
    rw [hend] at hstart
    have hpair : firstPair line = front ++ svpnCookieKey ++ (value ++ back) := by
      rw [hstart]
      simp
    have htrim : trimEnd value = value := by
      rw [hpair, trim_svpnCookie _ _ hfront, trimEnd_append_blank hback] at h
      exact List.append_cancel_left h
    refine ⟨⟨front, back, rest, hfront, hback, ?_, ?_, hrest⟩, htrim⟩
    · intro hmem
      apply hplain
      rw [hpair]
      simp [hmem]
    · rw [hline, hpair]
      simp

/-- The pair sent for a line is the session cookie if the line begins with it. -/
theorem extractCookiePair_eq_some {line : String} {value : List Char} :
    extractCookiePairFromSetCookieHeader line = some (.ofList (svpnCookieKey ++ value)) ↔
      BeginsWith value line.toList ∧ trimEnd value = value ∧ value ≠ [] ∧
        byteLen (svpnCookieKey ++ value) ≤ cookieSize := by
  rw [extractCookiePair_firstPair, ← and_assoc, beginsWith_iff]
  constructor
  · intro h
    have hpair : trimEnd (trimStart (firstPair line.toList)) = svpnCookieKey ++ value :=
      (String.ofList_injective (validCookiePair_eq_some.mp h).1).symm
    rw [hpair, validCookiePair_svpnCookie] at h
    exact ⟨hpair, h.2.2, h.2.1⟩
  · rintro ⟨hpair, hne, hfits⟩
    rw [hpair, validCookiePair_svpnCookie]
    exact ⟨rfl, hfits, hne⟩

theorem semicolon_not_mem_pair {line pair : String} (h : extractCookiePairFromSetCookieHeader line = some pair) :
    ';' ∉ pair.toList := by
  rw [extractCookiePair_firstPair] at h
  rw [(validCookiePair_eq_some.mp h).1, String.toList_ofList]
  intro hmem
  obtain ⟨front, -, hstart⟩ := exists_blank_trimStart (firstPair line.toList)
  obtain ⟨back, -, hend⟩ := exists_blank_trimEnd (trimStart (firstPair line.toList))
  apply (exists_firstPair line.toList).1
  rw [hstart, hend]
  simp [hmem]

/-- The cookies sent later, one for each line that begins with a pair. -/
def cookiePairs (response : HttpResponse) : List String :=
  (response.headersOf "Set-Cookie").filterMap extractCookiePairFromSetCookieHeader

theorem cookieHeader_eq_some {response : HttpResponse} {header : String} :
    response.cookieHeader = some header ↔
      cookiePairs response ≠ [] ∧ header = String.intercalate "; " (cookiePairs response) := by
  unfold HttpResponse.cookieHeader
  show (if cookiePairs response = [] then none else some _) = some header ↔ _
  split_ifs with hnone
  · simp [hnone]
  · simp only [Option.some.injEq, hnone, not_false_iff, ne_eq, true_and]
    exact eq_comm

/-- The cookie header is split into the pairs it was joined from. -/
theorem splitStr_cookieHeader {response : HttpResponse} {header : String} (h : response.cookieHeader = some header) :
    splitStr "; ".toList (by decide) header.toList = (cookiePairs response).map String.toList := by
  obtain ⟨hne, rfl⟩ := cookieHeader_eq_some.mp h
  have hsep : "; ".toList = [';', ' '] := by decide
  rw [String.toList_intercalate]
  simp only [hsep]
  refine splitStr_intercalate (by simpa using hne) fun p hp => ?_
  obtain ⟨pair, hpair, rfl⟩ := List.mem_map.mp hp
  obtain ⟨line, -, hline⟩ := List.mem_filterMap.mp hpair
  exact semicolon_not_mem_pair hline

theorem carries_iff {response : HttpResponse} {header : String} {value : List Char}
    (h : response.cookieHeader = some header) :
    Carries header (.ofList (svpnCookieKey ++ value)) ↔
      ∃ value', .ofList (svpnCookieKey ++ value') ∈ cookiePairs response ∧ trimEnd value' = trimEnd value := by
  unfold Carries
  rw [splitStr_cookieHeader h]
  constructor
  · rintro ⟨v, value', hcookie, hmem, htrim⟩
    rw [String.toList_ofList] at hcookie
    obtain ⟨pair, hpair, hlist⟩ := List.mem_map.mp hmem
    rw [List.append_cancel_left hcookie]
    refine ⟨value', ?_, htrim⟩
    rwa [← hlist, String.ofList_toList]
  · rintro ⟨value', hmem, htrim⟩
    exact ⟨value, value', String.toList_ofList, List.mem_map.mpr ⟨_, hmem, String.toList_ofList⟩, htrim⟩

/-! ### The same cookie -/

/-- Some line begins with the cookie that the login is accepted for, and its value is not all white space. -/
def SessionLeads (lines : List String) : Prop :=
  ∀ value, FirstValue lines value → ¬ Blank value ∧ ∃ line ∈ lines, BeginsWith (trimEnd value) line.toList

theorem byteLen_trimEnd_le (s : List Char) : byteLen (trimEnd s) ≤ byteLen s := by
  obtain ⟨back, -, hs⟩ := exists_blank_trimEnd s
  calc byteLen (trimEnd s) ≤ byteLen (trimEnd s) + byteLen back := Nat.le_add_right _ _
    _ = byteLen s := by rw [← byteLen_append, ← hs]

theorem mem_cookiePairs_iff {response : HttpResponse} {value : List Char} :
    .ofList (svpnCookieKey ++ value) ∈ cookiePairs response ↔
      (∃ line ∈ response.headersOf "Set-Cookie", BeginsWith value line.toList) ∧ trimEnd value = value ∧
        value ≠ [] ∧ byteLen (svpnCookieKey ++ value) ≤ cookieSize := by
  unfold cookiePairs
  rw [List.mem_filterMap]
  constructor
  · rintro ⟨line, hline, hpair⟩
    obtain ⟨hbegins, hrest⟩ := extractCookiePair_eq_some.mp hpair
    exact ⟨⟨line, hline, hbegins⟩, hrest⟩
  · rintro ⟨⟨line, hline, hbegins⟩, hrest⟩
    exact ⟨line, hline, extractCookiePair_eq_some.mpr ⟨hbegins, hrest⟩⟩

/-- **The cookie header carries the session cookie** if and only if some line begins with it. -/
theorem cookieHeader_carries_iff (response : HttpResponse) :
    (∀ cookie, response.svpnCookie = some cookie →
        ∃ header, response.cookieHeader = some header ∧ Carries header cookie) ↔
      SessionLeads (response.headersOf "Set-Cookie") := by
  constructor
  · intro h value hfirst
    obtain ⟨header, hheader, hcarries⟩ := h _ (svpnCookie_eq_some.mpr ⟨value, hfirst, rfl⟩)
    obtain ⟨value', hmem, htrim⟩ := (carries_iff hheader).mp hcarries
    obtain ⟨hbegins, hself, hne, -⟩ := mem_cookiePairs_iff.mp hmem
    rw [hself] at htrim
    rw [← trimEnd_eq_nil_iff, ← htrim]
    exact ⟨hne, hbegins⟩
  · rintro h cookie hcookie
    obtain ⟨value, hfirst, rfl⟩ := svpnCookie_eq_some.mp hcookie
    obtain ⟨hblank, hbegins⟩ := h value hfirst
    obtain ⟨_, _, _, _, _, hsession⟩ := hfirst
    have hfits : byteLen (svpnCookieKey ++ trimEnd value) ≤ cookieSize := by
      have := hsession.fits
      rw [byteLen_append] at this ⊢
      have := byteLen_trimEnd_le value
      omega
    have hmem : .ofList (svpnCookieKey ++ trimEnd value) ∈ cookiePairs response :=
      mem_cookiePairs_iff.mpr ⟨hbegins, trimEnd_trimEnd value, fun hnil => hblank ((trimEnd_eq_nil_iff value).mp hnil), hfits⟩
    have hheader := cookieHeader_eq_some.mpr ⟨List.ne_nil_of_mem hmem, rfl⟩
    exact ⟨_, hheader, (carries_iff hheader).mpr ⟨_, hmem, trimEnd_trimEnd value⟩⟩

/-! ### The end of a login -/

variable {σ : Type}

theorem okOr_eq_ok {α : Type} {stop : Stop} {a : α} {o : Option α} {w w' : Conversation σ}
    (h : Login.okOr stop o w = .ok a w') : o = some a ∧ w' = w := by
  cases o with
  | none => cases h
  | some a' =>
    cases h
    exact ⟨rfl, rfl⟩

theorem ofPanic_eq_ok {α : Type} {a : α} {r : Except Panic α} {w w' : Conversation σ}
    (h : Login.ofPanic r w = .ok a w') : r = .ok a ∧ w' = w := by
  cases r with
  | error why => cases h
  | ok a' =>
    cases h
    exact ⟨rfl, rfl⟩

theorem ofResult_eq_ok {α : Type} {a : α} {r : Result α} {w w' : Conversation σ}
    (h : Login.ofResult r w = .ok a w') : r = .ok a ∧ w' = w := by
  cases r with
  | error err => cases h
  | ok a' =>
    cases h
    exact ⟨rfl, rfl⟩

/-- A request that is answered is recorded. -/
theorem doHttpRequest_eq_ok {gateway : Gateway σ} {request : Request} {response : HttpResponse}
    {w w' : Conversation σ} (h : doHttpRequest gateway request w = .ok response w') :
    w'.exchanges = w.exchanges ++ [(request, .ok response)] := by
  unfold doHttpRequest at h
  cases hanswer : gateway.doHttpRequest request w.state with
  | mk result state =>
    rw [hanswer] at h
    cases result with
    | error err => cases h
    | ok answer =>
      cases h
      rfl

/-- The session and the request of the host check have the cookies of the response. -/
theorem finishAuthenticatedResponse_cookie {gateway : Gateway σ} {config : Config} {host : String}
    {response : HttpResponse} {w w' : Conversation σ} {session : AuthSession}
    (h : finishAuthenticatedResponse gateway config host response w = .ok session w') :
    ∃ cookie, response.svpnCookie = some cookie ∧ session.cookie = response.cookieHeader.getD cookie ∧
      ∀ exchange ∈ w'.exchanges.drop w.exchanges.length, ("Cookie", session.cookie) ∈ exchange.1.headers := by
  obtain ⟨cookie, w₁, hcookie, hafter⟩ := Lib.bind_eq_ok.mp h
  obtain ⟨hsome, rfl⟩ := okOr_eq_ok hcookie
  refine ⟨cookie, hsome, ?_⟩
  have hend : ∀ w₂ : Conversation σ, (do
      let redirect ← Login.ofPanic (portalRedirect (bodyText response))
      return (⟨response.cookieHeader.getD cookie, redirect.map .ofList⟩ : AuthSession)) w₂ = .ok session w' →
      session.cookie = response.cookieHeader.getD cookie ∧ w' = w₂ := by
    intro w₂ hrun
    obtain ⟨redirect, w₃, hredirect, hreturn⟩ := Lib.bind_eq_ok.mp hrun
    obtain ⟨-, rfl⟩ := ofPanic_eq_ok hredirect
    cases hreturn
    exact ⟨rfl, rfl⟩
  obtain ⟨path, w₂, hpath, haction⟩ := Lib.bind_eq_ok.mp hafter
  obtain ⟨-, rfl⟩ := ofPanic_eq_ok hpath
  cases path with
  | none =>
    obtain ⟨hsession, rfl⟩ := hend _ haction
    exact ⟨hsession, by simp⟩
  | some path =>
    obtain ⟨answer, w₃, hanswer, hchecks⟩ := Lib.bind_eq_ok.mp haction
    obtain ⟨_, w₄, hstatus, hrest⟩ := Lib.bind_eq_ok.mp hchecks
    obtain ⟨-, rfl⟩ := ofResult_eq_ok hstatus
    obtain ⟨hsession, rfl⟩ := hend _ hrest
    refine ⟨hsession, fun exchange hexchange => ?_⟩
    rw [doHttpRequest_eq_ok hanswer, List.drop_left, List.mem_singleton] at hexchange
    rw [hexchange, hsession]
    simp

/-- **The session cookie is sent later**, in the cookie header of the response that the login is accepted for
and so with every later request, if and only if some line begins with it. -/
theorem session_cookie_reaches_iff (gateway : Gateway σ) (config : Config) (host : String) (response : HttpResponse)
    (w : Conversation σ) :
    ((∀ cookie, response.svpnCookie = some cookie →
          ∃ header, response.cookieHeader = some header ∧ Carries header cookie) ∧
        ∀ session w', finishAuthenticatedResponse gateway config host response w = .ok session w' →
          ∃ cookie, response.svpnCookie = some cookie ∧ Carries session.cookie cookie ∧
            ∀ exchange ∈ w'.exchanges.drop w.exchanges.length, ("Cookie", session.cookie) ∈ exchange.1.headers) ↔
      SessionLeads (response.headersOf "Set-Cookie") := by
  rw [← cookieHeader_carries_iff]
  refine ⟨fun h => h.1, fun h => ⟨h, fun session w' hrun => ?_⟩⟩
  obtain ⟨cookie, hsome, hsession, hexchanges⟩ := finishAuthenticatedResponse_cookie hrun
  obtain ⟨header, hheader, hcarries⟩ := h cookie hsome
  rw [hheader, Option.getD_some] at hsession
  exact ⟨cookie, hsome, hsession ▸ hcarries, hexchanges⟩

/-- A cookie whose name ends in that of the session cookie. -/
def otherCookie : HttpResponse := ⟨200, "OK", [("Set-Cookie", "LASTSVPNCOOKIE=abc; Path=/")], []⟩

/-- The login is accepted for a cookie that is sent under another name. -/
theorem session_cookie_is_not_sent : otherCookie.svpnCookie = some "SVPNCOOKIE=abc" ∧
    otherCookie.cookieHeader = some "LASTSVPNCOOKIE=abc" ∧ ¬ Carries "LASTSVPNCOOKIE=abc" "SVPNCOOKIE=abc" := by
  refine ⟨by decide +kernel, by decide +kernel, ?_⟩
  rintro ⟨value, value', -, hmem, -⟩
  have hsplit : splitStr "; ".toList (by decide) "LASTSVPNCOOKIE=abc".toList = ["LASTSVPNCOOKIE=abc".toList] :=
    splitStr_none _ (by decide)
  rw [hsplit, List.mem_singleton] at hmem
  have hhead := congrArg List.head? hmem
  rw [List.head?_append_of_ne_nil _ (by decide)] at hhead
  revert hhead
  decide

end OpenfortivpnRs.Auth
