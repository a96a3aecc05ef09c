import OpenfortivpnRs.Net.Apply
import OpenfortivpnRs.Text.Utf8

/-!
# The default routes of the host

Replacing the default route and putting it back (`apply_default_route`, `rollback_default_route`),
on a host whose `ip route` commands work on an ordered list of default routes.  Both delete with a
scoped command that falls back to an unscoped one, so a rollback that no longer finds its own route
takes another one away.
-/

namespace OpenfortivpnRs.Net

open Text

/-- A word as `split_whitespace` yields them. -/
def IsWord (w : List Char) : Prop := w ≠ [] ∧ ∀ c ∈ w, isWhitespace c = false

/-- A default route as `ip` prints it: its words, the first of which is `default`, and the device
that stands behind `dev`. -/
structure DefaultRoute where
  tokens : List String
  device : String
  isDefault : tokens.head? = some "default"
  onDevice : tokenAfter tokens "dev" = some device
  deriving DecidableEq

namespace DefaultRoute

/-- The words of the route can be told apart in print. -/
def Printable (route : DefaultRoute) : Prop :=
  ∀ token ∈ route.tokens, IsWord token.toList

theorem printable_iff (route : DefaultRoute) : route.Printable ↔ route.tokens.all fun token =>
    token.toList ≠ [] && token.toList.all fun c => !isWhitespace c := by
  simp [Printable, IsWord]

instance (route : DefaultRoute) : Decidable route.Printable := decidable_of_iff _ route.printable_iff.symm

def line (route : DefaultRoute) : List Char := [' '].intercalate (route.tokens.map String.toList)

/-- The default route on a device. -/
def on (device : String) : DefaultRoute := ⟨["default", "dev", device], device, rfl, by
  unfold tokenAfter
  rw [if_neg (by decide)]
  unfold tokenAfter
  rw [if_pos rfl]⟩

end DefaultRoute

/-- What `ip route show default` prints. -/
def listing (routes : List DefaultRoute) : String :=
  .ofList (routes.flatMap fun route => route.line ++ ['\n'])

/-! ### Reading the listing -/

section Words

variable {words : List (List Char)}

/-- Words with blanks in between are split at the blanks. -/
theorem splitOnP_words (hne : words ≠ []) (h : ∀ w ∈ words, IsWord w) :
    ([' '].intercalate words).splitOnP isWhitespace = words := by
  induction words with
  | nil => exact absurd rfl hne
  | cons w words ih =>
    have hw := (h w List.mem_cons_self).2
    by_cases hwords : words = []
    · subst hwords
      rw [List.intercalate_singleton]
      exact List.splitOnP_eq_singleton hw
    · rw [List.intercalate_cons_of_ne_nil hwords, List.append_assoc, List.singleton_append,
        List.splitOnP_append_cons_of_forall_mem hw _ (by decide),
        ih hwords fun w' hw' => h w' (List.mem_cons_of_mem _ hw')]

/-- A line of words ends with a character of a word. -/
theorem getLast_words (hne : words ≠ []) (h : ∀ w ∈ words, IsWord w) :
    ∃ c, ([' '].intercalate words).getLast? = some c ∧ isWhitespace c = false := by
  induction words with
  | nil => exact absurd rfl hne
  | cons w words ih =>
    have hw := h w List.mem_cons_self
    by_cases hwords : words = []
    · subst hwords
      rw [List.intercalate_singleton, List.getLast?_eq_some_getLast hw.1]
      exact ⟨_, rfl, hw.2 _ (List.getLast_mem hw.1)⟩
    · obtain ⟨c, hlast, hc⟩ := ih hwords fun w' hw' => h w' (List.mem_cons_of_mem _ hw')
      refine ⟨c, ?_, hc⟩
      rw [List.intercalate_cons_of_ne_nil hwords, List.getLast?_append, hlast]
      rfl

/-- A line of words starts with a character of a word. -/
theorem head_words (hne : words ≠ []) (h : ∀ w ∈ words, IsWord w) :
    ∃ c, ([' '].intercalate words).head? = some c ∧ isWhitespace c = false := by
  obtain ⟨w, words, rfl⟩ := List.exists_cons_of_ne_nil hne
  have hw := h w List.mem_cons_self
  obtain ⟨c, w, rfl⟩ := List.exists_cons_of_ne_nil hw.1
  refine ⟨c, ?_, hw.2 c List.mem_cons_self⟩
  by_cases hwords : words = []
  · rw [hwords, List.intercalate_singleton]
    rfl
  · rw [List.intercalate_cons_of_ne_nil hwords]
    rfl

/-- A line of words has no blanks to trim. -/
theorem trim_words (hne : words ≠ []) (h : ∀ w ∈ words, IsWord w) :
    trim (.ofList ([' '].intercalate words)) = .ofList ([' '].intercalate words) := by
  have hkeep : ∀ {l : List Char} {c : Char}, l.head? = some c → isWhitespace c = false →
      l.dropWhile isWhitespace = l := by
    rintro l c hl hc
    obtain ⟨l', rfl⟩ := List.head?_eq_some_iff.mp hl
    exact List.dropWhile_cons_of_neg (by simp [hc])
  obtain ⟨c, hhead, hc⟩ := head_words hne h
  obtain ⟨d, hlast, hd⟩ := getLast_words hne h
  unfold trim
  rw [String.toList_ofList, hkeep hhead hc, hkeep (by rw [List.head?_reverse]; exact hlast) hd,
    List.reverse_reverse]

end Words

namespace DefaultRoute

variable {route : DefaultRoute}

theorem tokens_ne_nil (route : DefaultRoute) : route.tokens ≠ [] := by
  intro h
  have := route.isDefault
  rw [h] at this
  cases this

theorem words_ne_nil (route : DefaultRoute) : route.tokens.map String.toList ≠ [] := by
  rw [Ne, List.map_eq_nil_iff]
  exact route.tokens_ne_nil

theorem Printable.words (h : route.Printable) : ∀ w ∈ route.tokens.map String.toList, IsWord w := by
  intro w hw
  obtain ⟨token, hmem, rfl⟩ := List.mem_map.mp hw
  exact h token hmem

/-- A printed route is on one line. -/
theorem Printable.not_mem_line (h : route.Printable) : '\n' ∉ route.line := by
  intro hmem
  rcases mem_intercalate hmem with heq | ⟨w, hw, hc⟩
  · exact absurd heq (by decide)
  · exact absurd ((h.words w hw).2 _ hc) (by decide)

theorem Printable.splitWhitespace_line (h : route.Printable) :
    splitWhitespace (.ofList route.line) = route.tokens := by
  unfold splitWhitespace line
  rw [String.toList_ofList, splitOnP_words route.words_ne_nil h.words,
    List.filter_eq_self.mpr fun w hw => by simpa using (h.words w hw).1, List.map_map]
  exact (List.map_congr_left fun token _ => String.ofList_toList).trans (List.map_id _)

end DefaultRoute

/-- The first line of a listing is its first route. -/
theorem lines_listing {route : DefaultRoute} (h : route.Printable) (routes : List DefaultRoute) :
    (lines (listing (route :: routes))).head? = some (.ofList route.line) := by
  have hstrip : stripCarriageReturn route.line = route.line := by
    obtain ⟨c, hlast, hc⟩ := getLast_words route.words_ne_nil h.words
    unfold stripCarriageReturn
    refine if_neg fun hr => ?_
    rw [DefaultRoute.line, hlast] at hr
    cases hr
    exact absurd hc (by decide)
  unfold lines listing
  rw [String.toList_ofList, List.flatMap_cons, List.append_assoc, List.singleton_append,
    List.splitOn_append_cons_self_of_not_mem h.not_mem_line]
  obtain ⟨p, ps, hps⟩ := List.exists_cons_of_ne_nil (List.splitOn_ne_nil '\n'
    (routes.flatMap fun route => route.line ++ ['\n']))
  rw [hps]
  simp [hstrip]

/-- **The first route is read back from the listing.** -/
theorem parseLinuxDefaultRoute_listing (routes : List DefaultRoute)
    (h : ∀ route ∈ routes, route.Printable) :
    parseLinuxDefaultRoute (listing routes) =
      routes.head?.map fun route => ["route", "add"] ++ route.tokens := by
  cases routes with
  | nil => decide
  | cons route routes =>
    have hroute := h route List.mem_cons_self
    have htrim : trim (.ofList route.line) = .ofList route.line :=
      trim_words route.words_ne_nil hroute.words
    have hne : String.ofList route.line ≠ "" := by
      intro he
      obtain ⟨c, hc, -⟩ := head_words route.words_ne_nil hroute.words
      have := congrArg String.toList he
      rw [String.toList_ofList] at this
      rw [← DefaultRoute.line, this] at hc
      cases hc
    unfold parseLinuxDefaultRoute
    rw [lines_listing hroute]
    simp only [Option.bind_eq_bind, Option.bind_some, htrim, if_neg hne,
      hroute.splitWhitespace_line]
    rfl

/-! ### The host -/

variable {σ : Type} {host : Host σ} {routes : σ → List DefaultRoute}

/-- What the `ip route` commands do to the ordered list of default routes of the host.  Where a new
route is put is up to the host. -/
structure IpRoute (host : Host σ) (routes : σ → List DefaultRoute) : Prop where
  listDefault : ∀ s, ∃ out s', host.output "ip" ["route", "show", "default"] s = (.ok out, s') ∧
    out.success = true ∧ out.stdout = asBytes (listing (routes s)) ∧ routes s' = routes s
  delOn : ∀ s device, ∃ out s',
    host.output "ip" ["route", "del", "default", "dev", device] s = (.ok out, s') ∧
    (out.success = true ↔ ∃ r ∈ routes s, r.device = device) ∧
    routes s' = (routes s).eraseP fun r => r.device == device
  del : ∀ s, ∃ out s', host.output "ip" ["route", "del", "default"] s = (.ok out, s') ∧
    (out.success = true ↔ routes s ≠ []) ∧ routes s' = (routes s).tail
  add : ∀ s route, ∃ out s', host.output "ip" (["route", "add"] ++ route.tokens) s = (.ok out, s') ∧
    (route ∈ routes s → routes s' = routes s) ∧
    (route ∉ routes s → out.success = true ∧
      ∃ before after, routes s = before ++ after ∧ routes s' = before ++ route :: after)
  warn : ∀ text s, routes (host.warn text s) = routes s

theorem runCommand_eq {program : String} {args : List String} {s s' : σ} {out : Output}
    (h : host.output program args s = (.ok out, s')) :
    runCommand host program args s = if out.success then .ok () s'
      else .error (commandError program args out.stdout out.stderr out.status) s' := by
  unfold runCommand
  simp only [bind, EStateM.bind, Cmd.io, h]
  split <;> rfl

/-- The routes a deletion on a device leaves: the first route on it goes or, when there is none, the
first route of all. -/
def afterDelete (device : String) (list : List DefaultRoute) : List DefaultRoute :=
  if ∃ r ∈ list, r.device = device then list.eraseP fun r => r.device == device else list.tail

theorem IpRoute.deleteDefaultRoute (h : IpRoute host routes) (device : String) (s : σ) :
    ∃ s', Net.deleteDefaultRoute host .linux device s = .ok () s' ∧
      routes s' = afterDelete device (routes s) := by
  obtain ⟨out, s₁, hout, hsucc, hroutes⟩ := h.delOn s device
  have hrun := runCommand_eq hout
  unfold Net.deleteDefaultRoute afterDelete
  simp only [bind, EStateM.bind, Cmd.attempt]
  by_cases hex : ∃ r ∈ routes s, r.device = device
  · rw [if_pos (hsucc.mpr hex)] at hrun
    rw [hrun, if_pos hex]
    exact ⟨s₁, rfl, hroutes⟩
  · rw [if_neg (fun hs => hex (hsucc.mp hs))] at hrun
    rw [hrun, if_neg hex]
    have hsame : routes s₁ = routes s := by
      rw [hroutes]
      exact List.eraseP_of_forall_not fun r hr hd => hex ⟨r, hr, by simpa using hd⟩
    obtain ⟨out', s₂, hout', hsucc', hroutes'⟩ := h.del s₁
    have hrun' := runCommand_eq hout'
    by_cases hok : out'.success = true
    · rw [if_pos hok] at hrun'
      simp only [EStateM.bind, Cmd.attempt, hrun']
      exact ⟨s₂, rfl, by rw [hroutes', hsame]⟩
    · rw [if_neg hok] at hrun'
      simp only [EStateM.bind, Cmd.attempt, hrun']
      exact ⟨_, rfl, by rw [h.warn, hroutes', hsame]⟩

/-- The first route is captured, in the form that adds it again. -/
theorem IpRoute.captureDefaultRoute (h : IpRoute host routes) {s : σ}
    (hprint : ∀ r ∈ routes s, r.Printable) :
    ∃ s', Net.captureDefaultRoute host .linux s = .ok ((routes s).head?.map fun r =>
      ("ip", ["route", "add"] ++ r.tokens)) s' ∧ routes s' = routes s := by
  obtain ⟨out, s', hout, hsucc, hstdout, hroutes⟩ := h.listDefault s
  refine ⟨s', ?_, hroutes⟩
  unfold Net.captureDefaultRoute captureLinuxDefaultRoute
  simp only [bind, EStateM.bind, Cmd.io, hout]
  rw [if_neg (by simp [hsucc]), hstdout, fromUtf8Lossy_asBytes,
    parseLinuxDefaultRoute_listing _ hprint, Option.map_map]
  rfl

/-- A route that is not there is added somewhere. -/
theorem IpRoute.addRoute (h : IpRoute host routes) {route : DefaultRoute} {s : σ}
    (hnew : route ∉ routes s) :
    ∃ s' before after, runCommand host "ip" (["route", "add"] ++ route.tokens) s = .ok () s' ∧
      routes s = before ++ after ∧ routes s' = before ++ route :: after := by
  obtain ⟨out, s', hout, -, hadd⟩ := h.add s route
  obtain ⟨hsucc, before, after, h1, h2⟩ := hadd hnew
  have hrun := runCommand_eq hout
  rw [if_pos hsucc] at hrun
  exact ⟨s', before, after, hrun, h1, h2⟩

/-! ### Replacing the default route and putting it back -/

/-- **What `apply_default_route` leaves.**  The first route is remembered and gone, and the route on
the interface stands somewhere among the others. -/
theorem IpRoute.applyDefaultRoute (h : IpRoute host routes) {device : String} {s : σ}
    (hforeign : ∀ r ∈ routes s, r.device ≠ device) (hprint : ∀ r ∈ routes s, r.Printable)
    (applied : AppliedNetworkPlan) :
    ∃ s' before after, Net.applyDefaultRoute host .linux device applied s =
      .ok (applied.push (.defaultRoute .linux device ((routes s).head?.map fun r =>
        ("ip", ["route", "add"] ++ r.tokens)))) s' ∧
      (routes s).tail = before ++ after ∧ routes s' = before ++ DefaultRoute.on device :: after := by
  obtain ⟨s₁, hcapture, h₁⟩ := h.captureDefaultRoute hprint
  obtain ⟨s₂, hdelete, h₂⟩ := h.deleteDefaultRoute device s₁
  have htail : routes s₂ = (routes s).tail := by
    rw [h₂, h₁, afterDelete]
    exact if_neg fun ⟨r, hr, hd⟩ => hforeign r hr hd
  have hnew : DefaultRoute.on device ∉ routes s₂ := by
    rw [htail]
    exact fun hmem => hforeign _ (List.mem_of_mem_tail hmem) rfl
  obtain ⟨s₃, before, after, hadd, h₃, h₄⟩ := h.addRoute hnew
  have hadd' : addDefaultRoute host .linux device s₂ = .ok () s₃ := hadd
  refine ⟨s₃, before, after, ?_, htail ▸ h₃, h₄⟩
  unfold Net.applyDefaultRoute
  simp only [bind, EStateM.bind, Cmd.attempt, hcapture, hdelete, hadd']
  rfl

/-- **What `rollback_default_route` leaves**: what a deletion leaves, and the route to restore. -/
theorem IpRoute.rollbackDefaultRoute (h : IpRoute host routes) (device : String) {s : σ}
    (restore : Option DefaultRoute)
    (hnew : ∀ r ∈ restore, r ∉ afterDelete device (routes s)) :
    ∃ s', Net.rollbackDefaultRoute host .linux device (restore.map fun r =>
      ("ip", ["route", "add"] ++ r.tokens)) s = .ok () s' ∧
      ∀ r, r ∈ routes s' ↔ r ∈ afterDelete device (routes s) ∨ r ∈ restore := by
  obtain ⟨s₁, hdelete, h₁⟩ := h.deleteDefaultRoute device s
  unfold Net.rollbackDefaultRoute
  simp only [bind, EStateM.bind, hdelete]
  cases restore with
  | none => exact ⟨s₁, rfl, fun r => by simp [h₁]⟩
  | some route =>
    obtain ⟨s₂, before, after, hadd, h₂, h₃⟩ := h.addRoute (h₁ ▸ hnew route rfl)
    refine ⟨s₂, hadd, fun r => ?_⟩
    rw [h₃, ← h₁, h₂]
    simp only [List.mem_append, List.mem_cons, Option.mem_def, Option.some.injEq, eq_comm (a := r)]
    tauto

section Delete

variable {device : String} {list before after : List DefaultRoute}

/-- A deletion finds the only route on its device. -/
theorem afterDelete_on (hbefore : ∀ r ∈ before, r.device ≠ device) :
    afterDelete device (before ++ DefaultRoute.on device :: after) = before ++ after := by
  unfold afterDelete
  rw [if_pos ⟨DefaultRoute.on device, by simp, rfl⟩,
    List.eraseP_append_right _ fun r hr => by simpa using hbefore r hr,
    List.eraseP_cons_of_pos (by simp [DefaultRoute.on])]

/-- A deletion that does not find its device takes the first route. -/
theorem afterDelete_foreign (h : ∀ r ∈ list, r.device ≠ device) :
    afterDelete device list = list.tail :=
  if_neg fun ⟨r, hr, hd⟩ => h r hr hd

/-- Without its interface the routes are those of the others. -/
theorem filter_vanished (hbefore : ∀ r ∈ before, r.device ≠ device)
    (hafter : ∀ r ∈ after, r.device ≠ device) :
    (before ++ DefaultRoute.on device :: after).filter (fun r => r.device ≠ device) =
      before ++ after := by
  rw [List.filter_append, List.filter_cons_of_neg (by simp [DefaultRoute.on]),
    List.filter_eq_self.mpr fun r hr => by simpa using hbefore r hr,
    List.filter_eq_self.mpr fun r hr => by simpa using hafter r hr]

end Delete

/-- The first route and those a deletion of the first two leaves are not all of several routes. -/
theorem mem_tail_tail_iff {list : List DefaultRoute} (hnodup : list.Nodup) :
    (∀ r, (r ∈ list.tail.tail ∨ r ∈ list.head?) ↔ r ∈ list) ↔ list.length ≤ 1 := by
  rcases list with _ | ⟨r₀, _ | ⟨r₁, rest⟩⟩
  · simp
  · simp [eq_comm]
  · simp only [List.nodup_cons, List.mem_cons, not_or] at hnodup
    refine iff_of_false (fun hall => ?_) (by simp)
    rcases (hall r₁).mpr (by simp) with hrest | hhead
    · exact hnodup.2.1 hrest
    · exact hnodup.1.1 (Option.some.inj hhead)

/-! ### A host -/

/-- The result of a command that succeeds or fails without a word. -/
def answer (success : Bool) (stdout : List UInt8) : Except IoError Output :=
  .ok ⟨success, "exit status", stdout, []⟩

/-- The route that the words behind `ip route add` describe. -/
def routeOf (tokens : List String) : Option DefaultRoute :=
  if hd : tokens.head? = some "default" then
    match h : tokenAfter tokens "dev" with
    | some device => some ⟨tokens, device, hd, h⟩
    | none => none
  else none

theorem routeOf_tokens (route : DefaultRoute) : routeOf route.tokens = some route := by
  obtain ⟨tokens, device, hd, h⟩ := route
  unfold routeOf
  rw [dif_pos hd]
  split
  · rename_i device' h'
    cases h.symm.trans h'
    rfl
  · rename_i h'
    cases h.symm.trans h'

/-- A host that is nothing but its default routes; new ones go to the front. -/
def routingHost : Host (List DefaultRoute) where
  output _ args list :=
    match args with
    | ["route", "show", "default"] => (answer true (asBytes (listing list)), list)
    | ["route", "del", "default"] => (answer (list ≠ []) [], list.tail)
    | ["route", "del", "default", "dev", device] =>
      (answer (list.any fun r => r.device == device) [], list.eraseP fun r => r.device == device)
    | "route" :: "add" :: tokens =>
      match routeOf tokens with
      | some route => if route ∈ list then (answer false [], list) else (answer true [], route :: list)
      | none => (answer false [], list)
    | _ => (answer false [], list)
  spawn _ _ list := (.error ⟨.other, "not found"⟩, list)
  writeAll _ _ list := (.error ⟨.other, "not found"⟩, list)
  waitWithOutput _ list := (.error ⟨.other, "not found"⟩, list)
  read _ list := (.error ⟨.other, "not found"⟩, list)
  write _ _ list := (.error ⟨.other, "not found"⟩, list)
  pathExists _ list := (false, list)
  isFile _ list := (false, list)
  pathVar list := (none, list)
  warn _ list := list

theorem ipRoute_routingHost : IpRoute routingHost id where
  listDefault list := ⟨_, list, rfl, rfl, rfl, rfl⟩
  delOn list device := by
    refine ⟨_, _, rfl, ?_, rfl⟩
    simp [List.any_eq_true]
  del list := ⟨_, _, rfl, by simp, rfl⟩
  add list route := by
    have hrun : routingHost.output "ip" (["route", "add"] ++ route.tokens) list =
        if route ∈ list then (answer false [], list) else (answer true [], route :: list) := by
      simp only [routingHost, List.cons_append, List.nil_append, routeOf_tokens]
    rw [hrun]
    by_cases hmem : route ∈ list
    · rw [if_pos hmem]
      exact ⟨_, _, rfl, fun _ => rfl, fun hnew => absurd hmem hnew⟩
    · rw [if_neg hmem]
      exact ⟨_, _, rfl, fun h => absurd h hmem, fun _ => ⟨rfl, [], list, rfl, rfl⟩⟩
  warn _ _ := rfl

/-- The default route through the cable. -/
def ethRoute : DefaultRoute :=
  ⟨["default", "via", "192.168.1.1", "dev", "eth0", "metric", "100"], "eth0", by decide, by decide⟩

/-- The default route through the air. -/
def wlanRoute : DefaultRoute :=
  ⟨["default", "via", "10.0.0.1", "dev", "wlan0", "metric", "600"], "wlan0", by decide, by decide⟩

theorem eth_wlan :
    [ethRoute, wlanRoute].Nodup ∧ (∀ r ∈ [ethRoute, wlanRoute], r.Printable) ∧
      ∀ r ∈ [ethRoute, wlanRoute], r.device ≠ "ppp0" := by
  refine ⟨by decide, ?_, by decide⟩
  intro r hr
  simp only [List.mem_cons, List.not_mem_nil, or_false] at hr
  rcases hr with rfl | rfl
  · decide +kernel
  · decide +kernel

/-- What the host is left with when the first of the two routes is replaced. -/
theorem applyDefaultRoute_eth_wlan :
    applyDefaultRoute routingHost .linux "ppp0" ⟨[]⟩ [ethRoute, wlanRoute] =
      .ok ⟨[.defaultRoute .linux "ppp0" (some ("ip", ["route", "add"] ++ ethRoute.tokens))]⟩
        [.on "ppp0", wlanRoute] := by
  obtain ⟨s₁, hcapture, h₁⟩ := ipRoute_routingHost.captureDefaultRoute (s := [ethRoute, wlanRoute])
    eth_wlan.2.1
  cases h₁
  have hdelete : deleteDefaultRoute routingHost .linux "ppp0" [ethRoute, wlanRoute] =
      .ok () [wlanRoute] := rfl
  have hadd : addDefaultRoute routingHost .linux "ppp0" [wlanRoute] =
      .ok () [.on "ppp0", wlanRoute] := rfl
  unfold applyDefaultRoute
  simp only [bind, EStateM.bind, Cmd.attempt, hcapture, hdelete, hadd]
  rfl

/-! ### Survival -/

/-- **The default routes survive unless the interface vanishes with several of them.**  After the
default route was replaced, with or without the interface vanishing, a rollback gives the default
routes there were if and only if the interface did not vanish or there was at most one of them. -/
theorem default_route_survives_iff (h : IpRoute host routes) {device : String} {s s₁ s₂ : σ}
    {applied applied' : AppliedNetworkPlan} (vanished : Bool) (hnodup : (routes s).Nodup)
    (hprint : ∀ r ∈ routes s, r.Printable) (hforeign : ∀ r ∈ routes s, r.device ≠ device)
    (happly : applyDefaultRoute host .linux device applied s = .ok applied' s₁)
    (hbetween : routes s₂ =
      if vanished then (routes s₁).filter (fun r => r.device ≠ device) else routes s₁) :
    ∃ restore s₃, applied' = applied.push (.defaultRoute .linux device restore) ∧
      rollbackDefaultRoute host .linux device restore s₂ = .ok () s₃ ∧
      ((∀ r, r ∈ routes s₃ ↔ r ∈ routes s) ↔ (vanished = false ∨ (routes s).length ≤ 1)) := by
  obtain ⟨s₁', before, after, hrun, htail, hroutes⟩ := h.applyDefaultRoute hforeign hprint applied
  rw [happly] at hrun
  cases hrun
  have hothers : ∀ r ∈ before ++ after, r.device ≠ device := fun r hr =>
    hforeign r (List.mem_of_mem_tail (htail ▸ hr))
  have hbefore : ∀ r ∈ before, r.device ≠ device := fun r hr =>
    hothers r (List.mem_append_left _ hr)
  have hafter : ∀ r ∈ after, r.device ≠ device := fun r hr =>
    hothers r (List.mem_append_right _ hr)
  have hleft : afterDelete device (routes s₂) =
      if vanished then (routes s).tail.tail else (routes s).tail := by
    rw [hbetween, hroutes, htail]
    cases vanished with
    | false => exact afterDelete_on hbefore
    | true =>
      rw [if_pos rfl, filter_vanished hbefore hafter, afterDelete_foreign hothers]
      rfl
  have hhead : ∀ r ∈ (routes s).head?, r ∉ (routes s).tail := by
    intro r hr
    obtain ⟨rest, hlist⟩ := List.head?_eq_some_iff.mp hr
    rw [hlist] at hnodup ⊢
    exact (List.nodup_cons.mp hnodup).1
  obtain ⟨s₃, hback, hmem⟩ := h.rollbackDefaultRoute device (s := s₂) (routes s).head? (by
    intro r hr hdel
    rw [hleft] at hdel
    split at hdel
    · exact hhead r hr (List.mem_of_mem_tail hdel)
    · exact hhead r hr hdel)
  refine ⟨_, s₃, rfl, hback, ?_⟩
  simp only [hmem, hleft]
  cases vanished with
  | false =>
    refine iff_of_true (fun r => ?_) (.inl rfl)
    cases routes s with
    | nil => simp
    | cons r₀ rest => simp [or_comm, eq_comm]
  | true => simpa using mem_tail_tail_iff hnodup

/-- Two routes and an interface that stays. -/
theorem default_route_survives_eth_wlan :
    ∃ restore s₃, rollbackDefaultRoute routingHost .linux "ppp0" restore [.on "ppp0", wlanRoute] =
        .ok () s₃ ∧ ∀ r, r ∈ s₃ ↔ r ∈ [ethRoute, wlanRoute] := by
  obtain ⟨restore, s₃, -, hback, hiff⟩ := default_route_survives_iff ipRoute_routingHost false
    eth_wlan.1 eth_wlan.2.1 eth_wlan.2.2 applyDefaultRoute_eth_wlan rfl
  exact ⟨restore, s₃, hback, hiff.mpr (.inl rfl)⟩

/-- When the interface vanishes, the rollback takes the other route away. -/
theorem default_route_lost_eth_wlan :
    ∃ applied restore s₁ s₃,
      applyDefaultRoute routingHost .linux "ppp0" ⟨[]⟩ [ethRoute, wlanRoute] = .ok applied s₁ ∧
      applied.applied = [.defaultRoute .linux "ppp0" restore] ∧
      rollbackDefaultRoute routingHost .linux "ppp0" restore
        (s₁.filter fun r => r.device ≠ "ppp0") = .ok () s₃ ∧
      ¬ ∀ r, r ∈ s₃ ↔ r ∈ [ethRoute, wlanRoute] := by
  refine ⟨_, _, _, [ethRoute], applyDefaultRoute_eth_wlan, rfl, rfl, fun hall => ?_⟩
  exact absurd ((hall wlanRoute).mpr (by decide)) (by decide)

end OpenfortivpnRs.Net
