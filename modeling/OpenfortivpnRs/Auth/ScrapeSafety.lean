import OpenfortivpnRs.Auth.Offsets

/-!
# When scraping panics

`action_url` never panics: it goes on behind a quote, a space or the end.  `portal_redirect` goes on
behind whatever byte follows a marker, so it panics at a place of a marker that is followed by a
character of several bytes and does not end the search (`scraping_never_panics_iff`).
-/

namespace OpenfortivpnRs.Auth

open Text

/-- The text does not begin with a character of several bytes. -/
def BeginsWithByte (s : List Char) : Prop := ∀ c ∈ s.head?, c.utf8Size = 1

theorem beginsWithByte_cons (c : Char) (s : List Char) : BeginsWithByte (c :: s) ↔ c.utf8Size = 1 := by
  simp only [BeginsWithByte, List.head?_cons, Option.mem_some_iff, forall_eq']

instance : DecidablePred BeginsWithByte
  | [] => .isTrue fun _ h => absurd h (Option.not_mem_none _)
  | c :: s => decidable_of_iff _ (beginsWithByte_cons c s).symm

theorem skipByte_eq (s : List Char) :
    skipByte s = if BeginsWithByte s then .ok (s.drop 1) else .error .charBoundary := by
  cases s with
  | nil => rfl
  | cons c s => simp only [skipByte, beginsWithByte_cons, List.drop_succ_cons, List.drop_zero]

/-! ### Addresses -/

theorem utf8Size_of_endsAction {c : Char} (h : Offsets.endsAction c = true) : c.utf8Size = 1 := by
  simp only [Offsets.endsAction, isAsciiWhitespace, Bool.or_eq_true, beq_iff_eq] at h
  rcases h with (rfl | rfl) | (((rfl | rfl) | rfl) | rfl) | rfl <;> decide

/-- Where no address follows the key, a quote or a space does. -/
theorem beginsWithByte_of_no_action {afterKey : List Char} (h : actionValue afterKey = []) :
    BeginsWithByte afterKey := by
  cases afterKey with
  | nil => exact fun c hc => by cases hc
  | cons d s =>
    suffices hsize : d.utf8Size = 1 by
      intro c hc
      rwa [← Option.some.inj hc]
    by_cases hd : Offsets.endsAction d = true
    · exact utf8Size_of_endsAction hd
    · have hquote : stripQuote (d :: s) = d :: s := by
        unfold stripQuote
        split
        · rename_i heq
          rw [(List.cons.inj heq).1] at hd
          exact absurd rfl hd
        · rename_i heq
          rw [(List.cons.inj heq).1] at hd
          exact absurd rfl hd
        · rfl
      rw [actionValue, hquote, List.takeWhile_cons_of_pos (by simpa using hd)] at h
      cases h

theorem actionUrl_never_panics (rest : List Char) : ∃ found, actionUrl rest = .ok found := by
  induction hn : rest.length using Nat.strong_induction_on generalizing rest with
  | _ n ih =>
    cases h : splitOnceIgnoreCase "action=".toList rest with
    | none => exact ⟨none, actionUrl_none h⟩
    | some split =>
      obtain ⟨before, afterKey⟩ := split
      rw [actionUrl_some h]
      by_cases hvalue : actionValue afterKey = []
      · have hskip := skipByte_eq afterKey
        rw [if_pos (beginsWithByte_of_no_action hvalue)] at hskip
        have hlt := (skipByte_length_le hskip).trans_lt (splitOnceIgnoreCase_lt (by decide) h)
        rw [if_neg (not_not.mpr hvalue), hskip]
        exact ih _ (hn ▸ hlt) _ rfl
      · exact ⟨_, if_pos hvalue⟩

/-! ### Redirects -/

theorem length_drop_one_lt {marker rest before after : List Char} (hm : marker ≠ [])
    (h : splitOnceIgnoreCase marker rest = some (before, after)) : (after.drop 1).length < rest.length := by
  have hlt := splitOnceIgnoreCase_lt hm h
  rw [List.length_drop]
  omega

/-- What stands behind the places of a marker, each looked for behind the character that follows the
place before. -/
def places (marker : List Char) (hm : marker ≠ []) (rest : List Char) : List (List Char) :=
  match h : splitOnceIgnoreCase marker rest with
  | none => []
  | some (_, after) =>
    have : (after.drop 1).length < rest.length := length_drop_one_lt hm h
    after :: places marker hm (after.drop 1)
termination_by rest.length
decreasing_by exact this

/-- What follows a marker does not end the search. -/
def undecided (after : List Char) : Bool := (assignment after).isNone

/-- **No place of the marker stops the program**: those in front of the first one that ends the search
are not followed by a character of several bytes. -/
def MarkerSafe (marker : List Char) (hm : marker ≠ []) (body : List Char) : Prop :=
  ∀ after ∈ (places marker hm body).takeWhile undecided, BeginsWithByte after

/-- The path that the first place to end the search is followed by. -/
def redirectBehind (marker : List Char) (hm : marker ≠ []) (body : List Char) : Option (List Char) :=
  ((places marker hm body).findSome? assignment).join

instance (marker : List Char) (hm : marker ≠ []) (body : List Char) : Decidable (MarkerSafe marker hm body) := by
  unfold MarkerSafe
  infer_instance

section Marker

variable {marker : List Char} {hm : marker ≠ []}

theorem places_none {rest : List Char} (h : splitOnceIgnoreCase marker rest = none) : places marker hm rest = [] := by
  rw [places]
  split
  · rfl
  · rename_i hsome
    rw [h] at hsome
    cases hsome

theorem places_some {rest before after : List Char} (h : splitOnceIgnoreCase marker rest = some (before, after)) :
    places marker hm rest = after :: places marker hm (after.drop 1) := by
  rw [places]
  split
  · rename_i hnone
    rw [h] at hnone
    cases hnone
  · rename_i hsome
    rw [h] at hsome
    cases hsome
    rfl

/-- **The loop along the places of a marker.** -/
theorem redirectLoop_eq (rest : List Char) : redirectLoop marker rest hm =
    if MarkerSafe marker hm rest then .ok (redirectBehind marker hm rest) else .error .charBoundary := by
  induction hn : rest.length using Nat.strong_induction_on generalizing rest with
  | _ n ih =>
    cases h : splitOnceIgnoreCase marker rest with
    | none =>
      have hsafe : MarkerSafe marker hm rest := by
        rw [MarkerSafe, places_none h]
        exact fun after hafter => absurd hafter List.not_mem_nil
      rw [redirectLoop_none h, if_pos hsafe, redirectBehind, places_none h]
      rfl
    | some split =>
      obtain ⟨before, after⟩ := split
      rw [redirectLoop_some h]
      cases hassign : assignment after with
      | some found =>
        have hsafe : MarkerSafe marker hm rest := by
          rw [MarkerSafe, places_some h, List.takeWhile_cons_of_neg (by simp [undecided, hassign])]
          exact fun after hafter => absurd hafter List.not_mem_nil
        rw [if_pos hsafe, redirectBehind, places_some h, List.findSome?_cons, hassign]
        rfl
      | none =>
        have hsafe : MarkerSafe marker hm rest ↔ BeginsWithByte after ∧ MarkerSafe marker hm (after.drop 1) := by
          rw [MarkerSafe, places_some h, List.takeWhile_cons_of_pos (by simp [undecided, hassign]),
            List.forall_mem_cons]
          rfl
        have hbehind : redirectBehind marker hm rest = redirectBehind marker hm (after.drop 1) := by
          rw [redirectBehind, places_some h, List.findSome?_cons, hassign]
          rfl
        have hlt : (after.drop 1).length < n := hn ▸ length_drop_one_lt hm h
        rw [skipByte_eq, hbehind]
        by_cases hbyte : BeginsWithByte after
        · rw [if_pos hbyte]
          show redirectLoop marker (after.drop 1) hm = _
          rw [ih _ hlt _ rfl]
          simp only [hsafe, hbyte, true_and]
        · rw [if_neg hbyte, if_neg fun hall => hbyte (hsafe.mp hall).1]
          rfl

end Marker

/-- No marker stops the program, as far as the body is searched for it. -/
def ScrapeSafe (body : List Char) : Prop :=
  MarkerSafe "document.location".toList Offsets.documentLocation_ne body ∧
    (redirectBehind "document.location".toList Offsets.documentLocation_ne body = none →
      MarkerSafe "window.location".toList Offsets.windowLocation_ne body ∧
        (redirectBehind "window.location".toList Offsets.windowLocation_ne body = none →
          MarkerSafe "location.href".toList Offsets.locationHref_ne body))

theorem portalRedirect_ok_iff (body : List Char) : (∃ found, portalRedirect body = .ok found) ↔ ScrapeSafe body := by
  have hpanic : ∀ {P : Prop} {why : Panic}, ¬ P →
      ((∃ found, (Except.error why : Except Panic (Option (List Char))) = .ok found) ↔ P) :=
    fun hP => ⟨fun ⟨_, h⟩ => (by cases h), fun h => absurd h hP⟩
  unfold portalRedirect ScrapeSafe
  simp only [redirectLoop_eq]
  by_cases h1 : MarkerSafe "document.location".toList Offsets.documentLocation_ne body
  · rw [if_pos h1]
    simp only [h1, true_and, bind, Except.bind]
    cases redirectBehind "document.location".toList Offsets.documentLocation_ne body with
    | some value => exact ⟨fun _ h => (by cases h), fun _ => ⟨_, rfl⟩⟩
    | none =>
      by_cases h2 : MarkerSafe "window.location".toList Offsets.windowLocation_ne body
      · rw [if_pos h2]
        simp only [h2, true_and, forall_const]
        cases redirectBehind "window.location".toList Offsets.windowLocation_ne body with
        | some value => exact ⟨fun _ h => (by cases h), fun _ => ⟨_, rfl⟩⟩
        | none =>
          by_cases h3 : MarkerSafe "location.href".toList Offsets.locationHref_ne body
          · simp only [if_pos h3]
            exact ⟨fun _ _ => h3, fun _ => ⟨_, rfl⟩⟩
          · simp only [if_neg h3]
            exact hpanic fun h => h3 (h trivial)
      · rw [if_neg h2]
        exact hpanic fun h => h2 (h rfl).1
  · rw [if_neg h1]
    exact hpanic fun h => h1 h.1

/-- **Scraping a login page never panics** if and only if no marker that is searched for stops it. -/
theorem scraping_never_panics_iff (body : List Char) :
    ((∃ found, Offsets.actionUrl body = .ok found) ∧ ∃ found, Offsets.portalRedirect body = .ok found) ↔
      ScrapeSafe body := by
  rw [actionUrl_offsets, portalRedirect_offsets, portalRedirect_ok_iff]
  exact and_iff_right (actionUrl_never_panics body)

/-- A marker that is followed by a letter with an accent. -/
theorem accent_behind_marker :
    Offsets.portalRedirect "document.locationé".toList = .error .charBoundary := by
  decide +kernel

end OpenfortivpnRs.Auth
