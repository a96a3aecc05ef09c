import OpenfortivpnRs.Net.Dns
import OpenfortivpnRs.Text.Lines
import OpenfortivpnRs.Text.Utf8

/-!
# Taking the added lines out of `resolv.conf` again

`remove_added_dns_lines` reads the file as text, drops a line for each line that was added, and
writes the others back, each with a newline.  On lists of characters that is a difference of lists
(`removeLines_eq_diff`), and it gives back what was there before exactly when all of it, and all that
was added, are plain lines (`restore_iff`).
-/

namespace OpenfortivpnRs.Net

open Text

theorem removeLines_eq_diff (current pending : List String) :
    removeLines current pending = current.diff pending := by
  induction current generalizing pending with
  | nil => simp [removeLines]
  | cons line rest ih =>
    rw [removeLines, List.cons_diff, ih, ih]

/-! ### On characters -/

theorem append_diff_self {α : Type*} [BEq α] [LawfulBEq α] (l m : List α) : (l ++ m).diff l = m := by
  induction l with
  | nil => simp
  | cons a l ih => rw [List.cons_append, List.cons_diff_of_mem (List.mem_cons_self ..), List.erase_cons_head, ih]

/-- When taking `t` out of `l ++ m` leaves as much as there is in `m`, and `t` shares nothing with `m`,
then `l`, if it is no shorter than `t`, is `t` in some order. -/
theorem perm_of_length_diff {α : Type*} [DecidableEq α] {l m t : List α} (hlen : t.length ≤ l.length)
    (hdisjoint : ∀ a ∈ t, a ∉ m) (hleft : ((l ++ m).diff t).length = m.length) : t.Perm l := by
  have hall : (↑(l ++ m) : Multiset α) ≤ ↑((l ++ m).diff t) + ↑t := by
    rw [← Multiset.coe_sub]
    exact le_tsub_add
  have hcard : ((l ++ m).diff t).length + t.length ≤ (l ++ m).length := by
    rw [List.length_append]
    omega
  have heq := Multiset.eq_of_le_of_card_le hall (by simpa using hcard)
  have hle : (↑t : Multiset α) ≤ ↑(l ++ m) := by
    rw [heq]
    exact Multiset.le_add_left _ _
  have hcards := congrArg Multiset.card heq
  simp only [Multiset.coe_card, Multiset.card_add, List.length_append] at hcards
  have htl : (↑t : Multiset α) ≤ ↑l := by
    rw [Multiset.le_iff_count]
    intro a
    have hcount := Multiset.le_iff_count.mp hle a
    simp only [Multiset.coe_count, List.count_append] at hcount ⊢
    by_cases ha : a ∈ t
    · rw [List.count_eq_zero_of_not_mem (hdisjoint a ha)] at hcount
      exact hcount
    · rw [List.count_eq_zero_of_not_mem ha]
      exact Nat.zero_le _
  exact Multiset.coe_eq_coe.mp (Multiset.eq_of_le_of_card_le htl (by simp only [Multiset.coe_card]; omega))

/-- Lines that stripping only reorders end in no carriage return. -/
theorem plain_of_perm {ls : List (List Char)} (hperm : ls.Perm (ls.map stripCarriageReturn))
    (hnewline : ∀ l ∈ ls, '\n' ∉ l) : ∀ l ∈ ls, Plain l := by
  intro l hl
  refine ⟨hnewline l hl, fun hreturn => ?_⟩
  have hsum : (ls.map List.length).sum = (ls.map fun l => (stripCarriageReturn l).length).sum := by
    rw [(hperm.map List.length).sum_eq, List.map_map]
    rfl
  exact (List.sum_lt_sum _ _ (fun l _ => length_strip_le l) ⟨l, hl, stripCarriageReturn_ne hreturn⟩).ne' hsum

/-- The lines of a file that gives itself back are plain. -/
theorem restore_iff {added : List (List Char)} {text : List Char}
    (hnew : ∀ l ∈ added, l ∉ lineList text) :
    unlines ((lineList (unlines added ++ text)).diff added) = text ↔
      (∀ l ∈ added, Plain l) ∧ ∃ ls, (∀ l ∈ ls, Plain l) ∧ text = unlines ls := by
  have hplain : (∀ l ∈ added, Plain l) →
      (lineList (unlines added ++ text)).diff added = lineList text := fun h => by
    rw [lineList_unlines_append, lineList_unlines_plain h, append_diff_self]
  constructor
  · intro heq
    set found := lineList (unlines added) with hfound
    set kept := (lineList (unlines added ++ text)).diff added with hkept
    have hlines : lineList (unlines added ++ text) = found ++ lineList text :=
      lineList_unlines_append added text
    have hold : lineList text = kept.map stripCarriageReturn := by
      rw [← heq]
      exact lineList_unlines fun l hl => newline_not_mem ((List.diff_sublist _ _).subset hl)
    have hlonger : added.length ≤ found.length := by
      rw [hfound, length_lineList_unlines]
      omega
    have hleft : ((found ++ lineList text).diff added).length = (lineList text).length := by
      rw [← hlines, ← hkept, hold, List.length_map]
    have hperm : added.Perm found := perm_of_length_diff hlonger hnew (by convert hleft)
    -- as many lines as were added, so there is no newline in any of them
    have hcount : (added.map (List.count '\n')).sum = 0 := by
      have hlen := hperm.length_eq
      rw [hfound, length_lineList_unlines] at hlen
      omega
    have hnewline : ∀ l ∈ added, '\n' ∉ l := fun l hl =>
      List.count_eq_zero.mp (List.sum_eq_zero_iff.mp hcount _ (List.mem_map_of_mem hl))
    rw [hfound, lineList_unlines hnewline] at hperm
    have hadded := plain_of_perm hperm hnewline
    have hkeeps : kept = lineList text := hplain hadded
    refine ⟨hadded, kept, plain_of_perm ?_ ?_, heq.symm⟩
    · conv_lhs => rw [hkeeps, hold]
    · intro l hl
      rw [hkeeps] at hl
      exact newline_not_mem hl
  · rintro ⟨hadded, ls, hls, rfl⟩
    rw [hplain hadded, lineList_unlines_plain hls]

/-! ### On bytes -/

/-- The bytes of a text. -/
def encode (text : List Char) : List UInt8 := text.flatMap String.utf8EncodeChar

/-- The file is made of plain lines, each closed by a newline. -/
def PlainText (bytes : List UInt8) : Prop := ∃ ls, (∀ l ∈ ls, Plain l) ∧ bytes = encode (unlines ls)

/-- What can be restored: a plain text, and servers and a search domain that fit a line. -/
def Restorable (original : List UInt8) (servers : List String) (searchDomain : Option String) : Prop :=
  PlainText original ∧ (∀ server ∈ servers, Plain server.toList) ∧
    ∀ domain, searchDomain.filter (· ≠ "") = some domain → Plain domain.toList

theorem encode_unlines (ls : List String) :
    (ls.flatMap fun line => asBytes line ++ [0x0a]) = encode (unlines (ls.map String.toList)) := by
  induction ls with
  | nil => rfl
  | cons line ls ih =>
    rw [List.flatMap_cons, ih, List.map_cons, unlines_cons, encode, encode, List.flatMap_append,
      List.flatMap_cons, asBytes, List.append_assoc]
    rfl

theorem lossyChars_encode_append (text : List Char) (bytes : List UInt8) :
    lossyChars (encode text ++ bytes) = text ++ lossyChars bytes := lossyChars_append text bytes

/-- What a rollback writes back, on characters. -/
theorem removeAddedDnsLines_eq (original : List UInt8) (added : List String) :
    removeAddedDnsLines (prependDnsLinesToResolvConf original added) added =
      encode (unlines ((lineList (unlines (added.map String.toList) ++ lossyChars original)).diff
        (added.map String.toList))) := by
  have hinj : Function.Injective String.toList := fun _ _ h => String.toList_inj.mp h
  have htext : (lines (fromUtf8Lossy (prependDnsLinesToResolvConf original added))).map String.toList =
      lineList (unlines (added.map String.toList) ++ lossyChars original) := by
    rw [prependDnsLinesToResolvConf, encode_unlines, fromUtf8Lossy, lossyChars_encode_append, lines_eq,
      String.toList_ofList, List.map_map]
    exact (List.map_congr_left fun l _ => String.toList_ofList).trans (List.map_id _)
  rw [removeAddedDnsLines, encode_unlines, removeLines_eq_diff, List.map_diff hinj, htext]

theorem plain_append {front line : List Char} (h : Plain front) : Plain (front ++ line) ↔ Plain line := by
  unfold Plain at h ⊢
  rw [List.mem_append, List.getLast?_append]
  cases line.getLast? <;> simp [h.1, h.2]

/-- Semicolons do not matter. -/
theorem plain_replaceSemicolons (value : String) :
    Plain (replaceSemicolons value).toList ↔ Plain value.toList := by
  have hchar : ∀ c d : Char, d ≠ ' ' → d ≠ ';' → ((if c = ';' then ' ' else c) = d ↔ c = d) := by
    intro c d hspace hsemicolon
    split
    · rename_i hc
      rw [hc]
      exact ⟨fun h => absurd h.symm hspace, fun h => absurd h.symm hsemicolon⟩
    · exact Iff.rfl
  unfold Plain replaceSemicolons
  rw [String.toList_ofList, List.getLast?_map]
  apply and_congr
  · simp only [List.mem_map, hchar _ '\n' (by decide) (by decide), exists_eq_right]
  · cases value.toList.getLast? with
    | none => simp
    | some c => simp [hchar c '\r' (by decide) (by decide)]

theorem plain_buildDnsLines (servers : List String) (searchDomain : Option String) :
    (∀ line ∈ buildDnsLines servers searchDomain, Plain line.toList) ↔
      (∀ server ∈ servers, Plain server.toList) ∧
        ∀ domain, searchDomain.filter (· ≠ "") = some domain → Plain domain.toList := by
  have hserver (server : String) : Plain ("nameserver " ++ server).toList ↔ Plain server.toList := by
    rw [String.toList_append]
    exact plain_append (by decide)
  have hsearch (domain : String) :
      Plain ("search " ++ replaceSemicolons domain).toList ↔ Plain domain.toList := by
    rw [String.toList_append, ← plain_replaceSemicolons]
    exact plain_append (by decide)
  unfold buildDnsLines
  cases searchDomain.filter (· ≠ "") with
  | none =>
    simp only [List.append_nil, List.mem_map, forall_exists_index, and_imp, forall_apply_eq_imp_iff₂,
      hserver, reduceCtorEq, false_imp_iff, implies_true, and_true]
  | some domain =>
    simp only [List.mem_append, List.mem_map, List.mem_singleton, or_imp, forall_and,
      forall_exists_index, and_imp, forall_apply_eq_imp_iff₂, forall_eq, hserver, hsearch,
      Option.some.injEq, forall_eq']

/-- **What is restored exactly**: taking the added lines out again gives back the original file if
and only if it is a plain text and the servers and the search domain fit a line. -/
theorem resolv_conf_restored_iff (original : List UInt8) (servers : List String)
    (searchDomain : Option String) :
    removeAddedDnsLines
        (prependDnsLinesToResolvConf original (dnsLinesToAdd original servers searchDomain))
        (dnsLinesToAdd original servers searchDomain) = original ↔
      Restorable original servers searchDomain := by
  have hold : ∀ line ∈ lines (fromUtf8Lossy original), line.toList ∈ lineList (lossyChars original) := by
    intro line hline
    rw [lines_eq, fromUtf8Lossy, String.toList_ofList] at hline
    obtain ⟨l, hl, rfl⟩ := List.mem_map.mp hline
    rwa [String.toList_ofList]
  have hnew : ∀ l ∈ (dnsLinesToAdd original servers searchDomain).map String.toList,
      l ∉ lineList (lossyChars original) := by
    intro l hl hmem
    obtain ⟨line, hline, rfl⟩ := List.mem_map.mp hl
    apply of_decide_eq_true (List.mem_filter.mp hline).2
    rw [lines_eq, fromUtf8Lossy, String.toList_ofList]
    exact List.mem_map.mpr ⟨line.toList, hmem, String.ofList_toList⟩
  rw [removeAddedDnsLines_eq]
  constructor
  · intro heq
    have htext := (lossyChars_encode _).symm.trans (congrArg lossyChars heq)
    obtain ⟨hadded, ls, hls, hplain⟩ := (restore_iff hnew).mp htext
    refine ⟨⟨ls, hls, heq.symm.trans (congrArg encode (htext.trans hplain))⟩,
      (plain_buildDnsLines servers searchDomain).mp fun line hline => ?_⟩
    by_cases hmem : line ∈ lines (fromUtf8Lossy original)
    · have hl := hold line hmem
      rw [hplain, lineList_unlines_plain hls] at hl
      exact hls _ hl
    · exact hadded _ (List.mem_map_of_mem (List.mem_filter.mpr ⟨hline, decide_eq_true hmem⟩))
  · rintro ⟨⟨ls, hls, rfl⟩, hvalues⟩
    have htext : lossyChars (encode (unlines ls)) = unlines ls := lossyChars_encode _
    have hlines := (plain_buildDnsLines servers searchDomain).mpr hvalues
    have hadded : ∀ l ∈ (dnsLinesToAdd (encode (unlines ls)) servers searchDomain).map String.toList,
        Plain l := by
      intro l hl
      obtain ⟨line, hline, rfl⟩ := List.mem_map.mp hl
      exact hlines line (List.mem_filter.mp hline).1
    rw [(restore_iff hnew).mpr ⟨hadded, ls, hls, htext⟩, htext]

/-- A file whose last line has no newline gets one. -/
theorem resolv_conf_not_restored :
    ¬ ∀ (original : List UInt8) (servers : List String) (searchDomain : Option String),
      dnsLinesToAdd original servers searchDomain ≠ [] →
      removeAddedDnsLines
          (prependDnsLinesToResolvConf original (dnsLinesToAdd original servers searchDomain))
          (dnsLinesToAdd original servers searchDomain) = original := by
  intro h
  have := h (asBytes "nameserver 1.1.1.1") ["10.0.0.53"] none (by decide +kernel)
  revert this
  decide +kernel

end OpenfortivpnRs.Net
