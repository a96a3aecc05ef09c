import OpenfortivpnRs.Net.ResolvConf

/-!
# Other programs' edits of `resolv.conf`

Between the connection and the rollback other programs edit the patched file: they insert, delete and
reorder lines, as long as the added lines stay (`EditStep`).  However many edits there are, the file
still holds the added lines (`Edits.keeps`), and the rollback takes out these lines and no others
(`removeLines_eq_filter`).
-/

namespace OpenfortivpnRs.Net

open Text

/-- One edit of a file to which the lines `added` were added: a line that is none of them comes or goes,
or two lines that follow each other change places. -/
inductive EditStep (added : List String) : List String → List String → Prop
  | insert (before : List String) (line : String) (after : List String) (h : line ∉ added) :
      EditStep added (before ++ after) (before ++ line :: after)
  | delete (before : List String) (line : String) (after : List String) (h : line ∉ added) :
      EditStep added (before ++ line :: after) (before ++ after)
  | swap (before : List String) (line line' : String) (after : List String) :
      EditStep added (before ++ line :: line' :: after) (before ++ line' :: line :: after)

/-- Any number of edits. -/
def Edits (added : List String) : List String → List String → Prop := Relation.ReflTransGen (EditStep added)

section Edits

variable {added before after : List String}

theorem EditStep.keeps (h : EditStep added before after) :
    (after.filter (· ∈ added)).Perm (before.filter (· ∈ added)) := by
  cases h with
  | insert front line rest h => rw [List.filter_append, List.filter_append, List.filter_cons_of_neg (by simpa)]
  | delete front line rest h => rw [List.filter_append, List.filter_append, List.filter_cons_of_neg (by simpa)]
  | swap front line line' rest => exact (List.Perm.append_left front (List.Perm.swap ..)).filter _

/-- **Edits keep the added lines**, in some order. -/
theorem Edits.keeps (h : Edits added before after) :
    (after.filter (· ∈ added)).Perm (before.filter (· ∈ added)) := by
  induction h with
  | refl => exact .rfl
  | tail _ hstep ih => exact hstep.keeps.trans ih

theorem EditStep.cons (line : String) (h : EditStep added before after) :
    EditStep added (line :: before) (line :: after) := by
  cases h with
  | insert front l rest h => exact .insert (line :: front) l rest h
  | delete front l rest h => exact .delete (line :: front) l rest h
  | swap front l l' rest => exact .swap (line :: front) l l' rest

theorem Edits.cons (line : String) (h : Edits added before after) :
    Edits added (line :: before) (line :: after) := h.lift (line :: ·) fun _ _ hstep => hstep.cons line

/-- The other lines can all be deleted. -/
theorem edits_filter (ls : List String) : Edits added ls (ls.filter (· ∈ added)) := by
  induction ls with
  | nil => exact .refl
  | cons line ls ih =>
    by_cases hline : line ∈ added
    · rw [List.filter_cons_of_pos (by simpa)]
      exact ih.cons line
    · rw [List.filter_cons_of_neg (by simpa)]
      exact .head (.delete [] line ls hline) ih

/-- They can all be inserted, anywhere. -/
theorem edits_of_filter (ls : List String) : Edits added (ls.filter (· ∈ added)) ls := by
  induction ls with
  | nil => exact .refl
  | cons line ls ih =>
    by_cases hline : line ∈ added
    · rw [List.filter_cons_of_pos (by simpa)]
      exact ih.cons line
    · rw [List.filter_cons_of_neg (by simpa)]
      exact .tail ih (.insert [] line ls hline)

/-- Lines can be put in any order. -/
theorem edits_of_perm (h : before.Perm after) : Edits added before after := by
  induction h with
  | nil => exact .refl
  | cons line _ ih => exact ih.cons line
  | swap line line' ls => exact .single (.swap [] line' line ls)
  | trans _ _ ih ih' => exact Relation.ReflTransGen.trans ih ih'

/-- **What edits can make of a file**: every file that holds the added lines as often as it did. -/
theorem edits_iff : Edits added before after ↔
    (after.filter (· ∈ added)).Perm (before.filter (· ∈ added)) := by
  refine ⟨Edits.keeps, fun h => ?_⟩
  exact (edits_filter before).trans ((edits_of_perm h.symm).trans (edits_of_filter after))

end Edits

/-! ### What the rollback takes out -/

/-- When the lines of the file that are in `added` are the ones still pending, these are taken out, and
no line is left pending. -/
theorem removeLines_eq_filter {added current pending : List String}
    (h : (current.filter (· ∈ added)).Perm pending) :
    removeLines current pending = current.filter (· ∉ added) := by
  induction current generalizing pending with
  | nil => rfl
  | cons line rest ih =>
    unfold removeLines
    by_cases hline : line ∈ added
    · rw [List.filter_cons_of_pos (by simpa)] at h
      have hpending : line ∈ pending := h.subset List.mem_cons_self
      rw [if_pos hpending, List.filter_cons_of_neg (by simpa)]
      exact ih ((List.cons_perm_iff_perm_erase.mp h).2)
    · rw [List.filter_cons_of_neg (by simpa)] at h
      -- what is pending is in the file and added
      have hpending : line ∉ pending := fun hmem =>
        hline (of_decide_eq_true (List.mem_filter.mp (h.symm.subset hmem)).2)
      rw [if_neg hpending, List.filter_cons_of_pos (by simpa), ih h]

/-- The lines of the patched file: the added ones, then those that were there. -/
theorem lines_prepend {original : List UInt8} {added : List String} (h : ∀ line ∈ added, Plain line.toList) :
    lines (fromUtf8Lossy (prependDnsLinesToResolvConf original added)) =
      added ++ lines (fromUtf8Lossy original) := by
  have hplain : ∀ l ∈ added.map String.toList, Plain l := by
    intro l hl
    obtain ⟨line, hline, rfl⟩ := List.mem_map.mp hl
    exact h line hline
  rw [prependDnsLinesToResolvConf, encode_unlines, fromUtf8Lossy, lossyChars_encode_append, lines_eq,
    String.toList_ofList, lineList_unlines_append, lineList_unlines_plain hplain, List.map_append,
    List.map_map, lines_eq, fromUtf8Lossy, String.toList_ofList]
  refine congrArg (· ++ _) ((List.map_congr_left fun line _ => ?_).trans (List.map_id _))
  exact String.ofList_toList

section Rollback

variable (original : List UInt8) (servers : List String) (searchDomain : Option String)

/-- Of the lines of the patched file, those that were added are the ones in front. -/
theorem filter_prepend {added : List String} (hplain : ∀ line ∈ added, Plain line.toList)
    (hnew : ∀ line ∈ added, line ∉ lines (fromUtf8Lossy original)) :
    (lines (fromUtf8Lossy (prependDnsLinesToResolvConf original added))).filter (· ∈ added) = added := by
  have hrest : (lines (fromUtf8Lossy original)).filter (· ∈ added) = [] :=
    List.filter_eq_nil_iff.mpr fun line hline hmem => hnew line (of_decide_eq_true hmem) hline
  rw [lines_prepend hplain, List.filter_append, hrest, List.append_nil]
  exact List.filter_eq_self.mpr fun line hline => decide_eq_true hline

/-- `prepend_vpn_dns_to_resolv_conf`: the file with the lines it lacks in front. -/
def prependVpnDnsToResolvConf : List UInt8 :=
  prependDnsLinesToResolvConf original (dnsLinesToAdd original servers searchDomain)

/-- A configuration is added again where one of its lines is missing. -/
theorem mem_dnsLinesToAdd {current : List UInt8} {line : String} :
    line ∈ dnsLinesToAdd current servers searchDomain ↔
      line ∈ buildDnsLines servers searchDomain ∧ line ∉ lines (fromUtf8Lossy current) := by
  rw [dnsLinesToAdd, List.mem_filter, decide_eq_true_eq]

variable {original servers searchDomain}

theorem Restorable.plain (h : Restorable original servers searchDomain) :
    ∀ line ∈ dnsLinesToAdd original servers searchDomain, Plain line.toList := fun line hline =>
  (plain_buildDnsLines servers searchDomain).mpr h.2 line ((mem_dnsLinesToAdd ..).mp hline).1

/-- **The rollback keeps other programs' edits.**  After any edits of the patched file the rollback
takes out the added lines, as often as they were added, and keeps the others in the order they stand
in.  Without edits the same configuration adds nothing a second time; with edits it adds only lines that
were in the original file and that the edits took away. -/
theorem rollback_keeps_edits {edited : List UInt8} (hrestorable : Restorable original servers searchDomain)
    (hedits : Edits (dnsLinesToAdd original servers searchDomain)
      (lines (fromUtf8Lossy (prependVpnDnsToResolvConf original servers searchDomain)))
      (lines (fromUtf8Lossy edited))) :
    ((lines (fromUtf8Lossy edited)).filter (· ∈ dnsLinesToAdd original servers searchDomain)).Perm
        (dnsLinesToAdd original servers searchDomain) ∧
      removeAddedDnsLines edited (dnsLinesToAdd original servers searchDomain) =
        ((lines (fromUtf8Lossy edited)).filter (· ∉ dnsLinesToAdd original servers searchDomain)).flatMap
          (fun line => asBytes line ++ [0x0a]) ∧
      dnsLinesToAdd (prependVpnDnsToResolvConf original servers searchDomain) servers searchDomain = [] ∧
      ∀ line ∈ dnsLinesToAdd edited servers searchDomain,
        line ∈ lines (fromUtf8Lossy original) ∧ line ∉ dnsLinesToAdd original servers searchDomain ∧
          line ∉ lines (fromUtf8Lossy edited) := by
  set added := dnsLinesToAdd original servers searchDomain with hadded
  have hnew : ∀ line ∈ added, line ∉ lines (fromUtf8Lossy original) := fun line hline =>
    ((mem_dnsLinesToAdd ..).mp hline).2
  have hplain : ∀ line ∈ added, Plain line.toList := hrestorable.plain
  have hkept : ((lines (fromUtf8Lossy edited)).filter (· ∈ added)).Perm added := by
    have h := hedits.keeps
    rwa [prependVpnDnsToResolvConf, ← hadded, filter_prepend original hplain hnew] at h
  have hmissing : ∀ line ∈ buildDnsLines servers searchDomain, line ∉ added →
      line ∈ lines (fromUtf8Lossy original) := fun line hline hnot => by
    by_contra hold
    exact hnot ((mem_dnsLinesToAdd ..).mpr ⟨hline, hold⟩)
  refine ⟨hkept, ?_, ?_, ?_⟩
  · rw [removeAddedDnsLines, removeLines_eq_filter hkept]
  · refine List.eq_nil_iff_forall_not_mem.mpr fun line hline => ?_
    obtain ⟨hbuilt, hgone⟩ := (mem_dnsLinesToAdd ..).mp hline
    rw [prependVpnDnsToResolvConf, ← hadded, lines_prepend hplain, List.mem_append, not_or] at hgone
    exact hgone.2 (hmissing line hbuilt hgone.1)
  · intro line hline
    obtain ⟨hbuilt, hgone⟩ := (mem_dnsLinesToAdd ..).mp hline
    have hnot : line ∉ added := fun hmem => hgone (List.mem_filter.mp (hkept.symm.subset hmem)).1
    exact ⟨hmissing line hbuilt hnot, hnot, hgone⟩

/-- Two lines are added and one is not; another program deletes a line, inserts one between the added
lines and turns these round. -/
theorem rollback_keeps_edits_example :
    removeAddedDnsLines (asBytes "search corp.example\noptions rotate\nnameserver 10.0.0.53\n")
        (dnsLinesToAdd (asBytes "nameserver 1.1.1.1\n") ["1.1.1.1", "10.0.0.53"] (some "corp.example")) =
      asBytes "options rotate\n" := by
  have hrestorable : Restorable (asBytes "nameserver 1.1.1.1\n") ["1.1.1.1", "10.0.0.53"]
      (some "corp.example") :=
    ⟨⟨["nameserver 1.1.1.1".toList], by decide +kernel, by decide +kernel⟩, by decide +kernel, by
      rintro domain hdomain
      cases hdomain
      decide +kernel⟩
  have hedits : Edits (dnsLinesToAdd (asBytes "nameserver 1.1.1.1\n") ["1.1.1.1", "10.0.0.53"]
        (some "corp.example"))
      (lines (fromUtf8Lossy (prependVpnDnsToResolvConf (asBytes "nameserver 1.1.1.1\n")
        ["1.1.1.1", "10.0.0.53"] (some "corp.example"))))
      (lines (fromUtf8Lossy (asBytes "search corp.example\noptions rotate\nnameserver 10.0.0.53\n"))) :=
    edits_iff.mpr (by decide +kernel)
  rw [(rollback_keeps_edits hrestorable hedits).2.1]
  decide +kernel

end Rollback

/-- A line that was in the file before, and that another program deletes, is added the next time; and
a line that another program ends with a carriage return loses it in the rollback. -/
theorem edits_not_kept :
    ¬ (∀ (original edited : List UInt8) (servers : List String) (searchDomain : Option String),
        Restorable original servers searchDomain →
        Edits (dnsLinesToAdd original servers searchDomain)
          (lines (fromUtf8Lossy (prependVpnDnsToResolvConf original servers searchDomain)))
          (lines (fromUtf8Lossy edited)) →
        dnsLinesToAdd edited servers searchDomain = []) ∧
      removeAddedDnsLines (asBytes "nameserver 10.0.0.53\noptions rotate\r\nnameserver 1.1.1.1\n")
          (dnsLinesToAdd (asBytes "nameserver 1.1.1.1\n") ["10.0.0.53"] none) ≠
        asBytes "options rotate\r\nnameserver 1.1.1.1\n" := by
  refine ⟨fun h => ?_, by decide +kernel⟩
  have hadd := h (asBytes "nameserver 1.1.1.1\n") [] ["1.1.1.1"] none
    ⟨⟨["nameserver 1.1.1.1".toList], by decide +kernel, by decide +kernel⟩, by decide +kernel, by
      rintro domain hdomain
      cases hdomain⟩
    (edits_iff.mpr (by decide +kernel))
  revert hadd
  decide +kernel

end OpenfortivpnRs.Net
