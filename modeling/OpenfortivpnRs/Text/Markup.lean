import OpenfortivpnRs.Text

/-!
# Texts with tags

A text as a list of tags and of what stands between them (`render`), and the first tag of a kind found in
it (`splitOnce_tag`).
-/

namespace OpenfortivpnRs.Text

/-- A tag by what stands between its angle brackets, or text outside of tags. -/
inductive Token where
  | text (s : List Char)
  | tag (inside : List Char)
  deriving DecidableEq

namespace Token

def chars : Token → List Char
  | text s => s
  | tag inside => '<' :: (inside ++ ['>'])

/-- There are no angle brackets but those around tags. -/
def Fits : Token → Prop
  | text s => '<' ∉ s
  | tag inside => '<' ∉ inside ∧ '>' ∉ inside

end Token

def render (ts : List Token) : List Char := ts.flatMap Token.chars

@[simp] theorem render_nil : render [] = [] := rfl

@[simp] theorem render_append (ts us : List Token) : render (ts ++ us) = render ts ++ render us :=
  List.flatMap_append

theorem render_text (s : List Char) (ts : List Token) : render (.text s :: ts) = s ++ render ts := rfl

theorem render_tag (inside : List Char) (ts : List Token) :
    render (.tag inside :: ts) = '<' :: (inside ++ '>' :: render ts) := by
  simp [render, Token.chars]

/-- A text that begins with a bracket is cut behind it. -/
theorem splitOnce_bracket (s : List Char) : splitOnce ['<'] ('<' :: s) = some ([], s) :=
  @splitOnce_char '<' [] s List.not_mem_nil

/-- The rest of a tag holds no bracket that begins one. -/
theorem no_bracket_in_rest {inside : List Char} (h : '<' ∉ inside) : '<' ∉ inside ++ ['>'] := by
  rw [List.mem_append, List.mem_singleton, not_or]
  exact ⟨h, by decide⟩

/-- Two tags that start alike are the same. -/
theorem eq_of_tag_start {name inside rest : List Char} (hname : '>' ∉ name) (hinside : '>' ∉ inside)
    (h : name ++ ['>'] <+: inside ++ '>' :: rest) : name = inside := by
  obtain ⟨more, hmore⟩ := h
  rw [List.append_assoc, List.singleton_append] at hmore
  have hsplit := splitOnce_char more hname
  rw [hmore, splitOnce_char rest hinside, Option.some.injEq, Prod.mk.injEq] at hsplit
  exact hsplit.1.symm

section Find

variable {name : List Char} {ts : List Token}

/-- Tokens among which a tag is not are passed when it is looked for. -/
theorem splitOnce_pass (hname : '>' ∉ name) (hfits : ∀ t ∈ ts, t.Fits) (hnot : .tag name ∉ ts)
    (rest : List Char) :
    splitOnce ('<' :: (name ++ ['>'])) (render ts ++ rest) =
      (splitOnce ('<' :: (name ++ ['>'])) rest).map fun (front, after) => (render ts ++ front, after) := by
  induction ts with
  | nil => simp
  | cons t ts ih =>
    rw [List.mem_cons, not_or] at hnot
    have hrest := ih (fun t ht => hfits t (List.mem_cons_of_mem _ ht)) hnot.2
    have hfit := hfits t List.mem_cons_self
    cases t with
    | text s =>
      rw [render_text, List.append_assoc, splitOnce_skip _ _ hfit, hrest, Option.map_map]
      simp only [Function.comp_def, List.append_assoc]
    | tag inside =>
      have hhere : ¬ '<' :: (name ++ ['>']) <+: '<' :: (inside ++ '>' :: (render ts ++ rest)) := fun hp =>
        hnot.1 (congrArg Token.tag (eq_of_tag_start hname hfit.2 (List.cons_prefix_cons.mp hp).2))
      have hskip := splitOnce_skip (name ++ ['>']) (render ts ++ rest) (no_bracket_in_rest hfit.1)
      rw [List.append_assoc, List.singleton_append] at hskip
      rw [render_tag, List.cons_append, List.append_assoc, List.cons_append, splitOnce, if_neg hhere, hskip,
        hrest, Option.map_map, Option.map_map]
      simp only [Function.comp_def, List.append_assoc, List.cons_append, List.nil_append]

/-- **The first tag of a kind.** -/
theorem splitOnce_tag (hname : '>' ∉ name) (hfits : ∀ t ∈ ts, t.Fits) (hnot : .tag name ∉ ts)
    (rest : List Token) :
    splitOnce ('<' :: (name ++ ['>'])) (render (ts ++ .tag name :: rest)) = some (render ts, render rest) := by
  have hhere := @splitOnce_append '<' [] (name ++ ['>']) (render rest) List.not_mem_nil
  rw [List.nil_append, List.append_assoc, List.singleton_append] at hhere
  rw [render_append, render_tag, splitOnce_pass hname hfits hnot, hhere]
  simp only [Option.map_some, List.append_nil]

theorem splitOnce_no_tag (hname : '>' ∉ name) (hfits : ∀ t ∈ ts, t.Fits) (hnot : .tag name ∉ ts) :
    splitOnce ('<' :: (name ++ ['>'])) (render ts) = none := by
  have hpass := splitOnce_pass hname hfits hnot []
  rw [List.append_nil] at hpass
  rw [hpass, splitOnce, if_neg (List.cons_ne_nil _ _)]
  rfl

end Find

end OpenfortivpnRs.Text
