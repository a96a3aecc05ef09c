import Mathlib.Tactic

/-!
# Incremental decoders

A stream decoder keeps the bytes it has not used yet and, each time bytes arrive, takes as many
values off the front as the buffer allows.  `Decoder` is one such step, `drain` the loop around it,
`feed` a run over the chunks of a stream.

The point of the file is `feed_of_drain`: when a decision taken on a buffer is not changed by bytes
that arrive later (`Stable`), feeding a stream in chunks gives what draining the whole stream at
once gives, wherever the cuts are.
-/

namespace OpenfortivpnRs.Lib.Incremental

variable {β ε α : Type*}

/-- One step on a buffer: an error, nothing yet (`none`), or a value and the bytes behind it.  A
step that yields a value uses up at least one byte. -/
structure Decoder (β ε α : Type*) where
  pull : List β → Except ε (Option (α × List β))
  shrinks : ∀ {buf a rest}, pull buf = .ok (some (a, rest)) → rest.length < buf.length

namespace Decoder

variable (d : Decoder β ε α)

/-- Values are taken off the buffer until no more can be. -/
def drain (buf : List β) : Except ε (List α × List β) :=
  match h : d.pull buf with
  | .error e => .error e
  | .ok none => .ok ([], buf)
  | .ok (some (a, rest)) =>
    have := d.shrinks h
    match drain rest with
    | .error e => .error e
    | .ok (vals, left) => .ok (a :: vals, left)
termination_by buf.length

/-- The chunks of a stream are fed one after another, each appended to what the last one left. -/
def feed : List β → List (List β) → Except ε (List α × List β)
  | buf, [] => .ok ([], buf)
  | buf, c :: cs =>
    match d.drain (buf ++ c) with
    | .error e => .error e
    | .ok (vals, left) =>
      match feed left cs with
      | .error e => .error e
      | .ok (more, left') => .ok (vals ++ more, left')

/-- The values a stream yields, and what stops it: an error, or bytes from which nothing can be
pulled. -/
def takeAll (buf : List β) : List α × Except ε (List β) :=
  match h : d.pull buf with
  | .error e => ([], .error e)
  | .ok none => ([], .ok buf)
  | .ok (some (a, rest)) =>
    have := d.shrinks h
    (a :: (takeAll rest).1, (takeAll rest).2)
termination_by buf.length

variable {d}

theorem takeAll_error {buf : List β} {e : ε} (h : d.pull buf = .error e) :
    d.takeAll buf = ([], .error e) := by
  rw [takeAll]; split <;> simp_all

theorem takeAll_none {buf : List β} (h : d.pull buf = .ok none) : d.takeAll buf = ([], .ok buf) := by
  rw [takeAll]; split <;> simp_all

theorem takeAll_some {buf rest : List β} {a : α} (h : d.pull buf = .ok (some (a, rest))) :
    d.takeAll buf = (a :: (d.takeAll rest).1, (d.takeAll rest).2) := by
  rw [takeAll]; split <;> simp_all

theorem drain_error {buf : List β} {e : ε} (h : d.pull buf = .error e) : d.drain buf = .error e := by
  rw [drain]; split <;> simp_all

theorem drain_none {buf : List β} (h : d.pull buf = .ok none) : d.drain buf = .ok ([], buf) := by
  rw [drain]; split <;> simp_all

theorem drain_some {buf rest : List β} {a : α} (h : d.pull buf = .ok (some (a, rest))) :
    d.drain buf = match d.drain rest with
      | .error e => .error e
      | .ok (vals, left) => .ok (a :: vals, left) := by
  rw [drain]; split <;> simp_all

theorem drain_cons {buf rest left : List β} {a : α} {vals : List α}
    (h : d.pull buf = .ok (some (a, rest))) (hr : d.drain rest = .ok (vals, left)) :
    d.drain buf = .ok (a :: vals, left) := by
  rw [drain_some h, hr]

/-- The ways a drain succeeds: nothing could be pulled, or a value and then the rest. -/
theorem drain_ok_cases {buf left : List β} {vals : List α} (h : d.drain buf = .ok (vals, left)) :
    (d.pull buf = .ok none ∧ vals = [] ∧ left = buf) ∨
    ∃ a rest more, d.pull buf = .ok (some (a, rest)) ∧ d.drain rest = .ok (more, left) ∧
      vals = a :: more := by
  cases hp : d.pull buf with
  | error e => rw [drain_error hp] at h; cases h
  | ok o =>
    rcases o with _ | ⟨a, rest⟩
    · rw [drain_none hp] at h
      cases h
      exact .inl ⟨rfl, rfl, rfl⟩
    · rw [drain_some hp] at h
      cases hr : d.drain rest with
      | error e => simp [hr] at h
      | ok p =>
        obtain ⟨more, left'⟩ := p
        simp only [hr, Except.ok.injEq, Prod.mk.injEq] at h
        obtain ⟨rfl, rfl⟩ := h
        exact .inr ⟨a, rest, more, rfl, hr, rfl⟩

/-- Nothing more can be pulled from what a drain leaves. -/
theorem pull_left {buf left : List β} {vals : List α} (h : d.drain buf = .ok (vals, left)) :
    d.pull left = .ok none := by
  induction hn : buf.length using Nat.strong_induction_on generalizing buf vals with
  | _ n ih =>
    rcases drain_ok_cases h with ⟨hp, -, rfl⟩ | ⟨a, rest, more, hp, hr, rfl⟩
    · exact hp
    · exact ih rest.length (hn ▸ d.shrinks hp) hr rfl

/-! ### Cuts -/

variable (d) in
/-- Bytes that arrive later change neither a value that was pulled nor an error. -/
structure Stable : Prop where
  value : ∀ {buf a rest} (more : List β), d.pull buf = .ok (some (a, rest)) →
    d.pull (buf ++ more) = .ok (some (a, rest ++ more))
  error : ∀ {buf e} (more : List β), d.pull buf = .error e → d.pull (buf ++ more) = .error e

/-- **A cut does not show.**  If a buffer drains, so does every prefix of it, and draining what the
prefix leaves together with the rest of the buffer gives the remaining values. -/
theorem Stable.drain_append (hs : d.Stable) {xs ys left : List β} {vals : List α}
    (h : d.drain (xs ++ ys) = .ok (vals, left)) :
    ∃ front mid back, d.drain xs = .ok (front, mid) ∧ d.drain (mid ++ ys) = .ok (back, left) ∧
      vals = front ++ back := by
  induction hn : xs.length using Nat.strong_induction_on generalizing xs vals with
  | _ n ih =>
    cases hp : d.pull xs with
    | error e => rw [drain_error (hs.error ys hp)] at h; cases h
    | ok o =>
      rcases o with _ | ⟨a, rest⟩
      · exact ⟨[], xs, vals, drain_none hp, h, rfl⟩
      · have hv := hs.value ys hp
        rcases drain_ok_cases h with ⟨hq, -, -⟩ | ⟨a', rest', more, hq, hr, rfl⟩
        · rw [hv] at hq; cases hq
        · rw [hv] at hq
          cases hq
          obtain ⟨front, mid, back, hf, hb, rfl⟩ := ih rest.length (hn ▸ d.shrinks hp) hr rfl
          exact ⟨a :: front, mid, back, drain_cons hp hf, hb, rfl⟩

/-- **Chunk independence.**  When the whole stream drains, feeding it in chunks returns the same
values in order and leaves the same bytes. -/
theorem Stable.feed_of_drain (hs : d.Stable) {cs : List (List β)} :
    ∀ {buf left : List β} {vals : List α}, d.pull buf = .ok none →
      d.drain (buf ++ cs.flatten) = .ok (vals, left) → d.feed buf cs = .ok (vals, left) := by
  induction cs with
  | nil =>
    intro buf left vals hb h
    rw [List.flatten_nil, List.append_nil, drain_none hb] at h
    simpa [feed] using h
  | cons c cs ih =>
    intro buf left vals _ h
    rw [List.flatten_cons, ← List.append_assoc] at h
    obtain ⟨front, mid, back, hf, hm, rfl⟩ := hs.drain_append h
    rw [feed, hf]
    simp only [ih (pull_left hf) hm]

/-! ### What the values account for -/

/-- If each pulled value accounts for the bytes used up, the values drained account for everything
but the bytes left. -/
theorem drain_accounts (enc : α → List β)
    (henc : ∀ {buf a rest}, d.pull buf = .ok (some (a, rest)) → buf = enc a ++ rest)
    {buf left : List β} {vals : List α} (h : d.drain buf = .ok (vals, left)) :
    buf = (vals.map enc).flatten ++ left := by
  induction hn : buf.length using Nat.strong_induction_on generalizing buf vals with
  | _ n ih =>
    rcases drain_ok_cases h with ⟨-, rfl, rfl⟩ | ⟨a, rest, more, hp, hr, rfl⟩
    · simp
    · have hb := ih rest.length (hn ▸ d.shrinks hp) hr rfl
      rw [henc hp]
      conv_lhs => rw [hb]
      simp

end Decoder

/-! ### Decoder objects -/

section Push

variable {σ : Type*} (push : σ → List β → Except ε (List α) × σ)

/-- The chunks of a stream are pushed one after another; the values are collected in order, and the
first error ends the run. -/
def pushAll : σ → List (List β) → Except ε (List α) × σ
  | s, [] => (.ok [], s)
  | s, c :: cs =>
    match push s c with
    | (.error e, s') => (.error e, s')
    | (.ok vals, s') =>
      match pushAll s' cs with
      | (.error e, s'') => (.error e, s'')
      | (.ok more, s'') => (.ok (vals ++ more), s'')

/-- `P` holds of the state and the chunk at every push of a run. -/
def Along (P : σ → List β → Prop) : σ → List (List β) → Prop
  | _, [] => True
  | s, c :: cs => P s c ∧ Along P (push s c).2 cs

variable {push} in
theorem Along.of_forall {P : σ → List β → Prop} (h : ∀ s c, P s c) (cs : List (List β)) :
    ∀ s, Along push P s cs := by
  induction cs with
  | nil => intro s; trivial
  | cons c cs ih => intro s; exact ⟨h s c, ih _⟩

variable {d : Decoder β ε α} (buf : σ → List β) (P : σ → List β → Prop)

/-- An object whose pushes drain its buffer runs as the decoder does. -/
theorem pushAll_of_feed
    (hstep : ∀ {s c vals left}, P s c → d.drain (buf s ++ c) = .ok (vals, left) →
      (push s c).1 = .ok vals ∧ buf (push s c).2 = left)
    {cs : List (List β)} : ∀ {s : σ} {left : List β} {vals : List α}, Along push P s cs →
      d.feed (buf s) cs = .ok (vals, left) →
      (pushAll push s cs).1 = .ok vals ∧ buf (pushAll push s cs).2 = left := by
  induction cs with
  | nil =>
    intro s left vals _ h
    cases h
    exact ⟨rfl, rfl⟩
  | cons c cs ih =>
    intro s left vals hP h
    rw [Decoder.feed] at h
    cases hd : d.drain (buf s ++ c) with
    | error e => simp [hd] at h
    | ok p =>
      obtain ⟨front, mid⟩ := p
      obtain ⟨h1, h2⟩ := hstep hP.1 hd
      simp only [hd] at h
      cases hf : d.feed mid cs with
      | error e => simp [hf] at h
      | ok q =>
        obtain ⟨back, left'⟩ := q
        simp only [hf, Except.ok.injEq, Prod.mk.injEq] at h
        obtain ⟨rfl, rfl⟩ := h
        obtain ⟨h3, h4⟩ := ih hP.2 (h2 ▸ hf)
        generalize hr : push s c = r at h1 h2 h3 h4
        obtain ⟨r1, r2⟩ := r
        generalize hq : pushAll push r2 cs = q at h3 h4
        obtain ⟨q1, q2⟩ := q
        simp only at h1 h3
        subst h1 h3
        exact ⟨by simp only [pushAll, hr, hq], by simpa only [pushAll, hr, hq] using h4⟩

end Push

end OpenfortivpnRs.Lib.Incremental
