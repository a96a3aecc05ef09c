import OpenfortivpnRs.Lib.Incremental

/-!
# What a stream delivers in chunks

A decoder that returns nothing when it meets an error loses the values it took off the same buffer
before.  `deliver` collects what the pushes of a run return up to the first error.  It is the same
for all cuts of a stream unless, somewhere, a value and an error behind it fit into one push
(`Collides`); then two cuts differ, and otherwise every cut delivers all values up to the error
(`deliver_same_iff`, `deliver_eq_takeAll`).
-/

namespace OpenfortivpnRs.Lib.Incremental

variable {β ε α σ : Type*}

namespace Decoder

variable (d : Decoder β ε α)

/-- The values of a run over chunks, up to the first error. -/
def deliver : List β → List (List β) → List α
  | _, [] => []
  | buf, c :: cs =>
    match d.drain (buf ++ c) with
    | .error _ => []
    | .ok (vals, left) => vals ++ deliver left cs

variable (fits : ℕ → Prop)

/-- Every push up to the first error works on a buffer of a length that fits. -/
def Within : List β → List (List β) → Prop
  | _, [] => True
  | buf, c :: cs => fits (buf ++ c).length ∧
    match d.drain (buf ++ c) with
    | .error _ => True
    | .ok (_, left) => Within left cs

/-- What can be left of a stream before a push: values were taken off, each from a front that fits. -/
inductive Receives (stream : List β) : List β → Prop
  | start : Receives stream stream
  | value {x y left : List β} {a : α} : Receives stream (x ++ y) → fits x.length →
      d.pull x = .ok (some (a, left)) → Receives stream (left ++ y)

/-- A front that fits holds a value and right behind it an error. -/
def Collides (stream : List β) : Prop :=
  ∃ x y a left e, d.Receives fits stream (x ++ y) ∧ fits x.length ∧
    d.pull x = .ok (some (a, left)) ∧ d.pull left = .error e

/-- Right after the first byte that completes a value, nothing more can be pulled. -/
structure Separate : Prop where
  empty : d.pull [] = .ok none
  last : ∀ {buf : List β} {b : β} {a : α} {left : List β}, d.pull buf = .ok none →
    d.pull (buf ++ [b]) = .ok (some (a, left)) → d.pull left = .ok none

variable {d fits}

/-! ### Fronts of a buffer -/

/-- **The shortest front that holds the value.**  Nothing more can be pulled behind it. -/
theorem shortest_prefix (hs : d.Stable) (hsep : d.Separate) {a : α} {ys : List β} :
    ∀ {buf rest : List β}, d.pull buf = .ok none → d.pull (buf ++ ys) = .ok (some (a, rest)) →
      ∃ front back left, ys = front ++ back ∧ d.pull (buf ++ front) = .ok (some (a, left)) ∧
        d.pull left = .ok none ∧ rest = left ++ back := by
  induction ys with
  | nil =>
    intro buf rest hbuf h
    rw [List.append_nil, hbuf] at h
    cases h
  | cons b ys ih =>
    intro buf rest hbuf h
    rw [← List.singleton_append, ← List.append_assoc] at h
    cases hp : d.pull (buf ++ [b]) with
    | error e =>
      rw [hs.error ys hp] at h
      cases h
    | ok o =>
      rcases o with _ | ⟨a', left⟩
      · obtain ⟨front, back, left, rfl, hf, hn, hrest⟩ := ih hp h
        exact ⟨b :: front, back, left, rfl, by simpa using hf, hn, hrest⟩
      · rw [hs.value ys hp] at h
        cases h
        exact ⟨[b], ys, left, rfl, hp, hsep.last hbuf hp, rfl⟩

/-- A front that drains leaves the values of the whole stream. -/
theorem takeAll_append (hs : d.Stable) {xs ys left : List β} {vals : List α}
    (h : d.drain xs = .ok (vals, left)) :
    (d.takeAll (xs ++ ys)).1 = vals ++ (d.takeAll (left ++ ys)).1 := by
  induction hn : xs.length using Nat.strong_induction_on generalizing xs vals with
  | _ n ih =>
    rcases drain_ok_cases h with ⟨-, rfl, rfl⟩ | ⟨a, rest, more, hp, hr, rfl⟩
    · rfl
    · rw [takeAll_some (hs.value ys hp), ih rest.length (hn ▸ d.shrinks hp) hr rfl]
      rfl

/-- Draining goes on where it stopped. -/
theorem drain_extend (hs : d.Stable) {xs ys mid left : List β} {front back : List α}
    (hx : d.drain xs = .ok (front, mid)) (hy : d.drain (mid ++ ys) = .ok (back, left)) :
    d.drain (xs ++ ys) = .ok (front ++ back, left) := by
  induction hn : xs.length using Nat.strong_induction_on generalizing xs front with
  | _ n ih =>
    rcases drain_ok_cases hx with ⟨-, rfl, rfl⟩ | ⟨a, rest, more, hp, hr, rfl⟩
    · exact hy
    · exact drain_cons (hs.value ys hp) (ih rest.length (hn ▸ d.shrinks hp) hr rfl)

/-- A stream that drains holds the values drained. -/
theorem takeAll_of_drain {xs left : List β} {vals : List α} (h : d.drain xs = .ok (vals, left)) :
    d.takeAll xs = (vals, .ok left) := by
  induction hn : xs.length using Nat.strong_induction_on generalizing xs vals with
  | _ n ih =>
    rcases drain_ok_cases h with ⟨hp, rfl, rfl⟩ | ⟨a, rest, more, hp, hr, rfl⟩
    · exact takeAll_none hp
    · rw [takeAll_some hp, ih rest.length (hn ▸ d.shrinks hp) hr rfl]

/-- What holds of every value that can be pulled holds of the values of a stream. -/
theorem forall_mem_takeAll {P : α → Prop}
    (hpull : ∀ {buf a rest}, d.pull buf = .ok (some (a, rest)) → P a) (xs : List β) :
    ∀ a ∈ (d.takeAll xs).1, P a := by
  induction hn : xs.length using Nat.strong_induction_on generalizing xs with
  | _ n ih =>
    cases hp : d.pull xs with
    | error e =>
      rw [takeAll_error hp]
      exact List.forall_mem_nil P
    | ok o =>
      rcases o with _ | ⟨a, rest⟩
      · rw [takeAll_none hp]
        exact List.forall_mem_nil P
      · rw [takeAll_some hp]
        exact List.forall_mem_cons.mpr ⟨hpull hp, ih rest.length (hn ▸ d.shrinks hp) rest rfl⟩

/-- A drain leaves no more than there was. -/
theorem left_length_le {xs left : List β} {vals : List α} (h : d.drain xs = .ok (vals, left)) :
    left.length ≤ xs.length := by
  induction hn : xs.length using Nat.strong_induction_on generalizing xs vals with
  | _ n ih =>
    rcases drain_ok_cases h with ⟨-, -, rfl⟩ | ⟨a, rest, more, hp, hr, rfl⟩
    · exact hn.le
    · have hlt := d.shrinks hp
      exact (ih rest.length (hn ▸ hlt) hr rfl).trans (hn ▸ hlt.le)

section Fitting

variable (hdown : ∀ {m n : ℕ}, m ≤ n → fits n → fits m)
include hdown

/-- A stream that fits as a whole fits in all cuts. -/
theorem within_of_fits (cs : List (List β)) :
    ∀ {buf : List β}, fits (buf ++ cs.flatten).length → d.Within fits buf cs := by
  induction cs with
  | nil => exact fun _ => trivial
  | cons c cs ih =>
    intro buf h
    rw [List.flatten_cons, ← List.append_assoc, List.length_append] at h
    refine ⟨hdown (by omega) h, ?_⟩
    cases hd : d.drain (buf ++ c) with
    | error e => trivial
    | ok p =>
      refine ih (hdown ?_ h)
      rw [List.length_append]
      have := left_length_le hd
      omega

/-- What a push leaves is received. -/
theorem Receives.drain {stream y left : List β} {vals : List α} {x : List β}
    (hr : d.Receives fits stream (x ++ y)) (hfit : fits x.length)
    (h : d.drain x = .ok (vals, left)) : d.Receives fits stream (left ++ y) := by
  induction hn : x.length using Nat.strong_induction_on generalizing x vals with
  | _ n ih =>
    rcases drain_ok_cases h with ⟨-, -, rfl⟩ | ⟨a, rest, more, hp, hrest, -⟩
    · exact hr
    · have hlt := d.shrinks hp
      exact ih rest.length (hn ▸ hlt) (hr.value hfit hp) (hdown hlt.le hfit) hrest rfl

/-- A push that fails after it has taken a value collides. -/
theorem collides_of_drain_error {stream y : List β} {e : ε} {x : List β}
    (hr : d.Receives fits stream (x ++ y)) (hfit : fits x.length) (h : d.drain x = .error e)
    (hvalue : ∃ a left, d.pull x = .ok (some (a, left))) : d.Collides fits stream := by
  induction hn : x.length using Nat.strong_induction_on generalizing x with
  | _ n ih =>
    obtain ⟨a, left, hp⟩ := hvalue
    have hlt := d.shrinks hp
    rw [drain_some hp] at h
    cases hleft : d.pull left with
    | error e' => exact ⟨x, y, a, left, e', hr, hfit, hp, hleft⟩
    | ok o =>
      rcases o with _ | ⟨b, more⟩
      · rw [drain_none hleft] at h
        cases h
      · cases hd : d.drain left with
        | error e' =>
          exact ih left.length (hn ▸ hlt) (hr.value hfit hp) (hdown hlt.le hfit)
            (by rw [hd] at h; cases h; exact hd) ⟨b, more, hleft⟩ rfl
        | ok p =>
          rw [hd] at h
          cases h

/-- **Without a collision every cut delivers everything** up to the first error. -/
theorem deliver_eq_takeAll (hs : d.Stable) {stream : List β} (hno : ¬ d.Collides fits stream)
    (cs : List (List β)) : ∀ {buf : List β}, d.pull buf = .ok none →
      d.Receives fits stream (buf ++ cs.flatten) → d.Within fits buf cs →
      d.deliver buf cs = (d.takeAll (buf ++ cs.flatten)).1 := by
  induction cs with
  | nil =>
    intro buf hbuf _ _
    rw [List.flatten_nil, List.append_nil, takeAll_none hbuf]
    rfl
  | cons c cs ih =>
    intro buf hbuf hr hw
    rw [List.flatten_cons, ← List.append_assoc] at hr ⊢
    obtain ⟨hfit, hrest⟩ := hw
    rw [deliver]
    cases hd : d.drain (buf ++ c) with
    | error e =>
      cases hp : d.pull (buf ++ c) with
      | error e' => rw [takeAll_error (hs.error _ hp)]
      | ok o =>
        rcases o with _ | ⟨a, left⟩
        · rw [drain_none hp] at hd
          cases hd
        · exact absurd (collides_of_drain_error hdown hr hfit hd ⟨a, left, hp⟩) hno
    | ok p =>
      obtain ⟨vals, left⟩ := p
      rw [hd] at hrest
      rw [takeAll_append hs hd]
      simp only
      rw [ih (pull_left hd) (Receives.drain hdown hr hfit hd) hrest]

/-! ### Two cuts -/

/-- What is received is what some pushes leave. -/
theorem Receives.run (hs : d.Stable) (hsep : d.Separate) {stream b : List β}
    (hr : d.Receives fits stream b) : ∃ pre buf rem vals, stream = pre.flatten ++ rem ∧
      b = buf ++ rem ∧ d.pull buf = .ok none ∧
      (∀ more, d.deliver [] (pre ++ more) = vals ++ d.deliver buf more) ∧
      ∀ more, d.Within fits buf more → d.Within fits [] (pre ++ more) := by
  induction hr with
  | start => exact ⟨[], [], stream, [], rfl, rfl, hsep.empty, fun _ => rfl, fun _ h => h⟩
  | @value x y left a _ hfit hp ih =>
    obtain ⟨pre, buf, rem, vals, hstream, hb, hbuf, hdeliver, hwithin⟩ := ih
    rcases List.append_eq_append_iff.mp hb with ⟨z, rfl, -⟩ | ⟨z, rfl, rfl⟩
    · -- the value would have been there before
      rw [hs.value z hp] at hbuf
      cases hbuf
    · obtain ⟨front, back, left', rfl, hfront, hnone, rfl⟩ := shortest_prefix hs hsep hbuf hp
      have hdrain : d.drain (buf ++ front) = .ok ([a], left') := drain_cons hfront (drain_none hnone)
      have hfits : fits (buf ++ front).length := by
        refine hdown ?_ hfit
        simp only [List.length_append]
        omega
      refine ⟨pre ++ [front], left', back ++ y, vals ++ [a], ?_, ?_, hnone, ?_, ?_⟩
      · rw [hstream]
        simp
      · rw [List.append_assoc]
      · intro more
        rw [List.append_assoc, hdeliver, List.singleton_append, deliver, hdrain, List.append_assoc]
      · intro more hmore
        rw [List.append_assoc]
        refine hwithin _ ⟨hfits, ?_⟩
        rw [hdrain]
        exact hmore

/-- **A collision shows.**  The front with the value and the error in one push delivers the value no
more; in two pushes it does. -/
theorem Collides.differ (hs : d.Stable) (hsep : d.Separate) {stream : List β}
    (h : d.Collides fits stream) : ∃ cs cs', cs.flatten = stream ∧ cs'.flatten = stream ∧
      d.Within fits [] cs ∧ d.Within fits [] cs' ∧ d.deliver [] cs ≠ d.deliver [] cs' := by
  obtain ⟨x, y, a, left, e, hr, hfit, hp, herror⟩ := h
  obtain ⟨pre, buf, rem, vals, hstream, hb, hbuf, hdeliver, hwithin⟩ := hr.run hdown hs hsep
  rcases List.append_eq_append_iff.mp hb with ⟨z, rfl, -⟩ | ⟨z, rfl, rfl⟩
  · rw [hs.value z hp] at hbuf
    cases hbuf
  · obtain ⟨front, back, left', rfl, hfront, hnone, rfl⟩ := shortest_prefix hs hsep hbuf hp
    have hone : d.drain (buf ++ (front ++ back)) = .error e := by
      rw [drain_some hp, drain_error herror]
    have hfirst : d.drain (buf ++ front) = .ok ([a], left') := drain_cons hfront (drain_none hnone)
    have hlen : (buf ++ front).length ≤ (buf ++ (front ++ back)).length ∧
        (left' ++ back).length ≤ (buf ++ (front ++ back)).length := by
      refine ⟨?_, (d.shrinks hp).le⟩
      simp only [List.length_append]
      omega
    refine ⟨pre ++ [front ++ back, y], pre ++ [front, back, y], ?_, ?_, hwithin _ ⟨hfit, ?_⟩,
      hwithin _ ⟨hdown hlen.1 hfit, ?_⟩, ?_⟩
    · rw [hstream]
      simp
    · rw [hstream]
      simp
    · rw [hone]
      trivial
    · rw [hfirst]
      refine ⟨hdown hlen.2 hfit, ?_⟩
      rw [drain_error herror]
      trivial
    · rw [hdeliver, hdeliver]
      simp only [deliver, hone, hfirst, drain_error herror]
      simp

/-- **When the cuts of a stream do not matter**: exactly when nothing collides in it. -/
theorem deliver_same_iff (hs : d.Stable) (hsep : d.Separate) (stream : List β) :
    (∀ cs cs', cs.flatten = stream → cs'.flatten = stream → d.Within fits [] cs →
      d.Within fits [] cs' → d.deliver [] cs = d.deliver [] cs') ↔ ¬ d.Collides fits stream := by
  constructor
  · intro h hcollides
    obtain ⟨cs, cs', h1, h2, h3, h4, hne⟩ := hcollides.differ hdown hs hsep
    exact hne (h cs cs' h1 h2 h3 h4)
  · rintro hno cs cs' rfl hflat hw hw'
    rw [deliver_eq_takeAll hdown hs hno cs hsep.empty .start hw,
      deliver_eq_takeAll hdown hs hno cs' hsep.empty (by rw [hflat]; exact .start) hw', hflat]

end Fitting

end Decoder

/-! ### Decoder objects -/

section Push

variable (push : σ → List β → Except ε (List α) × σ)

/-- The values that the pushes of a run return, up to the first error. -/
def delivered : σ → List (List β) → List α
  | _, [] => []
  | s, c :: cs =>
    match push s c with
    | (.error _, _) => []
    | (.ok vals, s') => vals ++ delivered s' cs

/-- `P` holds of the state and the chunk at every push up to the first error. -/
def UpToError (P : σ → List β → Prop) : σ → List (List β) → Prop
  | _, [] => True
  | s, c :: cs => P s c ∧
    match push s c with
    | (.error _, _) => True
    | (.ok _, s') => UpToError P s' cs

variable {push} {d : Decoder β ε α} {buf : σ → List β} {fits : ℕ → Prop}

/-- An object whose pushes drain its buffer, or fail where that fails, delivers what the decoder does
on cuts that fit. -/
theorem delivered_eq
    (hok : ∀ {s c vals left}, fits (buf s ++ c).length → d.drain (buf s ++ c) = .ok (vals, left) →
      (push s c).1 = .ok vals ∧ buf (push s c).2 = left)
    (herror : ∀ {s c e}, fits (buf s ++ c).length → d.drain (buf s ++ c) = .error e →
      ∃ e', (push s c).1 = .error e')
    (cs : List (List β)) : ∀ s, (UpToError push (fun s c => fits (buf s ++ c).length) s cs ↔
        d.Within fits (buf s) cs) ∧
      (d.Within fits (buf s) cs → delivered push s cs = d.deliver (buf s) cs) := by
  induction cs with
  | nil => intro s; exact ⟨Iff.rfl, fun _ => rfl⟩
  | cons c cs ih =>
    intro s
    by_cases hfit : fits (buf s ++ c).length
    · rw [UpToError, Decoder.Within, delivered, Decoder.deliver]
      cases hd : d.drain (buf s ++ c) with
      | error e =>
        obtain ⟨e', he⟩ := herror hfit hd
        generalize push s c = r at he
        obtain ⟨r1, r2⟩ := r
        subst he
        exact ⟨Iff.rfl, fun _ => rfl⟩
      | ok p =>
        obtain ⟨vals, left⟩ := p
        obtain ⟨hvals, hleft⟩ := hok hfit hd
        generalize push s c = r at hvals hleft
        obtain ⟨r1, r2⟩ := r
        subst hvals hleft
        obtain ⟨hiff, heq⟩ := ih r2
        exact ⟨and_congr_right fun _ => hiff, fun h => congrArg (vals ++ ·) (heq h.2)⟩
    · exact ⟨iff_of_false (fun h => hfit h.1) (fun h => hfit h.1), fun h => absurd h.1 hfit⟩

end Push

end OpenfortivpnRs.Lib.Incremental
