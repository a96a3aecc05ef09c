import OpenfortivpnRs.Lib.Triple

/-!
# Programs on the record

A program asks the world, and every answer is put on a record.  A protocol is an automaton on the
entries of a record: it says what may follow what.  A program keeps to a protocol when its record is a
word of it whatever the world answers; `Leads` says through which phases, with a rule for each way
programs are put together, and what the protocol rules out then stands in no record
(`phase_invariant`).
-/

namespace OpenfortivpnRs.Lib

variable {ε σ ω φ α β : Type}

/-- A world, and the record of what it was asked. -/
structure Recorded (σ ω : Type) where
  world : σ
  record : List ω

/-- A program whose dealings with the world are on the record. -/
abbrev Recording (ε σ ω α : Type) : Type := EStateM ε (Recorded σ ω) α

namespace Recording

/-- The world answers and changes. -/
def ask (answer : σ → α × σ) (entry : α → ω) : Recording ε σ ω α := fun w =>
  .ok (answer w.world).1 ⟨(answer w.world).2, w.record ++ [entry (answer w.world).1]⟩

/-- What is asked off the record. -/
def look (answer : σ → α × σ) : Recording ε σ ω α := fun w =>
  .ok (answer w.world).1 ⟨(answer w.world).2, w.record⟩

/-- A mark on the record. -/
def mark (entry : ω) : Recording ε σ ω Unit := fun w => .ok () ⟨w.world, w.record ++ [entry]⟩

/-- The errors that `pick` knows are handed on as values. -/
def attempt {ε' : Type} (pick : ε → Option ε') (c : Recording ε σ ω α) : Recording ε σ ω (Except ε' α) :=
  fun w =>
    match c w with
    | .ok a w => .ok (.ok a) w
    | .error err w =>
      match pick err with
      | some err => .ok (.error err) w
      | none => .error err w

/-- A program on a record of its own, whose errors and entries stand for others. -/
def within {ε' ω' : Type} (g : ε → ε') (f : ω → ω') (c : Recording ε σ ω α) : Recording ε' σ ω' α := fun w =>
  match c ⟨w.world, []⟩ with
  | .ok a w' => .ok a ⟨w'.world, w.record ++ w'.record.map f⟩
  | .error err w' => .error (g err) ⟨w'.world, w.record ++ w'.record.map f⟩

/-- Where a program ends, however it ends. -/
def final : EStateM.Result ε (Recorded σ ω) α → Recorded σ ω
  | .ok _ w => w
  | .error _ w => w

theorem final_within {ε' ω' : Type} (g : ε → ε') (f : ω → ω') (c : Recording ε σ ω α) (w : Recorded σ ω') :
    (final (within g f c w)).record = w.record ++ (final (c ⟨w.world, []⟩)).record.map f := by
  unfold within
  cases c ⟨w.world, []⟩ <;> rfl

end Recording

/-- An automaton on the entries of a record: the phase at the start and the phase behind an entry that
may follow. -/
structure Protocol (ω φ : Type) where
  start : φ
  next : φ → ω → Option φ

namespace Protocol

variable (p : Protocol ω φ)

/-- The phase some entries lead to from another, when each of them may follow. -/
def path (q : φ) (entries : List ω) : Option φ := entries.foldlM p.next q

/-- The phase a record leads to. -/
def phase (record : List ω) : Option φ := p.path p.start record

variable {p} {record : List ω} {e : ω} {q q' q'' : φ}

theorem path_nil (q : φ) : p.path q [] = some q := rfl

theorem path_cons (q : φ) (e : ω) (entries : List ω) :
    p.path q (e :: entries) = (p.next q e).bind fun q => p.path q entries := List.foldlM_cons

theorem path_one (h : p.next q e = some q') : p.path q [e] = some q' := by
  rw [path_cons, h]
  rfl

theorem path_append (q : φ) (entries entries' : List ω) :
    p.path q (entries ++ entries') = (p.path q entries).bind fun q => p.path q entries' :=
  List.foldlM_append

theorem path_trans {entries entries' : List ω} (h : p.path q entries = some q')
    (h' : p.path q' entries' = some q'') : p.path q (entries ++ entries') = some q'' := by
  rw [path_append, h]
  exact h'

/-- **Every entry of a record that keeps to the protocol could follow those before it.** -/
theorem follows {before after : List ω} (h : p.path q (before ++ e :: after) = some q') :
    ∃ q₁ q₂, p.path q before = some q₁ ∧ p.next q₁ e = some q₂ ∧ p.path q₂ after = some q' := by
  rw [path_append] at h
  obtain ⟨q₁, hq₁, h⟩ := Option.bind_eq_some_iff.mp h
  rw [path_cons] at h
  obtain ⟨q₂, hq₂, h⟩ := Option.bind_eq_some_iff.mp h
  exact ⟨q₁, q₂, hq₁, hq₂, h⟩

/-- What holds at the start and is kept by every entry that may follow holds of the record and the phase
it leads to. -/
theorem phase_invariant (Inv : List ω → φ → Prop) (hstart : Inv [] p.start)
    (hnext : ∀ record q e q', Inv record q → p.next q e = some q' → Inv (record ++ [e]) q') :
    ∀ record q, p.phase record = some q → Inv record q := by
  intro record
  induction record using List.reverseRecOn with
  | nil =>
    rintro q h
    cases h
    exact hstart
  | append_singleton record e ih =>
    intro q h
    obtain ⟨q₁, q₂, hq₁, hq₂, h⟩ := follows h
    cases h
    exact hnext record q₁ e q (ih q₁ hq₁) hq₂

variable (ω) in
/-- The protocol in which everything may follow; its phase is the record. -/
def free : Protocol ω (List ω) := ⟨[], fun q e => some (q ++ [e])⟩

theorem free_path (q entries : List ω) : (free ω).path q entries = some (q ++ entries) := by
  induction entries using List.reverseRecOn with
  | nil => exact congrArg some (List.append_nil q).symm
  | append_singleton entries e ih =>
    rw [← List.append_assoc]
    exact path_trans ih (path_one rfl)

theorem free_phase (record : List ω) : (free ω).phase record = some record := free_path [] record

/-! ### Programs that keep to a protocol -/

section Definitions

variable (p) (Q : α → φ → Prop) (E : ε → φ → Prop)

/-- A run from the phase `q`, with `before` on the record, has kept to the protocol: it has returned in a
phase `Q` allows or stopped in one `E` allows. -/
def Ends (q : φ) (before : List ω) : EStateM.Result ε (Recorded σ ω) α → Prop
  | .ok a w => ∃ entries q', w.record = before ++ entries ∧ p.path q entries = some q' ∧ Q a q'
  | .error err w => ∃ entries q', w.record = before ++ entries ∧ p.path q entries = some q' ∧ E err q'

/-- From the phase `q` the program keeps to the protocol, whatever the world answers. -/
def Leads (q : φ) (c : Recording ε σ ω α) : Prop := ∀ w, p.Ends Q E q w.record (c w)

end Definitions

namespace Leads

variable {Q Q' : α → φ → Prop} {E E' : ε → φ → Prop} {c : Recording ε σ ω α}

theorem ret {a : α} (h : Q a q) : p.Leads Q E q (pure a : Recording ε σ ω α) :=
  fun _ => ⟨[], q, (List.append_nil _).symm, rfl, h⟩

theorem stop {err : ε} (h : E err q) : p.Leads Q E q (throw err : Recording ε σ ω α) :=
  fun _ => ⟨[], q, (List.append_nil _).symm, rfl, h⟩

theorem bind {R : β → φ → Prop} {f : α → Recording ε σ ω β} (hc : p.Leads Q E q c)
    (hf : ∀ a q', Q a q' → p.Leads R E q' (f a)) : p.Leads R E q (c >>= f) := by
  intro w
  have hrun := hc w
  cases h : c w with
  | ok a w' =>
    rw [h] at hrun
    obtain ⟨entries, q', hrecord, hpath, hq'⟩ := hrun
    rw [bind_ok h]
    have hrest := hf a q' hq' w'
    cases hw : f a w' with
    | ok b w'' =>
      rw [hw] at hrest
      obtain ⟨entries', q'', hrecord', hpath', hq''⟩ := hrest
      exact ⟨entries ++ entries', q'', by rw [hrecord', hrecord, List.append_assoc], path_trans hpath hpath',
        hq''⟩
    | error err w'' =>
      rw [hw] at hrest
      obtain ⟨entries', q'', hrecord', hpath', hq''⟩ := hrest
      exact ⟨entries ++ entries', q'', by rw [hrecord', hrecord, List.append_assoc], path_trans hpath hpath',
        hq''⟩
  | error err w' =>
    rw [h] at hrun
    rw [bind_error h]
    exact hrun

theorem conseq (h : p.Leads Q E q c) (hQ : ∀ a q', Q a q' → Q' a q') (hE : ∀ err q', E err q' → E' err q') :
    p.Leads Q' E' q c := by
  intro w
  have hrun := h w
  cases hc : c w with
  | ok a w' =>
    rw [hc] at hrun
    obtain ⟨entries, q', hrecord, hpath, hq'⟩ := hrun
    exact ⟨entries, q', hrecord, hpath, hQ a q' hq'⟩
  | error err w' =>
    rw [hc] at hrun
    obtain ⟨entries, q', hrecord, hpath, hq'⟩ := hrun
    exact ⟨entries, q', hrecord, hpath, hE err q' hq'⟩

/-- What is known of the answers may be used. -/
theorem ask_of {answer : σ → α × σ} {entry : α → ω}
    (h : ∀ s, ∃ q', p.next q (entry (answer s).1) = some q' ∧ Q (answer s).1 q') :
    p.Leads Q E q (Recording.ask answer entry : Recording ε σ ω α) := by
  intro w
  obtain ⟨q', hnext, hq'⟩ := h w.world
  exact ⟨[_], q', rfl, path_one hnext, hq'⟩

theorem ask {answer : σ → α × σ} {entry : α → ω} (h : ∀ a, ∃ q', p.next q (entry a) = some q' ∧ Q a q') :
    p.Leads Q E q (Recording.ask answer entry : Recording ε σ ω α) :=
  ask_of fun s => h (answer s).1

theorem look {answer : σ → α × σ} (h : ∀ a, Q a q) :
    p.Leads Q E q (Recording.look answer : Recording ε σ ω α) :=
  fun w => ⟨[], q, (List.append_nil _).symm, rfl, h (answer w.world).1⟩

theorem mark {Q : Unit → φ → Prop} (hnext : p.next q e = some q') (h : Q () q') :
    p.Leads Q E q (Recording.mark e : Recording ε σ ω Unit) :=
  fun _ => ⟨[e], q', rfl, path_one hnext, h⟩

theorem attempt {ε' : Type} {pick : ε → Option ε'} {Q' : Except ε' α → φ → Prop} (h : p.Leads Q E q c)
    (hok : ∀ a q', Q a q' → Q' (.ok a) q')
    (hpick : ∀ err err' q', pick err = some err' → E err q' → Q' (.error err') q')
    (hrest : ∀ err q', pick err = none → E err q' → E' err q') :
    p.Leads Q' E' q (Recording.attempt pick c) := by
  intro w
  have hrun := h w
  unfold Recording.attempt
  cases hc : c w with
  | ok a w' =>
    rw [hc] at hrun
    obtain ⟨entries, q', hrecord, hpath, hq'⟩ := hrun
    exact ⟨entries, q', hrecord, hpath, hok a q' hq'⟩
  | error err w' =>
    rw [hc] at hrun
    obtain ⟨entries, q', hrecord, hpath, hq'⟩ := hrun
    simp only
    cases hpicked : pick err with
    | some err' => exact ⟨entries, q', hrecord, hpath, hpick err err' q' hpicked hq'⟩
    | none => exact ⟨entries, q', hrecord, hpath, hrest err q' hpicked hq'⟩

/-- A protocol is kept as a part of another. -/
theorem embed {ψ : Type} {p' : Protocol ω ψ} (f : φ → ψ)
    (hnext : ∀ q e q', p.next q e = some q' → p'.next (f q) e = some (f q')) (h : p.Leads Q E q c)
    {R : α → ψ → Prop} {F : ε → ψ → Prop} (hQ : ∀ a q', Q a q' → R a (f q'))
    (hE : ∀ err q', E err q' → F err (f q')) : p'.Leads R F (f q) c := by
  have hpath : ∀ entries q q', p.path q entries = some q' → p'.path (f q) entries = some (f q') := by
    intro entries
    induction entries with
    | nil =>
      rintro q q' hq
      cases hq
      rfl
    | cons e entries ih =>
      intro q q' hq
      rw [path_cons] at hq ⊢
      obtain ⟨q₁, hq₁, hq⟩ := Option.bind_eq_some_iff.mp hq
      rw [hnext q e q₁ hq₁]
      exact ih q₁ q' hq
  intro w
  have hrun := h w
  cases hc : c w with
  | ok a w' =>
    rw [hc] at hrun
    obtain ⟨entries, q', hrecord, hq, hq'⟩ := hrun
    exact ⟨entries, f q', hrecord, hpath _ _ _ hq, hQ a q' hq'⟩
  | error err w' =>
    rw [hc] at hrun
    obtain ⟨entries, q', hrecord, hq, hq'⟩ := hrun
    exact ⟨entries, f q', hrecord, hpath _ _ _ hq, hE err q' hq'⟩

/-- A program that has a record of its own, by what stands on it. -/
theorem within {ε' ω' ψ : Type} {p' : Protocol ω' ψ} {q : ψ} {g : ε → ε'} {f : ω → ω'}
    {Q : α → List ω → Prop} {E : ε → List ω → Prop} {R : α → ψ → Prop} {F : ε' → ψ → Prop}
    (h : (free ω).Leads Q E [] c)
    (hQ : ∀ a record, Q a record → ∃ q', p'.path q (record.map f) = some q' ∧ R a q')
    (hE : ∀ err record, E err record → ∃ q', p'.path q (record.map f) = some q' ∧ F (g err) q') :
    p'.Leads R F q (Recording.within g f c) := by
  intro w
  have hrun := h ⟨w.world, []⟩
  unfold Recording.within
  cases hc : c ⟨w.world, []⟩ with
  | ok a w' =>
    rw [hc] at hrun
    obtain ⟨record, _, hrecord, hpath, hq⟩ := hrun
    rw [free_path] at hpath
    cases hpath
    obtain ⟨q', hpath', hq'⟩ := hQ a _ hq
    exact ⟨_, q', rfl, by rw [hrecord]; exact hpath', hq'⟩
  | error err w' =>
    rw [hc] at hrun
    obtain ⟨record, _, hrecord, hpath, hq⟩ := hrun
    rw [free_path] at hpath
    cases hpath
    obtain ⟨q', hpath', hq'⟩ := hE err _ hq
    exact ⟨_, q', rfl, by rw [hrecord]; exact hpath', hq'⟩

/-- Where a run that starts with an empty record ends. -/
theorem run (h : p.Leads Q E p.start c) (s : σ) :
    ∃ q', p.phase (Recording.final (c ⟨s, []⟩)).record = some q' ∧
      (∀ a w, c ⟨s, []⟩ = .ok a w → Q a q') ∧ ∀ err w, c ⟨s, []⟩ = .error err w → E err q' := by
  have hrun := h ⟨s, []⟩
  cases hc : c ⟨s, []⟩ with
  | ok a w =>
    rw [hc] at hrun
    obtain ⟨entries, q', hrecord, hpath, hq'⟩ := hrun
    refine ⟨q', (congrArg p.phase hrecord).trans hpath, ?_, nofun⟩
    rintro a w h
    cases h
    exact hq'
  | error err w =>
    rw [hc] at hrun
    obtain ⟨entries, q', hrecord, hpath, hq'⟩ := hrun
    refine ⟨q', (congrArg p.phase hrecord).trans hpath, nofun, ?_⟩
    rintro err w h
    cases h
    exact hq'

end Leads

end Protocol

end OpenfortivpnRs.Lib
