import Mathlib.Tactic

/-!
# A queue whose writes may fail

What is read joins a queue, and chunks from its front are written to a sink that takes a part of them.
A write that fails for good loses its chunk, so what the sink takes later has a hole before it.  In a
history in which every such chunk was the end of all that was read, nothing is taken later
(`Runs.nothing_follows`).
-/

namespace OpenfortivpnRs.Lib.Channel

variable {β ε : Type*}

inductive Event (β ε : Type*)
  | read (values : List β)
  | write (chunk : List β) (result : Except ε ℕ)

/-- Everything that was read. -/
def read (history : List (Event β ε)) : List β :=
  history.flatMap fun
    | .read values => values
    | _ => []

/-- Everything the sink has taken. -/
def taken (history : List (Event β ε)) : List β :=
  history.flatMap fun
    | .write chunk (.ok n) => chunk.take n
    | _ => []

theorem read_append (h h' : List (Event β ε)) : read (h ++ h') = read h ++ read h' := by simp [read]

theorem taken_append (h h' : List (Event β ε)) : taken (h ++ h') = taken h ++ taken h' := by
  simp [taken]

section Simp

variable (values chunk : List β) (n : ℕ) (e : ε) (h : List (Event β ε))

@[simp] theorem read_nil : read ([] : List (Event β ε)) = [] := rfl

@[simp] theorem taken_nil : taken ([] : List (Event β ε)) = [] := rfl

@[simp] theorem read_read : read (.read values :: h) = values ++ read h := rfl

@[simp] theorem read_write (result : Except ε ℕ) : read (.write chunk result :: h) = read h := rfl

@[simp] theorem taken_read : taken (.read values :: h) = taken h := rfl

@[simp] theorem taken_ok : taken (.write chunk (.ok n) :: h) = chunk.take n ++ taken h := rfl

@[simp] theorem taken_error : taken (.write chunk (.error e) :: h) = taken h := rfl

end Simp

variable (hard : ε → Prop)

/-- What an event makes of the queue; a `hard` error loses the chunk. -/
inductive Step : List β → Event β ε → List β → Prop
  | read {queue} (values : List β) : Step queue (.read values) (queue ++ values)
  | wrote {chunk rest} {n : ℕ} : Step (chunk ++ rest) (.write chunk (.ok n)) (chunk.drop n ++ rest)
  | blocked {queue chunk e} (hsoft : ¬ hard e) : Step queue (.write chunk (.error e)) queue
  | failed {chunk rest e} (hhard : hard e) : Step (chunk ++ rest) (.write chunk (.error e)) rest

inductive Runs : List β → List (Event β ε) → List β → Prop
  | nil {queue} : Runs queue [] queue
  | cons {queue middle queue' e h} (hstep : Step hard queue e middle) (hruns : Runs middle h queue') :
      Runs queue (e :: h) queue'

/-- A write of the history has failed for good. -/
def Failed (history : List (Event β ε)) : Prop :=
  ∃ chunk e, .write chunk (.error e) ∈ history ∧ hard e

/-- Every chunk whose write failed for good was the end of all that was read. -/
def LastOnes (history : List (Event β ε)) : Prop :=
  ∀ before chunk e after, history = before ++ .write chunk (.error e) :: after → hard e →
    read history = taken before ++ chunk

/-- Behind a write that failed for good nothing is taken, and at every point what was taken is the front
of what was read. -/
structure NothingFollows (history : List (Event β ε)) : Prop where
  stops : ∀ before chunk e after, history = before ++ .write chunk (.error e) :: after → hard e →
    taken after = []
  front : ∀ before after, history = before ++ after → taken before <+: read before

variable {hard} {queue queue' : List β} {history history' : List (Event β ε)}

theorem Runs.append {middle : List β} (h : Runs hard queue history middle)
    (h' : Runs hard middle history' queue') : Runs hard queue (history ++ history') queue' := by
  induction h with
  | nil => exact h'
  | cons hstep _ ih => exact .cons hstep (ih h')

theorem Runs.snoc {middle : List β} {e : Event β ε} (h : Runs hard queue history middle)
    (hstep : Step hard middle e queue') : Runs hard queue (history ++ [e]) queue' :=
  h.append (.cons hstep .nil)

theorem Runs.split (h : Runs hard queue (history ++ history') queue') :
    ∃ middle, Runs hard queue history middle ∧ Runs hard middle history' queue' := by
  induction history generalizing queue with
  | nil => exact ⟨queue, .nil, h⟩
  | cons e history ih =>
    cases h with
    | cons hstep hruns =>
      obtain ⟨middle, h1, h2⟩ := ih hruns
      exact ⟨middle, .cons hstep h1, h2⟩

/-- Until a write fails, what was queued and read is what was taken and is queued. -/
theorem Runs.intact (h : Runs hard queue history queue') (hno : ¬ Failed hard history) :
    queue ++ read history = taken history ++ queue' := by
  induction h with
  | nil => simp
  | @cons queue middle queue' e history hstep _ ih =>
    have ih := ih fun ⟨chunk, e', hmem, hhard⟩ => hno ⟨chunk, e', List.mem_cons_of_mem _ hmem, hhard⟩
    cases hstep with
    | read values =>
      rw [read_read, taken_read, ← ih, List.append_assoc]
    | @wrote chunk rest n =>
      rw [read_write, taken_ok, List.append_assoc (chunk.take n), ← ih, ← List.append_assoc,
        ← List.append_assoc, List.take_append_drop]
    | blocked hsoft => exact ih
    | @failed chunk rest e hhard => exact absurd ⟨chunk, e, List.mem_cons_self, hhard⟩ hno

/-- Where nothing is queued and nothing is read, nothing is taken. -/
theorem Runs.quiet (h : Runs hard queue history queue') (hqueue : queue = [])
    (hread : read history = []) : taken history = [] := by
  induction h with
  | nil => rfl
  | @cons queue middle queue' e history hstep _ ih =>
    cases hstep with
    | read values =>
      rw [read_read, List.append_eq_nil_iff] at hread
      exact ih (by rw [hqueue, hread.1, List.append_nil]) hread.2
    | @wrote chunk rest n =>
      obtain ⟨rfl, rfl⟩ := List.append_eq_nil_iff.mp hqueue
      rw [taken_ok, List.take_nil, List.nil_append]
      exact ih (by simp) hread
    | blocked hsoft => exact ih hqueue hread
    | failed hhard => exact ih (List.append_eq_nil_iff.mp hqueue).2 hread

/-- A history with a failed write has a first one. -/
theorem Failed.first (h : Failed hard history) : ∃ before chunk e after,
    history = before ++ .write chunk (.error e) :: after ∧ hard e ∧ ¬ Failed hard before := by
  induction history with
  | nil =>
    obtain ⟨_, _, hmem, -⟩ := h
    cases hmem
  | cons event history ih =>
    by_cases hfirst : ∃ chunk e, event = .write chunk (.error e) ∧ hard e
    · obtain ⟨chunk, e, rfl, hhard⟩ := hfirst
      exact ⟨[], chunk, e, history, rfl, hhard, fun ⟨_, _, hmem, _⟩ => nomatch hmem⟩
    · have hrest : Failed hard history := by
        obtain ⟨chunk, e, hmem, hhard⟩ := h
        rcases List.mem_cons.mp hmem with heq | hmem
        · exact absurd ⟨chunk, e, heq.symm, hhard⟩ hfirst
        · exact ⟨chunk, e, hmem, hhard⟩
      obtain ⟨before, chunk, e, after, rfl, hhard, hno⟩ := ih hrest
      refine ⟨event :: before, chunk, e, after, rfl, hhard, ?_⟩
      rintro ⟨chunk', e', hmem, hhard'⟩
      rcases List.mem_cons.mp hmem with heq | hmem
      · exact hfirst ⟨chunk', e', heq.symm, hhard'⟩
      · exact hno ⟨chunk', e', hmem, hhard'⟩

/-- Behind the first write that fails nothing is taken. -/
theorem Runs.quiet_behind_first {before after : List (Event β ε)} {chunk : List β} {e : ε}
    (h : Runs hard [] (before ++ .write chunk (.error e) :: after) queue') (hhard : hard e)
    (hno : ¬ Failed hard before)
    (hlast : read (before ++ .write chunk (.error e) :: after) = taken before ++ chunk) :
    taken after = [] := by
  obtain ⟨middle, hbefore, hfrom⟩ := h.split
  have hintact := hbefore.intact hno
  cases hfrom with
  | @cons _ rest _ _ _ hstep hafter =>
    cases hstep with
    | blocked hsoft => exact absurd hhard hsoft
    | failed _ =>
      -- all that was read has gone into what was taken and the chunk
      rw [List.nil_append, ← List.append_assoc] at hintact
      have hall : read (before ++ .write chunk (.error e) :: after) =
          taken before ++ chunk ++ (rest ++ read after) := by
        rw [read_append, hintact, read_write, List.append_assoc _ rest]
      rw [hlast] at hall
      obtain ⟨hrest, hread⟩ := List.append_eq_nil_iff.mp (List.self_eq_append_right.mp hall)
      exact hafter.quiet hrest hread

/-- **Nothing follows a failed write** in a history in which every chunk that was lost was the last
one. -/
theorem Runs.nothing_follows (h : Runs hard [] history queue') (hlast : LastOnes hard history) :
    NothingFollows hard history := by
  have hbehind : ∀ before after, history = before ++ after → Failed hard before →
      ∃ front, ¬ Failed hard front ∧ (∃ back, before = front ++ back) ∧ taken before = taken front ∧
        taken after = [] := by
    rintro before after rfl hfailed
    obtain ⟨front, chunk, e, back, rfl, hhard, hno⟩ := hfailed.first
    rw [List.append_assoc, List.cons_append] at h hlast
    have hquiet := h.quiet_behind_first hhard hno (hlast front chunk e _ rfl hhard)
    rw [taken_append] at hquiet
    obtain ⟨hback, hafter⟩ := List.append_eq_nil_iff.mp hquiet
    refine ⟨front, hno, ⟨_, rfl⟩, ?_, hafter⟩
    rw [taken_append, taken_error, hback, List.append_nil]
  have hfront : ∀ before after, history = before ++ after → ¬ Failed hard before →
      taken before <+: read before := by
    rintro before after rfl hno
    obtain ⟨middle, hbefore, -⟩ := h.split
    exact ⟨middle, (hbefore.intact hno).symm⟩
  constructor
  · rintro before chunk e after hsplit hhard
    have hsplit' : history = (before ++ [.write chunk (.error e)]) ++ after := by
      rw [hsplit, List.append_assoc]
      rfl
    obtain ⟨-, -, -, -, hafter⟩ := hbehind _ after hsplit'
      ⟨chunk, e, List.mem_append_right _ List.mem_cons_self, hhard⟩
    exact hafter
  · intro before after hsplit
    by_cases hfailed : Failed hard before
    · obtain ⟨front, hno, ⟨back, rfl⟩, htaken, -⟩ := hbehind before after hsplit hfailed
      rw [htaken, read_append]
      rw [List.append_assoc] at hsplit
      exact (hfront front _ hsplit hno).trans (List.prefix_append _ _)
    · exact hfront before after hsplit hfailed

end OpenfortivpnRs.Lib.Channel
