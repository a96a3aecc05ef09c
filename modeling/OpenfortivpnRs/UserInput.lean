import OpenfortivpnRs.Pinentry.Dialogue

/-!
# Asking the user (`user_input.rs`)

A secret is asked for by a pinentry program where one is configured, and on the terminal where none is.
On the terminal its settings are put back before anything is made of what was read.
-/

namespace OpenfortivpnRs.UserInput

open Lib Text Pinentry

/-- The settings of a terminal. -/
structure Termios where
  echo : Bool
  rest : List ℕ
  deriving DecidableEq, Repr

structure Terminal (σ : Type) where
  /-- `print!` and the flush behind it. -/
  print (text : String) : σ → Except IoError Unit × σ
  tcgetattr : σ → Except String Termios × σ
  tcsetattr (settings : Termios) : σ → Except String Unit × σ
  readLine : σ → Except IoError String × σ

/-- An entry of the record of asking. -/
inductive Event where
  | print (text : String) (result : Except IoError Unit)
  | get (result : Except String Termios)
  | set (settings : Termios) (result : Except String Unit)
  | read (result : Except IoError String)
  | pinentry (event : Pinentry.Event)
  deriving DecidableEq

abbrev Asking (σ α : Type) : Type := Recording OpenfortivpnError σ Event α

def terminalError (text err : String) : OpenfortivpnError := .io ⟨.other, text ++ ": " ++ err⟩

section ReadSecret

variable {σ : Type} (terminal : Terminal σ) (agent : Agent σ)

def promptSecret (prompt : String) : Asking σ String := do
  match ← Recording.ask (terminal.print prompt) (.print prompt) with
  | .error err => throw (.io err)
  | .ok () =>
    match ← Recording.ask terminal.tcgetattr .get with
    | .error err => throw (terminalError "failed to read terminal settings" err)
    | .ok original => do
      let noEcho := { original with echo := false }
      match ← Recording.ask (terminal.tcsetattr noEcho) (.set noEcho) with
      | .error err => throw (terminalError "failed to disable terminal echo" err)
      | .ok () => do
        let readResult ← Recording.ask terminal.readLine .read
        let restoreResult ← Recording.ask (terminal.tcsetattr original) (.set original)
        let _ ← Recording.ask (terminal.print "\n") (.print "\n")
        match readResult, restoreResult with
        | .error err, _ => throw (.io err)
        | .ok _, .error err => throw (terminalError "failed to restore terminal echo" err)
        | .ok secret, .ok () => return .ofList (trimLineEnd secret.toList)

def readSecret (pinentryProgram : Option String) (hint prompt : String) : Asking σ String :=
  match pinentryProgram.filter (· ≠ "") with
  | some program => Recording.within id .pinentry (readPassword agent program hint prompt)
  | none => promptSecret terminal prompt

end ReadSecret

/-! ### How the terminal and pinentry are left -/

/-- A setting of the terminal, with what came of it. -/
def settingOf : Event → Option (Termios × Except String Unit)
  | .set settings result => some (settings, result)
  | _ => none

/-- The setting that was made last. -/
def lastSetting (record : List Event) : Option (Termios × Except String Unit) :=
  (record.filterMap settingOf).getLast?

def isSpawned : Event → Bool
  | .pinentry (.spawn _ (.ok ())) => true
  | _ => false

def isWaited : Event → Bool
  | .pinentry (.wait _) => true
  | _ => false

/-- A line is read while the terminal does not echo. -/
def ReadsUnheard (record : List Event) : Prop :=
  ∀ before result after, record = before ++ .read result :: after →
    ∃ original, .get (.ok original) ∈ before ∧
      lastSetting before = some ({ original with echo := false }, .ok ())

/-- Every pinentry that was started has been waited for. -/
def Reaped (record : List Event) : Prop := record.countP isSpawned = record.countP isWaited

/-- The settings were put back as they were found, or none was taken. -/
def PutBack (result : Except String Unit → Prop) (record : List Event) : Prop :=
  (∀ setting ∈ record.filterMap settingOf, setting.2 ≠ .ok ()) ∨
    ∃ original restored, .get (.ok original) ∈ record ∧ lastSetting record = some (original, restored) ∧
      result restored

section Leads

variable {σ : Type} {terminal : Terminal σ} {agent : Agent σ}

/-- What a secret on the terminal leaves on the record. -/
inductive Prompted (prompt : String) : Result String → List Event → Prop
  | notPrinted (err : IoError) : Prompted prompt (.error (.io err)) [.print prompt (.error err)]
  | notGot (err : String) : Prompted prompt (.error (terminalError "failed to read terminal settings" err))
    [.print prompt (.ok ()), .get (.error err)]
  | notSet (original : Termios) (err : String) :
    Prompted prompt (.error (terminalError "failed to disable terminal echo" err))
      [.print prompt (.ok ()), .get (.ok original), .set { original with echo := false } (.error err)]
  | read (original : Termios) (read : Except IoError String) (restored : Except String Unit)
    (printed : Except IoError Unit) {result : Result String}
    (hok : result.isOk = true → restored = .ok ()) :
    Prompted prompt result [.print prompt (.ok ()), .get (.ok original),
      .set { original with echo := false } (.ok ()), .read read, .set original restored, .print "\n" printed]

theorem leads_promptSecret (prompt : String) :
    (Protocol.free Event).Leads (fun secret r => Prompted prompt (.ok secret) r)
      (fun err r => Prompted prompt (.error err) r) [] (promptSecret terminal prompt) := by
  unfold promptSecret
  refine .bind (Q := fun result r => r = [.print prompt result]) (.ask fun _ => ⟨_, rfl, rfl⟩) ?_
  rintro (err | _) _ rfl
  · exact .stop (.notPrinted err)
  refine .bind (Q := fun result r => r = [.print prompt (.ok ()), .get result])
    (.ask fun _ => ⟨_, rfl, rfl⟩) ?_
  rintro (err | original) _ rfl
  · exact .stop (.notGot err)
  refine .bind (Q := fun result r => r = [.print prompt (.ok ()), .get (.ok original),
    .set { original with echo := false } result]) (.ask fun _ => ⟨_, rfl, rfl⟩) ?_
  rintro (err | _) _ rfl
  · exact .stop (.notSet original err)
  refine .bind (Q := fun read r => r = [.print prompt (.ok ()), .get (.ok original),
    .set { original with echo := false } (.ok ()), .read read]) (.ask fun _ => ⟨_, rfl, rfl⟩) ?_
  rintro read _ rfl
  refine .bind (Q := fun restored r => r = [.print prompt (.ok ()), .get (.ok original),
    .set { original with echo := false } (.ok ()), .read read, .set original restored])
    (.ask fun _ => ⟨_, rfl, rfl⟩) ?_
  rintro restored _ rfl
  refine .bind (Q := fun printed r => r = [.print prompt (.ok ()), .get (.ok original),
    .set { original with echo := false } (.ok ()), .read read, .set original restored, .print "\n" printed])
    (.ask fun _ => ⟨_, rfl, rfl⟩) ?_
  rintro printed _ rfl
  rcases read with err | secret
  · exact .stop (.read original _ restored printed nofun)
  · rcases restored with err | _
    · exact .stop (.read original _ _ printed nofun)
    · exact .ret (.read original _ _ printed fun _ => rfl)

theorem leads_readSecret (program : Option String) (hint prompt : String) :
    (Protocol.free Event).Leads
      (fun secret r => Prompted prompt (.ok secret) r ∨
        ∃ dialogue, r = dialogue.map .pinentry ∧ ∃ program greeting said status,
          dialogue = soFar program greeting said ++ [.wait (.ok status)])
      (fun err r => Prompted prompt (.error err) r ∨
        ∃ dialogue, r = dialogue.map .pinentry ∧ ∃ program, Unsuccessful program (commands hint prompt) err dialogue)
      [] (readSecret terminal agent program hint prompt) := by
  unfold readSecret
  split
  · rename_i program _
    refine .within (leads_readPassword program hint prompt) ?_ ?_
    · rintro password record ⟨greeting, said, value, status, -, -, -, rfl⟩
      exact ⟨_, Protocol.free_path _ _, .inr ⟨_, rfl, program, greeting, _, status, rfl⟩⟩
    · intro err record hrecord
      exact ⟨_, Protocol.free_path _ _, .inr ⟨record, rfl, program, hrecord⟩⟩
  · exact (leads_promptSecret prompt).conseq (fun _ _ h => .inl h) fun _ _ h => .inl h

end Leads

/-! ### What the record shows -/

/-- The only element of its kind stands at one place. -/
theorem split_at_only {α : Type} (p : α → Bool) (front back : List α) {before after : List α} {a b : α}
    (hfront : ∀ x ∈ front, p x = false) (hback : ∀ x ∈ back, p x = false) (hb : p b = true)
    (h : front ++ a :: back = before ++ b :: after) : before = front := by
  rcases List.append_eq_append_iff.mp h with ⟨more, rfl, hmore⟩ | ⟨more, rfl, hmore⟩
  · cases more with
    | nil => exact List.append_nil front
    | cons x more =>
      obtain ⟨-, rfl⟩ := List.cons.inj hmore
      have hnone := hback b (List.mem_append_right _ List.mem_cons_self)
      rw [hb] at hnone
      cases hnone
  · cases more with
    | nil => exact (List.append_nil before).symm
    | cons x more =>
      obtain ⟨rfl, -⟩ := List.cons.inj hmore
      have hnone := hfront b (List.mem_append_right _ List.mem_cons_self)
      rw [hb] at hnone
      cases hnone

def isRead : Event → Bool
  | .read _ => true
  | _ => false

theorem readsUnheard_of_none {record : List Event} (h : ∀ e ∈ record, isRead e = false) :
    ReadsUnheard record := by
  rintro before result after rfl
  exact nomatch h (.read result) (List.mem_append_right _ List.mem_cons_self)

theorem prompted_shows {prompt : String} {result : Result String} {record : List Event}
    (h : Prompted prompt result record) : ReadsUnheard record ∧ Reaped record ∧
      PutBack (fun restored => result.isOk = true → restored = .ok ()) record := by
  cases h with
  | notPrinted err =>
    exact ⟨readsUnheard_of_none (by simp [isRead]), rfl, .inl (by simp [settingOf])⟩
  | notGot err =>
    exact ⟨readsUnheard_of_none (by simp [isRead]), rfl, .inl (by simp [settingOf])⟩
  | notSet original err =>
    exact ⟨readsUnheard_of_none (by simp [isRead]), rfl, .inl (by simp [settingOf])⟩
  | read original read restored printed hok =>
    refine ⟨?_, rfl, .inr ⟨original, restored, by simp, rfl, hok⟩⟩
    intro before line after hsplit
    have hbefore := split_at_only isRead
      [.print prompt (.ok ()), .get (.ok original), .set { original with echo := false } (.ok ())]
      [.set original restored, .print "\n" printed] (by simp [isRead]) (by simp [isRead]) rfl hsplit
    rw [hbefore]
    exact ⟨original, by simp, rfl⟩

/-- An entry that neither starts pinentry nor waits for it. -/
def Between (e : Pinentry.Event) : Prop := isSpawned (.pinentry e) = false ∧ isWaited (.pinentry e) = false

/-- A dialogue from the start of pinentry on. -/
def Opened (program : String) (dialogue : List Pinentry.Event) : Prop :=
  ∃ rest, dialogue = .spawn program (.ok ()) :: rest ∧ ∀ e ∈ rest, Between e

theorem Opened.append {program : String} {dialogue entries : List Pinentry.Event} (h : Opened program dialogue)
    (hentries : ∀ e ∈ entries, Between e) : Opened program (dialogue ++ entries) := by
  obtain ⟨rest, rfl, hrest⟩ := h
  refine ⟨rest ++ entries, rfl, fun e he => ?_⟩
  rcases List.mem_append.mp he with he | he
  · exact hrest e he
  · exact hentries e he

theorem opened_soFar (program : String) (greeting : Option String) (said : List (String × Option String)) :
    Opened program (soFar program greeting said) := by
  refine ⟨_, rfl, fun e he => ?_⟩
  rcases List.mem_cons.mp he with rfl | he
  · exact ⟨rfl, rfl⟩
  · obtain ⟨exchange, -, hexchange⟩ := List.mem_flatMap.mp he
    simp only [List.mem_cons, List.not_mem_nil, or_false] at hexchange
    rcases hexchange with rfl | rfl <;> exact ⟨rfl, rfl⟩

theorem opened_breaksOff {program : String} {commands : List String} {err : OpenfortivpnError}
    {dialogue : List Pinentry.Event} (h : BreaksOff program commands err dialogue) : Opened program dialogue := by
  cases h with
  | greeting err => exact ⟨_, rfl, by simp [Between, isSpawned, isWaited]⟩
  | command greeting said _ hfails =>
    refine (opened_soFar program greeting said).append ?_
    cases hfails <;> simp [Between, isSpawned, isWaited]

theorem reaped_of_opened {program : String} {dialogue : List Pinentry.Event} (h : Opened program dialogue)
    (waited : Except IoError ExitStatus) :
    Reaped ((dialogue ++ [Pinentry.Event.wait waited]).map .pinentry) := by
  obtain ⟨rest, rfl, hrest⟩ := h
  have hnone (p : Event → Bool) (hp : ∀ e ∈ rest, p (.pinentry e) = false) :
      (rest.map Event.pinentry).countP p = 0 := by
    rw [List.countP_map, List.countP_eq_zero]
    exact fun e he => Bool.eq_false_iff.mp (hp e he)
  unfold Reaped
  rw [List.cons_append, List.map_cons, List.map_append, List.countP_cons, List.countP_cons, List.countP_append,
    List.countP_append, hnone isSpawned fun e he => (hrest e he).1, hnone isWaited fun e he => (hrest e he).2]
  rfl

theorem reaped_unsuccessful {program : String} {commands : List String} {err : OpenfortivpnError}
    {dialogue : List Pinentry.Event} (h : Unsuccessful program commands err dialogue) :
    Reaped (dialogue.map .pinentry) := by
  cases h with
  | notStarted err => rfl
  | brokenOff killed waited hentries =>
    have hkilled : ∀ e ∈ [Pinentry.Event.kill killed], Between e := by simp [Between, isSpawned, isWaited]
    have h := reaped_of_opened ((opened_breaksOff hentries).append hkilled) waited
    rwa [List.append_assoc] at h
  | notWaited greeting said err _ => exact reaped_of_opened (opened_soFar ..) _
  | exited greeting said status _ _ => exact reaped_of_opened (opened_soFar ..) _

theorem dialogue_shows (dialogue : List Pinentry.Event) (restored : Except String Unit → Prop) :
    ReadsUnheard (dialogue.map .pinentry) ∧ PutBack restored (dialogue.map .pinentry) := by
  have hentries (e : Event) (he : e ∈ dialogue.map Event.pinentry) : ∃ event, e = .pinentry event := by
    obtain ⟨event, -, rfl⟩ := List.mem_map.mp he
    exact ⟨event, rfl⟩
  constructor
  · refine readsUnheard_of_none fun e he => ?_
    obtain ⟨event, rfl⟩ := hentries e he
    rfl
  · refine .inl fun setting hsetting => ?_
    obtain ⟨e, he, hset⟩ := List.mem_filterMap.mp hsetting
    obtain ⟨event, rfl⟩ := hentries e he
    cases hset

/-- A record of asking that has come to its end, with or without a secret. -/
structure Safe (asked : Bool) (record : List Event) : Prop where
  reads : ReadsUnheard record
  reaped : Reaped record
  putBack : PutBack (fun restored => asked = true → restored = .ok ()) record

theorem leads_safe {σ : Type} {terminal : Terminal σ} {agent : Agent σ} (program : Option String)
    (hint prompt : String) :
    (Protocol.free Event).Leads (fun _ r => Safe true r) (fun _ r => Safe false r) []
      (readSecret terminal agent program hint prompt) := by
  refine (leads_readSecret program hint prompt).conseq ?_ ?_
  · rintro secret r (hprompted | ⟨_, rfl, program, greeting, said, status, rfl⟩)
    · obtain ⟨hreads, hreaped, hputs⟩ := prompted_shows hprompted
      exact ⟨hreads, hreaped, hputs⟩
    · obtain ⟨hreads, hputs⟩ := dialogue_shows (soFar program greeting said ++ [.wait (.ok status)]) _
      exact ⟨hreads, reaped_of_opened (opened_soFar ..) _, hputs⟩
  · rintro err r (hprompted | ⟨dialogue, rfl, program, hunsuccessful⟩)
    · obtain ⟨hreads, hreaped, hputs⟩ := prompted_shows hprompted
      exact ⟨hreads, hreaped, hputs⟩
    · obtain ⟨hreads, hputs⟩ := dialogue_shows dialogue _
      exact ⟨hreads, reaped_unsuccessful hunsuccessful, hputs⟩

/-- **A secret is asked for safely.**  Whatever the terminal, the user and pinentry do: a line is read only
while the terminal does not echo; its settings are put back, and this has worked when a secret is returned;
and a pinentry that was started has been waited for. -/
theorem secret_asked_safely {σ : Type} (terminal : Terminal σ) (agent : Agent σ) (program : Option String)
    (hint prompt : String) (s : σ) :
    let run := readSecret terminal agent program hint prompt ⟨s, []⟩
    let record := (Recording.final run).record
    ReadsUnheard record ∧ Reaped record ∧
      PutBack (fun restored => (∃ secret w, run = .ok secret w) → restored = .ok ()) record := by
  intro run record
  obtain ⟨r, hphase, hok, herror⟩ := Protocol.Leads.run (@leads_safe σ terminal agent program hint prompt) s
  rw [Protocol.free_phase] at hphase
  cases hphase
  cases hrun : readSecret terminal agent program hint prompt ⟨s, []⟩ with
  | ok secret w =>
    obtain ⟨hreads, hreaped, hnone | ⟨original, restored, hget, hlast, hrestored⟩⟩ := hok secret w hrun
    · exact ⟨hreads, hreaped, .inl hnone⟩
    · exact ⟨hreads, hreaped, .inr ⟨original, restored, hget, hlast, fun _ => hrestored rfl⟩⟩
  | error err w =>
    obtain ⟨hreads, hreaped, hnone | ⟨original, restored, hget, hlast, -⟩⟩ := herror err w hrun
    · exact ⟨hreads, hreaped, .inl hnone⟩
    · refine ⟨hreads, hreaped, .inr ⟨original, restored, hget, hlast, ?_⟩⟩
      rintro ⟨secret, w', hok⟩
      cases hrun.symm.trans hok

end OpenfortivpnRs.UserInput
