import OpenfortivpnRs.Lib.Protocol
import OpenfortivpnRs.Pinentry

/-!
# The dialogue with pinentry (`read_password` of `pinentry.rs`)

Pinentry is a process that is told line by line what to ask the user for.  The lines are said in order,
each behind an answer to the one before, and the process is waited for however the dialogue ends
(`dialogue_in_order`); a pinentry that decodes what it is told and encodes what the user types gets the
texts as they are and gives back what was typed (`secret_read_back`).
-/

namespace OpenfortivpnRs.Pinentry

open Lib Text Http

/-- What `Child::wait` gives. -/
structure ExitStatus where
  success : Bool
  text : String
  deriving DecidableEq, Repr

/-- The system with a pinentry program on it. -/
structure Agent (σ : Type) where
  /-- The error is what the program and the error of `spawn` are displayed as. -/
  spawn (program : String) : σ → Except String Unit × σ
  writeAll (bytes : List UInt8) : σ → Except IoError Unit × σ
  flush : σ → Except IoError Unit × σ
  /-- What `fill_buf` gives from now on, as far as an answer is read. -/
  output : σ → List (Except IoError (List UInt8)) × σ
  kill : σ → Except IoError Unit × σ
  wait : σ → Except IoError ExitStatus × σ

/-- An entry of the record of a dialogue. -/
inductive Event where
  | spawn (program : String) (result : Except String Unit)
  | say (command : String) (result : Except IoError Unit)
  | hear (answer : Result (Option String))
  | kill (result : Except IoError Unit)
  | wait (result : Except IoError ExitStatus)
  deriving DecidableEq

abbrev Dialogue (σ α : Type) : Type := Recording OpenfortivpnError σ Event α

section ReadPassword

variable {σ : Type} (agent : Agent σ)

/-- A write and the flush behind it. -/
def say (command : String) : Dialogue σ Unit := do
  let write : σ → Except IoError Unit × σ := fun s =>
    match agent.writeAll (asBytes command) s with
    | (.error err, s) => (.error err, s)
    | (.ok (), s) => agent.flush s
  match ← Recording.ask write (.say command) with
  | .error err => throw (.io err)
  | .ok () => pure ()

/-- `read_pinentry_response`; what is read beyond the answer stays in the buffer. -/
def hear (stdout : Reader) : Dialogue σ (Option String × Reader) := do
  let more ← Recording.look agent.output
  let (answer, stdout) := readPinentryResponse ⟨stdout.reads ++ more⟩
  Recording.mark (.hear answer)
  match answer with
  | .error err => throw err
  | .ok value => return (value, stdout)

def exchange (command : String) (stdout : Reader) : Dialogue σ (Option String × Reader) := do
  say agent command
  hear agent stdout

/-- `finish_child_with_error`. -/
def finishChildWithError (err : OpenfortivpnError) : Dialogue σ OpenfortivpnError := do
  let _ ← Recording.ask agent.kill .kill
  let _ ← Recording.ask agent.wait .wait
  return err

/-- A step whose error ends the process. -/
def orFinish {α : Type} (step : Dialogue σ α) : Dialogue σ α := do
  match ← Recording.attempt some step with
  | .ok a => pure a
  | .error err => throw (← finishChildWithError agent err)

def waitForChild : Dialogue σ Unit := do
  match ← Recording.ask agent.wait .wait with
  | .error err => throw (.io err)
  | .ok status =>
    if status.success then pure ()
    else throw (.auth ("pinentry exited with status " ++ status.text))

def readPassword (program hint prompt : String) : Dialogue σ String := do
  match ← Recording.ask (agent.spawn program) (.spawn program) with
  | .error err => throw (.auth ("failed to start pinentry program " ++ err))
  | .ok () => do
    let (_, stdout) ← orFinish agent (hear agent ⟨[]⟩)
    let (_, stdout) ← orFinish agent (exchange agent "SETTITLE VPN Password\n" stdout)
    let (_, stdout) ← orFinish agent (exchange agent "SETDESC VPN Requires a Password\n" stdout)
    let (_, stdout) ← orFinish agent (exchange agent ("SETKEYINFO " ++ uriEscape hint ++ "\n") stdout)
    let (_, stdout) ← orFinish agent (exchange agent ("SETPROMPT " ++ uriEscape prompt ++ "\n") stdout)
    let (value, _) ← orFinish agent (exchange agent "GETPIN\n" stdout)
    waitForChild agent
    return value.getD ""

end ReadPassword

/-- What is said, in order. -/
def commands (hint prompt : String) : List String :=
  ["SETTITLE VPN Password\n", "SETDESC VPN Requires a Password\n", "SETKEYINFO " ++ uriEscape hint ++ "\n",
    "SETPROMPT " ++ uriEscape prompt ++ "\n", "GETPIN\n"]

/-! ### The record of a dialogue -/

/-- A dialogue that has come as far as this: each command with the value of its answer. -/
def soFar (program : String) (greeting : Option String) (said : List (String × Option String)) : List Event :=
  .spawn program (.ok ()) :: .hear (.ok greeting) ::
    said.flatMap fun exchange => [.say exchange.1 (.ok ()), .hear (.ok exchange.2)]

theorem soFar_snoc (program : String) (greeting : Option String) (said : List (String × Option String))
    (command : String) (value : Option String) :
    soFar program greeting said ++ [.say command (.ok ()), .hear (.ok value)] =
      soFar program greeting (said ++ [(command, value)]) := by
  unfold soFar
  rw [List.flatMap_append, List.flatMap_singleton]
  rfl

/-- An exchange that ends with the error. -/
inductive Fails (command : String) : OpenfortivpnError → List Event → Prop
  | say (err : IoError) : Fails command (.io err) [.say command (.error err)]
  | hear (err : OpenfortivpnError) : Fails command err [.say command (.ok ()), .hear (.error err)]

/-- A dialogue about the commands that breaks off with the error. -/
inductive BreaksOff (program : String) (commands : List String) : OpenfortivpnError → List Event → Prop
  | greeting (err : OpenfortivpnError) : BreaksOff program commands err [.spawn program (.ok ()), .hear (.error err)]
  | command (greeting : Option String) (said : List (String × Option String)) {command : String}
    {rest : List String} {err : OpenfortivpnError} {entries : List Event}
    (hcommands : commands = said.map Prod.fst ++ command :: rest) (hfails : Fails command err entries) :
    BreaksOff program commands err (soFar program greeting said ++ entries)

section Leads

variable {σ : Type} {agent : Agent σ} {q : List Event}

theorem leads_say (command : String) :
    (Protocol.free Event).Leads (fun _ r => r = q ++ [.say command (.ok ())])
      (fun err r => ∃ e, err = .io e ∧ r = q ++ [.say command (.error e)]) q (say agent command) := by
  unfold say
  refine .bind (Q := fun result r => r = q ++ [.say command result]) (.ask fun result => ⟨_, rfl, rfl⟩) ?_
  rintro result _ rfl
  cases result with
  | ok u => exact .ret rfl
  | error err => exact .stop ⟨err, rfl, rfl⟩

theorem leads_hear (stdout : Reader) :
    (Protocol.free Event).Leads (fun a r => r = q ++ [.hear (.ok a.1)])
      (fun err r => r = q ++ [.hear (.error err)]) q (hear agent stdout) := by
  unfold hear
  refine .bind (Q := fun _ r => r = q) (.look fun _ => rfl) ?_
  rintro more q' rfl
  obtain ⟨answer, stdout'⟩ := readPinentryResponse ⟨stdout.reads ++ more⟩
  refine .bind (Q := fun _ r => r = q' ++ [.hear answer]) (.mark rfl rfl) ?_
  rintro _ _ rfl
  cases answer with
  | ok value => exact .ret rfl
  | error err => exact .stop rfl

theorem leads_exchange (command : String) (stdout : Reader) :
    (Protocol.free Event).Leads (fun a r => r = q ++ [.say command (.ok ()), .hear (.ok a.1)])
      (fun err r => ∃ entries, Fails command err entries ∧ r = q ++ entries) q
      (exchange agent command stdout) := by
  unfold exchange
  refine .bind ((leads_say command).conseq (fun _ _ h => h) ?_) ?_
  · rintro _ _ ⟨err, rfl, rfl⟩
    exact ⟨_, .say err, rfl⟩
  · rintro _ _ rfl
    refine (leads_hear stdout).conseq ?_ ?_
    · rintro a _ rfl
      exact List.append_assoc q _ _
    · rintro err _ rfl
      exact ⟨_, .hear err, List.append_assoc q _ _⟩

theorem leads_orFinish {α : Type} {Q : α → List Event → Prop} {E : OpenfortivpnError → List Event → Prop}
    {step : Dialogue σ α} (h : (Protocol.free Event).Leads Q E q step) :
    (Protocol.free Event).Leads Q
      (fun err r => ∃ before killed waited, E err before ∧ r = before ++ [.kill killed, .wait waited]) q
      (orFinish agent step) := by
  unfold orFinish
  refine .bind (Q := fun result r => match result with | .ok a => Q a r | .error err => E err r)
    (.attempt h (fun _ _ hq => hq) ?_ nofun) ?_
  · rintro err _ r ⟨⟩ hr
    exact hr
  · rintro (err | a) before hbefore
    · unfold finishChildWithError
      refine .bind (Q := fun err' r => err' = err ∧
        ∃ killed waited, r = before ++ [.kill killed, .wait waited]) ?_ ?_
      · refine .bind (Q := fun killed r => r = before ++ [.kill killed]) (.ask fun _ => ⟨_, rfl, rfl⟩) ?_
        rintro killed _ rfl
        refine .bind (Q := fun waited r => r = before ++ [.kill killed, .wait waited])
          (.ask fun _ => ⟨_, rfl, List.append_assoc before _ _⟩) ?_
        rintro waited _ rfl
        exact .ret ⟨rfl, killed, waited, rfl⟩
      · rintro _ _ ⟨rfl, killed, waited, rfl⟩
        exact .stop ⟨before, killed, waited, hbefore, rfl⟩
    · exact .ret hbefore

/-- How a dialogue goes wrong. -/
inductive Unsuccessful (program : String) (commands : List String) : OpenfortivpnError → List Event → Prop
  | notStarted (err : String) : Unsuccessful program commands
    (.auth ("failed to start pinentry program " ++ err)) [.spawn program (.error err)]
  | brokenOff (killed : Except IoError Unit) (waited : Except IoError ExitStatus) {err : OpenfortivpnError}
    {entries : List Event} (hentries : BreaksOff program commands err entries) :
    Unsuccessful program commands err (entries ++ [.kill killed, .wait waited])
  | notWaited (greeting : Option String) (said : List (String × Option String)) (err : IoError)
    (hsaid : said.map Prod.fst = commands) :
    Unsuccessful program commands (.io err) (soFar program greeting said ++ [.wait (.error err)])
  | exited (greeting : Option String) (said : List (String × Option String)) (status : ExitStatus)
    (hsaid : said.map Prod.fst = commands) (hstatus : status.success = false) :
    Unsuccessful program commands (.auth ("pinentry exited with status " ++ status.text))
      (soFar program greeting said ++ [.wait (.ok status)])

/-- A command of the dialogue is said behind those before it. -/
theorem leads_command {program command : String} {commands rest : List String} {greeting : Option String}
    {said : List (String × Option String)} (stdout : Reader)
    (hcommands : commands = said.map Prod.fst ++ command :: rest) :
    (Protocol.free Event).Leads (fun a r => r = soFar program greeting (said ++ [(command, a.1)]))
      (Unsuccessful program commands) (soFar program greeting said)
      (orFinish agent (exchange agent command stdout)) := by
  refine (leads_orFinish (leads_exchange command stdout)).conseq ?_ ?_
  · rintro a _ rfl
    exact soFar_snoc program greeting said command a.1
  · rintro err _ ⟨_, killed, waited, ⟨entries, hfails, rfl⟩, rfl⟩
    exact .brokenOff killed waited (.command greeting said hcommands hfails)

theorem leads_waitForChild {program : String} {greeting : Option String} {commands : List String}
    {said : List (String × Option String)} (hsaid : said.map Prod.fst = commands) :
    (Protocol.free Event).Leads (fun _ r => ∃ status : ExitStatus, status.success = true ∧
        r = soFar program greeting said ++ [.wait (.ok status)])
      (Unsuccessful program commands) (soFar program greeting said) (waitForChild agent) := by
  unfold waitForChild
  refine .bind (Q := fun waited r => r = soFar program greeting said ++ [.wait waited])
    (.ask fun _ => ⟨_, rfl, rfl⟩) ?_
  rintro waited _ rfl
  cases waited with
  | error err => exact .stop (.notWaited greeting said err hsaid)
  | ok status =>
    dsimp only
    split
    · rename_i hstatus
      exact .ret ⟨status, hstatus, rfl⟩
    · rename_i hstatus
      exact .stop (.exited greeting said status hsaid (Bool.eq_false_iff.mpr hstatus))

theorem leads_readPassword (program hint prompt : String) :
    (Protocol.free Event).Leads
      (fun password r => ∃ greeting said value status,
        (said ++ [("GETPIN\n", value)]).map Prod.fst = commands hint prompt ∧ status.success = true ∧
          password = value.getD "" ∧
          r = soFar program greeting (said ++ [("GETPIN\n", value)]) ++ [.wait (.ok status)])
      (Unsuccessful program (commands hint prompt)) [] (readPassword agent program hint prompt) := by
  unfold readPassword
  refine .bind (Q := fun result r => r = [.spawn program result]) (.ask fun _ => ⟨_, rfl, rfl⟩) ?_
  rintro (err | u) _ rfl
  · exact .stop (.notStarted err)
  refine .bind (Q := fun a r => r = soFar program a.1 [])
    ((leads_orFinish (leads_hear _)).conseq ?_ ?_) ?_
  · rintro a _ rfl
    rfl
  · rintro err _ ⟨_, killed, waited, rfl, rfl⟩
    exact .brokenOff killed waited (.greeting err)
  rintro ⟨greeting, stdout⟩ _ rfl
  refine .bind (leads_command stdout rfl) ?_
  rintro ⟨title, stdout⟩ _ rfl
  refine .bind (leads_command stdout rfl) ?_
  rintro ⟨description, stdout⟩ _ rfl
  refine .bind (leads_command stdout rfl) ?_
  rintro ⟨keyinfo, stdout⟩ _ rfl
  refine .bind (leads_command stdout rfl) ?_
  rintro ⟨prompted, stdout⟩ _ rfl
  refine .bind (leads_command stdout rfl) ?_
  rintro ⟨value, stdout⟩ _ rfl
  refine .bind (leads_waitForChild rfl) ?_
  rintro _ _ ⟨status, hstatus, rfl⟩
  exact .ret ⟨greeting, _, value, status, rfl, hstatus, rfl, rfl⟩

end Leads

/-- **The dialogue keeps its order.**  A password is returned when every command was said and answered in
order and pinentry has exited with success, and is what its last answer said.  Where a command is not taken
or not answered well, the error is that of the step that failed, nothing is said behind it, and pinentry
is killed and waited for. -/
theorem dialogue_in_order {σ : Type} (agent : Agent σ) (program hint prompt : String) (s : σ) :
    let run := readPassword agent program hint prompt ⟨s, []⟩
    (∀ password w, run = .ok password w → ∃ greeting said value status,
      (said ++ [("GETPIN\n", value)]).map Prod.fst = commands hint prompt ∧ status.success = true ∧
        password = value.getD "" ∧
        w.record = soFar program greeting (said ++ [("GETPIN\n", value)]) ++ [.wait (.ok status)]) ∧
      ∀ err w, run = .error err w → Unsuccessful program (commands hint prompt) err w.record := by
  intro run
  obtain ⟨record, hphase, hok, herror⟩ := Protocol.Leads.run (@leads_readPassword σ agent program hint prompt) s
  rw [Protocol.free_phase] at hphase
  cases hphase
  constructor
  · intro password w hrun
    have h := hok password w hrun
    rwa [show Recording.final (readPassword agent program hint prompt ⟨s, []⟩) = w from
      congrArg Recording.final hrun] at h
  · intro err w hrun
    have h := herror err w hrun
    rwa [show Recording.final (readPassword agent program hint prompt ⟨s, []⟩) = w from
      congrArg Recording.final hrun] at h

/-! ### Reading the secret back -/

/-- A pinentry by what it gives to read behind the lines it has heard so far. -/
def Agent.replying (reply : List (List UInt8) → List (Except IoError (List UInt8))) :
    Agent (List (List UInt8)) where
  spawn _ heard := (.ok (), heard)
  writeAll bytes heard := (.ok (), heard ++ [bytes])
  flush heard := (.ok (), heard)
  output heard := (reply heard, heard)
  kill heard := (.ok (), heard)
  wait heard := (.ok ⟨true, "exit status: 0"⟩, heard)

/-- The reads give the line, in whatever pieces, and nothing behind it. -/
structure Gives (reads : List (Except IoError (List UInt8))) (line : List Char) : Prop where
  opened : Reader.Open Interrupted ⟨reads⟩
  plain : ∀ c ∈ line, c ≠ '\r' ∧ c ≠ '\n'
  bytes : Reader.bytes ⟨reads⟩ = encode (line ++ ['\n'])

/-- Nothing waits in the buffer. -/
def Quiet (stdout : Reader) : Prop := stdout.Open Interrupted ∧ stdout.bytes = []

theorem readUntilNewline_open {reads : List (Except IoError (List UInt8))} {errors : IoError → Prop}
    (h : Reader.Open errors ⟨reads⟩) : Reader.Open errors ⟨(readUntilNewline reads).2⟩ := by
  induction reads with
  | nil => exact h
  | cons result reads ih =>
    have hreads : Reader.Open errors ⟨reads⟩ := fun r hr => h r (List.mem_cons_of_mem _ hr)
    cases result with
    | error err =>
      rw [readUntilNewline]
      split
      · exact ih hreads
      · exact hreads
    | ok available =>
      rw [readUntilNewline]
      split
      · rename_i newline rest _
        dsimp only
        split
        · exact hreads
        · rename_i hrest
          intro r hr
          rcases List.mem_cons.mp hr with rfl | hr
          · exact hrest
          · exact hreads r hr
      · split
        · exact hreads
        · exact ih hreads

theorem hear_reply {reply : List (List UInt8) → List (Except IoError (List UInt8))} {heard : List (List UInt8)}
    {line : List Char} {value : Option String} {stdout : Reader} (hquiet : Quiet stdout)
    (hreply : Gives (reply heard) line) (hvalue : parseAnswer (.ofList line) = .ok value) (record : List Event) :
    ∃ stdout' record', hear (.replying reply) stdout ⟨heard, record⟩ = .ok (value, stdout') ⟨heard, record'⟩ ∧
      Quiet stdout' := by
  have hopen : Reader.Open Interrupted ⟨stdout.reads ++ reply heard⟩ := by
    intro r hr
    rcases List.mem_append.mp hr with hr | hr
    · exact hquiet.1 r hr
    · exact hreply.opened r hr
  have hbytes : Reader.bytes ⟨stdout.reads ++ reply heard⟩ = encode (line ++ ['\n']) ++ [] := by
    have happend : Reader.bytes ⟨stdout.reads ++ reply heard⟩ = stdout.bytes ++ Reader.bytes ⟨reply heard⟩ :=
      List.flatMap_append
    rw [happend, hquiet.2, hreply.bytes, List.nil_append, List.append_nil]
  obtain ⟨stdout', hrun, hrest⟩ := readLine_line hopen (fun hmem => (hreply.plain _ hmem).2 rfl) hbytes
  have hpos : (encode (line ++ ['\n'])).length ≠ 0 := by
    rw [encode_append, List.length_append, show (encode ['\n']).length = 1 by decide]
    exact Nat.succ_ne_zero _
  have hanswer : readPinentryResponse ⟨stdout.reads ++ reply heard⟩ = (.ok value, stdout') := by
    unfold readPinentryResponse
    rw [hrun]
    simp only [if_neg hpos]
    rw [trimLineEnd_newline hreply.plain, hvalue]
  have hopen' : stdout'.Open Interrupted := by
    have hreads : stdout' = ⟨(readUntilNewline (stdout.reads ++ reply heard)).2⟩ := by
      have hsnd := congrArg Prod.snd hrun
      unfold readLine at hsnd
      simp only at hsnd
      split at hsnd
      · exact hsnd.symm
      · split at hsnd <;> exact hsnd.symm
    rw [hreads]
    exact readUntilNewline_open hopen
  refine ⟨stdout', record ++ [.hear (.ok value)], ?_, hopen', hrest⟩
  unfold hear
  rw [bind_ok (show Recording.look (Agent.replying reply).output ⟨heard, record⟩ =
    .ok (reply heard) ⟨heard, record⟩ from rfl)]
  simp only [hanswer]
  rfl

theorem orFinish_ok {σ α : Type} {agent : Agent σ} {step : Dialogue σ α} {w w' : Recorded σ Event} {a : α}
    (h : step w = .ok a w') : orFinish agent step w = .ok a w' := by
  have hattempt : Recording.attempt some step w = .ok (.ok a) w' := by
    unfold Recording.attempt
    rw [h]
  exact bind_ok hattempt

theorem exchange_reply {reply : List (List UInt8) → List (Except IoError (List UInt8))} {line : List Char}
    {value : Option String} {stdout : Reader} (heard : List (List UInt8)) (command : String) (hquiet : Quiet stdout) (hreply : Gives (reply (heard ++ [asBytes command])) line)
    (hvalue : parseAnswer (.ofList line) = .ok value) (record : List Event) :
    ∃ stdout' record', orFinish (.replying reply) (exchange (.replying reply) command stdout) ⟨heard, record⟩ =
      .ok (value, stdout') ⟨heard ++ [asBytes command], record'⟩ ∧ Quiet stdout' := by
  obtain ⟨stdout', record', hrun, hquiet'⟩ :=
    hear_reply hquiet hreply hvalue (record ++ [.say command (.ok ())])
  have hsay : say (.replying reply) command ⟨heard, record⟩ =
      .ok () ⟨heard ++ [asBytes command], record ++ [.say command (.ok ())]⟩ := rfl
  exact ⟨stdout', record', orFinish_ok ((bind_ok hsay).trans hrun), hquiet'⟩

/-- What is written for a text keeps to one line. -/
theorem plain_uriEscape (s : String) : ∀ c ∈ (uriEscape s).toList, c ≠ '\r' ∧ c ≠ '\n' := by
  have hescaped := urlEncode_escaped s
  rw [uriEscape_eq] at hescaped
  have hcr : '\r' ∉ (uriEscape s).toList :=
    not_mem_of_escaped (fun h => by revert h; decide) (by decide) (by decide) hescaped
  have hlf : '\n' ∉ (uriEscape s).toList :=
    not_mem_of_escaped (fun h => by revert h; decide) (by decide) (by decide) hescaped
  exact fun c hc => ⟨fun h => hcr (h ▸ hc), fun h => hlf (h ▸ hc)⟩

theorem uriUnescape_uriEscape (s : String) : uriUnescape (uriEscape s) = .ok s := by
  have hescaped := urlEncode_escaped s
  rw [uriEscape_eq] at hescaped
  have h := uriUnescape_escaped (hescaped.mono fun _ hc => ne_percent_of_unreserved hc)
  rwa [String.ofList_toList] at h

theorem commands_plain (hint prompt : String) : ∀ command ∈ commands hint prompt,
    ∃ line, command.toList = line ++ ['\n'] ∧ ∀ c ∈ line, c ≠ '\r' ∧ c ≠ '\n' := by
  have hfixed (line : List Char) (hline : ∀ c ∈ line, c ≠ '\r' ∧ c ≠ '\n') (text : String) :
      ∃ l, (.ofList line ++ uriEscape text ++ "\n" : String).toList = l ++ ['\n'] ∧
        ∀ c ∈ l, c ≠ '\r' ∧ c ≠ '\n' := by
    refine ⟨line ++ (uriEscape text).toList, by simp, fun c hc => ?_⟩
    rcases List.mem_append.mp hc with hc | hc
    · exact hline c hc
    · exact plain_uriEscape text c hc
  intro command hcommand
  simp only [commands, List.mem_cons, List.not_mem_nil, or_false] at hcommand
  rcases hcommand with rfl | rfl | rfl | rfl | rfl
  · exact ⟨"SETTITLE VPN Password".toList, by decide, by decide⟩
  · exact ⟨"SETDESC VPN Requires a Password".toList, by decide, by decide⟩
  · exact hfixed "SETKEYINFO ".toList (by decide) hint
  · exact hfixed "SETPROMPT ".toList (by decide) prompt
  · exact ⟨"GETPIN".toList, by decide, by decide⟩

/-- **What the user types is read back.**  A pinentry that answers each line in whatever pieces, and the last one
with the escaped text of what was typed, gives back what was typed; it has heard the commands, each on one
line, and decodes the hint and the prompt to what they were. -/
theorem secret_read_back {reply : List (List UInt8) → List (Except IoError (List UInt8))}
    (program hint prompt pin : String) {e : List Char} (he : Escaped KeptInLine pin.toList e)
    (hreply : ∀ k < 5, ∃ line value, parseAnswer (.ofList line) = .ok value ∧
      Gives (reply (((commands hint prompt).take k).map asBytes)) line)
    (hpin : Gives (reply ((commands hint prompt).map asBytes)) ("D ".toList ++ e)) :
    (∃ record, readPassword (.replying reply) program hint prompt ⟨[], []⟩ =
      .ok pin ⟨(commands hint prompt).map asBytes, record⟩) ∧
      (∀ command ∈ commands hint prompt, ∃ line, command.toList = line ++ ['\n'] ∧
        ∀ c ∈ line, c ≠ '\r' ∧ c ≠ '\n') ∧
      uriUnescape (uriEscape hint) = .ok hint ∧ uriUnescape (uriEscape prompt) = .ok prompt := by
  refine ⟨?_, commands_plain hint prompt, uriUnescape_uriEscape hint, uriUnescape_uriEscape prompt⟩
  have hvalue : parseAnswer (.ofList ("D ".toList ++ e)) = .ok (some pin) := by
    rw [parseAnswer_data, uriUnescape_escaped (he.mono fun _ h => h.1)]
    rfl
  let heard (k : ℕ) := ((commands hint prompt).take k).map asBytes
  have hempty : Quiet ⟨[]⟩ := ⟨nofun, rfl⟩
  have hspawn : (Recording.ask ((Agent.replying reply).spawn program) (Event.spawn program) : Dialogue _ _)
      ⟨[], []⟩ = .ok (.ok ()) ⟨[], [.spawn program (.ok ())]⟩ := rfl
  obtain ⟨_, _, hparse, hgives⟩ := hreply 0 (by decide)
  obtain ⟨stdout, record, hgreeting, hquiet⟩ := hear_reply hempty hgives hparse [.spawn program (.ok ())]
  obtain ⟨_, _, hparse, hgives⟩ := hreply 1 (by decide)
  obtain ⟨stdout₁, record₁, htitle, hquiet⟩ := exchange_reply (heard 0) _ hquiet hgives hparse record
  obtain ⟨_, _, hparse, hgives⟩ := hreply 2 (by decide)
  obtain ⟨stdout₂, record₂, hdescription, hquiet⟩ := exchange_reply (heard 1) _ hquiet hgives hparse record₁
  obtain ⟨_, _, hparse, hgives⟩ := hreply 3 (by decide)
  obtain ⟨stdout₃, record₃, hkeyinfo, hquiet⟩ := exchange_reply (heard 2) _ hquiet hgives hparse record₂
  obtain ⟨_, _, hparse, hgives⟩ := hreply 4 (by decide)
  obtain ⟨stdout₄, record₄, hprompt, hquiet⟩ := exchange_reply (heard 3) _ hquiet hgives hparse record₃
  obtain ⟨stdout₅, record₅, hgetpin, hquiet⟩ := exchange_reply (heard 4) _ hquiet hpin hvalue record₄
  exact ⟨_, (bind_ok hspawn).trans ((bind_ok (orFinish_ok hgreeting)).trans ((bind_ok htitle).trans
    ((bind_ok hdescription).trans ((bind_ok hkeyinfo).trans ((bind_ok hprompt).trans
      ((bind_ok hgetpin).trans rfl))))))⟩

/-- A pinentry that says `OK` until it has heard everything, and then what was typed, in two pieces. -/
def inPieces (heard : List (List UInt8)) : List (Except IoError (List UInt8)) :=
  if heard.length < 5 then [.ok (encode "OK\n".toList)]
  else [.ok (encode "D a%0".toList), .error ⟨.interrupted, "Interrupted system call (os error 4)"⟩,
    .ok (encode "A\n".toList)]

theorem secret_read_back_in_pieces :
    (∃ record, readPassword (.replying inPieces) "pinentry" "user__vpn.example_password" "VPN account password: "
        ⟨[], []⟩ =
      .ok "a\n" ⟨(commands "user__vpn.example_password" "VPN account password: ").map asBytes, record⟩) ∧
      (∀ command ∈ commands "user__vpn.example_password" "VPN account password: ",
        ∃ line, command.toList = line ++ ['\n'] ∧ ∀ c ∈ line, c ≠ '\r' ∧ c ≠ '\n') ∧
      uriUnescape (uriEscape "user__vpn.example_password") = .ok "user__vpn.example_password" ∧
      uriUnescape (uriEscape "VPN account password: ") = .ok "VPN account password: " := by
  have hescaped : Escaped KeptInLine "a\n".toList ('a' :: ("%0A".toList ++ [])) := by
    have hnewline : Codes (String.utf8EncodeChar '\n') "%0A".toList := by
      rw [show String.utf8EncodeChar '\n' = [0x0a] by decide, show "%0A".toList = ['%', '0', 'A'] by decide]
      exact .cons (by decide) (by decide) .nil
    rw [show "a\n".toList = ['a', '\n'] by decide]
    exact .keep ⟨by decide, by decide, by decide⟩ (.code hnewline .nil)
  refine secret_read_back "pinentry" _ _ "a\n" hescaped (fun k hk => ⟨"OK".toList, none, by decide, ?_⟩) ?_
  · have hlength : (((commands "user__vpn.example_password" "VPN account password: ").take k).map asBytes).length < 5 := by
      rw [List.length_map, List.length_take]
      omega
    rw [inPieces, if_pos hlength]
    exact ⟨fun r hr => by rw [List.mem_singleton.mp hr]; exact (by decide : encode "OK\n".toList ≠ []),
      by decide, by decide⟩
  · rw [inPieces, if_neg (by simp [commands])]
    refine ⟨?_, by decide, by decide⟩
    intro r hr
    simp only [List.mem_cons, List.not_mem_nil, or_false] at hr
    rcases hr with rfl | rfl | rfl
    · exact (by decide : encode "D a%0".toList ≠ [])
    · exact rfl
    · exact (by decide : encode "A\n".toList ≠ [])

end OpenfortivpnRs.Pinentry
