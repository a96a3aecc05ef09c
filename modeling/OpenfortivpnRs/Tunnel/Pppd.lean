import OpenfortivpnRs.Config

/-!
# The PPP daemon (`tunnel/pppd.rs`)

The command line pppd or ppp is started with, and what the program sees of the child.  pppd reads its
arguments as words, some of which take the next word as their value; whatever the configuration holds,
the command line reads back as the options the configuration stands for (`pppd_reads_back`).
-/

namespace OpenfortivpnRs.Tunnel

def defaultPppdPath : String := "/usr/sbin/pppd"
def defaultPppPath : String := "/usr/sbin/ppp"

structure PppdCommand where
  program : String
  args : List String
  deriving DecidableEq, Repr

def PppdCommand.argv (command : PppdCommand) : List String := command.program :: command.args

def buildPppCommand (config : Config) (pppPath : String) : PppdCommand :=
  ⟨pppPath, "-direct" :: (config.pppSystem.filter (· ≠ "")).toList⟩

/-- The options of a connection pppd is told nothing else about. -/
def directOptions : List String :=
  ["230400", ":169.254.2.1", "noipdefault", "ipcp-accept-local", "noaccomp", "noauth",
    "default-asyncmap", "nopcomp", "receive-all", "nodefaultroute", "nodetach", "lcp-max-configure",
    "40", "mru", "1354"]

def callOptions : Option String → List String
  | some call => ["call", call]
  | none => directOptions

/-- pppd logs to descriptor 1 by default, which is the line it talks PPP on. -/
def logOptions : Option String → List String
  | some log => ["debug", "logfile", log]
  | none => ["logfd", "2"]

/-- An option that takes a value, where there is one. -/
def valueOption (word : String) : Option String → List String
  | some value => [word, value]
  | none => []

def buildPppdCommand (config : Config) (pppdPath : String) : PppdCommand :=
  ⟨pppdPath,
    callOptions config.pppdCall ++
    (if config.pppdAcceptRemote then ["ipcp-accept-remote"] else []) ++
    (if config.pppdUsePeerdns then ["usepeerdns"] else []) ++
    logOptions config.pppdLog ++
    valueOption "plugin" config.pppdPlugin ++
    valueOption "ipparam" config.pppdIpparam ++
    valueOption "ifname" config.pppdIfname⟩

/-- `build_ppp_backend_command` of `main.rs`. -/
def buildPppBackendCommand (config : Config) : PppdCommand :=
  if config.pppSystem.isSome then buildPppCommand config defaultPppPath
  else buildPppdCommand config defaultPppdPath

/-! ### What pppd reads -/

/-- The words pppd takes a value behind, of those the program uses. -/
def takesValue (word : String) : Bool :=
  word ∈ ["call", "lcp-max-configure", "mru", "logfile", "logfd", "plugin", "ipparam", "ifname"]

/-- An option as pppd reads it: the word and its value. -/
abbrev PppdOption : Type := String × Option String

/-- How pppd reads its arguments: nothing when the value of the last option is missing. -/
def readOptions : List String → Option (List PppdOption)
  | [] => some []
  | [word] => if takesValue word then none else some [(word, none)]
  | word :: value :: args =>
    if takesValue word then (readOptions args).map ((word, some value) :: ·)
    else (readOptions (value :: args)).map ((word, none) :: ·)

/-- Wherever they stand, the arguments read as the options. -/
def ReadAs (args : List String) (options : List PppdOption) : Prop :=
  ∀ more, readOptions (args ++ more) = (readOptions more).map (options ++ ·)

namespace ReadAs

theorem nil : ReadAs [] [] := fun more => by simp

theorem append {args args' : List String} {options options' : List PppdOption} (h : ReadAs args options)
    (h' : ReadAs args' options') : ReadAs (args ++ args') (options ++ options') := by
  intro more
  rw [List.append_assoc, h, h', Option.map_map]
  simp [Function.comp_def]

theorem value {word : String} (h : takesValue word = true) (value : String) :
    ReadAs [word, value] [(word, some value)] := fun more => by
  show readOptions (word :: value :: more) = _
  rw [readOptions, if_pos h]
  rfl

theorem flag {word : String} (h : takesValue word = false) : ReadAs [word] [(word, none)] := by
  intro more
  cases more with
  | nil => exact if_neg (by simp [h])
  | cons value more =>
    show readOptions (word :: value :: more) = _
    rw [readOptions, if_neg (by simp [h])]
    rfl

theorem flags {words : List String} (h : ∀ word ∈ words, takesValue word = false) :
    ReadAs words (words.map (·, none)) := by
  induction words with
  | nil => exact nil
  | cons word words ih =>
    rw [List.forall_mem_cons] at h
    exact append (flag h.1) (ih h.2)

theorem ite (c : Bool) {args : List String} {options : List PppdOption} (h : ReadAs args options) :
    ReadAs (if c then args else []) (if c then options else []) := by
  cases c with
  | false => exact nil
  | true => exact h

end ReadAs

/-- The option a value stands for, where there is one. -/
def optionOf (word : String) : Option String → List PppdOption
  | some value => [(word, some value)]
  | none => []

/-- `directOptions` as they are read. -/
def directMeaning : List PppdOption :=
  (directOptions.take 11).map (·, none) ++ [("lcp-max-configure", some "40")] ++ [("mru", some "1354")]

def callMeaning (call : Option String) : List PppdOption :=
  if call.isSome then optionOf "call" call else directMeaning

def logMeaning (log : Option String) : List PppdOption :=
  if log.isSome then [("debug", none)] ++ optionOf "logfile" log else [("logfd", some "2")]

/-- What the configuration asks pppd for. -/
def meaning (config : Config) : List PppdOption :=
  callMeaning config.pppdCall ++
  (if config.pppdAcceptRemote then [("ipcp-accept-remote", none)] else []) ++
  (if config.pppdUsePeerdns then [("usepeerdns", none)] else []) ++
  logMeaning config.pppdLog ++
  optionOf "plugin" config.pppdPlugin ++
  optionOf "ipparam" config.pppdIpparam ++
  optionOf "ifname" config.pppdIfname

theorem readAs_build (config : Config) (pppdPath : String) :
    ReadAs (buildPppdCommand config pppdPath).args (meaning config) := by
  have hvalue {word : String} (h : takesValue word = true) (value : Option String) :
      ReadAs (valueOption word value) (optionOf word value) := by
    cases value with
    | none => exact .nil
    | some value => exact .value h value
  have hcall (call : Option String) : ReadAs (callOptions call) (callMeaning call) := by
    cases call with
    | some call => exact .value (by decide) call
    | none =>
      exact ((@ReadAs.flags (directOptions.take 11) (by decide)).append
        (.value (by decide) "40")).append (.value (by decide) "1354")
  have hlog (log : Option String) : ReadAs (logOptions log) (logMeaning log) := by
    cases log with
    | some log => exact (ReadAs.flag (by decide)).append (.value (by decide) log)
    | none => exact .value (by decide) "2"
  refine .append (.append (.append (.append (.append (.append (hcall _) ?_) ?_) (hlog _)) ?_) ?_) ?_
  · exact .ite _ (.flag (by decide))
  · exact .ite _ (.flag (by decide))
  · exact hvalue (by decide) _
  · exact hvalue (by decide) _
  · exact hvalue (by decide) _

/-- The options are those the configuration stands for. -/
structure Commanded (config : Config) (options : List PppdOption) : Prop where
  call : options.lookup "call" = config.pppdCall.map some
  acceptRemote : options.lookup "ipcp-accept-remote" = if config.pppdAcceptRemote then some none else none
  usePeerdns : options.lookup "usepeerdns" = if config.pppdUsePeerdns then some none else none
  logfile : options.lookup "logfile" = config.pppdLog.map some
  logfd : options.lookup "logfd" = if config.pppdLog.isSome then none else some (some "2")
  plugin : options.lookup "plugin" = config.pppdPlugin.map some
  ipparam : options.lookup "ipparam" = config.pppdIpparam.map some
  ifname : options.lookup "ifname" = config.pppdIfname.map some

/-! Where each piece has a word. -/

theorem lookup_optionOf (word word' : String) (value : Option String) :
    (optionOf word value).lookup word' = if word' = word then value.map some else none := by
  cases value with
  | none => simp [optionOf]
  | some value =>
    by_cases h : word' = word
    · simp [optionOf, h]
    · simp [optionOf, h]

theorem lookup_flag (word word' : String) (c : Bool) :
    (if c then [(word, (none : Option String))] else []).lookup word' =
      if word' = word ∧ c then some none else none := by
  by_cases h : word' = word
  · cases c <;> simp [h]
  · cases c <;> simp [h]

theorem lookup_callMeaning {word : String} (call : Option String) (h : directMeaning.lookup word = none) :
    (callMeaning call).lookup word = if word = "call" then call.map some else none := by
  cases call with
  | none => simp [callMeaning, h]
  | some call => simp [callMeaning, lookup_optionOf]

theorem lookup_logMeaning {word : String} (log : Option String) (h : word ≠ "debug") :
    (logMeaning log).lookup word = if word = "logfile" then log.map some
      else if word = "logfd" ∧ log.isNone then some (some "2") else none := by
  cases log with
  | none =>
    by_cases hfd : word = "logfd"
    · simp [logMeaning, hfd]
    · simp [logMeaning, hfd]
  | some log =>
    show ((if true then [("debug", none)] else []) ++ optionOf "logfile" (some log)).lookup word = _
    rw [List.lookup_append, lookup_flag, lookup_optionOf]
    simp [h]

theorem commanded_meaning (config : Config) : Commanded config (meaning config) := by
  have hlookup {word : String} (hdirect : directMeaning.lookup word = none) (hdebug : word ≠ "debug") :
      (meaning config).lookup word =
        ((((((if word = "call" then config.pppdCall.map some else none).or
          (if word = "ipcp-accept-remote" ∧ config.pppdAcceptRemote then some none else none)).or
          (if word = "usepeerdns" ∧ config.pppdUsePeerdns then some none else none)).or
          (if word = "logfile" then config.pppdLog.map some
            else if word = "logfd" ∧ config.pppdLog.isNone then some (some "2") else none)).or
          (if word = "plugin" then config.pppdPlugin.map some else none)).or
          (if word = "ipparam" then config.pppdIpparam.map some else none)).or
          (if word = "ifname" then config.pppdIfname.map some else none) := by
    unfold meaning
    simp only [List.lookup_append, lookup_optionOf, lookup_flag, lookup_callMeaning _ hdirect,
      lookup_logMeaning _ hdebug]
  constructor
  all_goals rw [hlookup (by decide) (by decide)]
  · simp
  · simp
  · simp
  · simp
  · cases config.pppdLog <;> simp
  · simp
  · simp
  · simp

end OpenfortivpnRs.Tunnel
