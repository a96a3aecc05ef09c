import OpenfortivpnRs.Error
import OpenfortivpnRs.Text

/-!
# The host

What the network setup asks of the operating system, as functions on a state `σ` that may be
anything: each command and each file operation succeeds or fails as the host decides, and may change
the state either way.  A `Cmd` is a piece of the program that runs on a host.
-/

namespace OpenfortivpnRs.Net

/-- `std::process::Output`: whether the exit status is a success, what it displays, and what the
command wrote. -/
structure Output where
  success : Bool
  status : String
  stdout : List UInt8
  stderr : List UInt8
  deriving DecidableEq, Repr

/-- A child process, and whether its standard input was opened. -/
structure Child where
  id : ℕ
  stdin : Bool
  deriving DecidableEq, Repr

structure Host (σ : Type) where
  output (program : String) (args : List String) : σ → Except IoError Output × σ
  spawn (program : String) (args : List String) : σ → Except IoError Child × σ
  writeAll (child : Child) (bytes : List UInt8) : σ → Except IoError Unit × σ
  waitWithOutput (child : Child) : σ → Except IoError Output × σ
  read (path : String) : σ → Except IoError (List UInt8) × σ
  write (path : String) (contents : List UInt8) : σ → Except IoError Unit × σ
  pathExists (path : String) : σ → Bool × σ
  isFile (path : List UInt8) : σ → Bool × σ
  /-- The variable `PATH`. -/
  pathVar : σ → Option (List UInt8) × σ
  /-- `logger::warn`. -/
  warn (text : String) : σ → σ

/-- An error keeps the state it was met in. -/
abbrev Cmd (σ α : Type) : Type := EStateM OpenfortivpnError σ α

namespace Cmd

variable {σ α : Type}

/-- An operation of the host whose error `?` turns into an error of the program. -/
def io (op : σ → Except IoError α × σ) : Cmd σ α := fun s =>
  match op s with
  | (.ok a, s') => .ok a s'
  | (.error err, s') => .error (.io err) s'

def look (op : σ → α × σ) : Cmd σ α := fun s => .ok (op s).1 (op s).2

/-- The result of a command, as a value. -/
def attempt (c : Cmd σ α) : Cmd σ (Result α) := fun s =>
  match c s with
  | .ok a s' => .ok (.ok a) s'
  | .error err s' => .ok (.error err) s'

/-- A command that is attempted does not return from where it is called. -/
theorem attempt_ne_error (c : Cmd σ α) (s s' : σ) (err : OpenfortivpnError) :
    attempt c s ≠ .error err s' := by
  intro h
  unfold attempt at h
  split at h <;> cases h

end Cmd

end OpenfortivpnRs.Net
