import IndexBench.Command.Usage
import IndexBench.Script
import IndexBench.Settings

/-!
# Exits

How a command ends: with success, or with a complaint on standard error.

Main definitions:

- `Command.Fault` is what ends a command early, `Command.Exit` how it ends.
- `Command.Variables` are the variables of the environment; `Command.loadSettings` finds the
  settings file by them.
-/

namespace IndexBench
namespace Command

/-- What ends a command early. -/
inductive Fault where
  | usage (fault : UsageFault)
  | failed (failure : Failure)
  | console (cause : IoFault)
  | panicked (panic : Panic)
  deriving DecidableEq, Repr

/-- The complaint about a fault.  A panic is complained of with its wording alone. -/
def Fault.complaint : Fault → String
  | .usage fault => "error: " ++ fault.message
  | .failed failure => "error: " ++ failure.message
  | .console cause => "error: " ++ cause.message
  | .panicked panic => panic.message

/-- The exit status for a fault: bad arguments have one of their own, and so have panics. -/
def Fault.status : Fault → Nat
  | .usage _ => 2
  | .failed _ => 1
  | .console _ => 1
  | .panicked _ => 101

/-- How a command ends. -/
structure Exit where
  status : Nat
  /-- The line on standard error, if there is one. -/
  complaint : Option String
  deriving DecidableEq, Repr

/-- How a command ends by its outcome. -/
def Exit.ofOutcome : Except Fault Unit → Exit
  | .ok () => ⟨0, none⟩
  | .error fault => ⟨fault.status, some fault.complaint⟩

/-- A command, which a fault can end. -/
abbrev Run (α : Type) : Type := ExceptT Fault Script α

namespace Run

/-- Ends a command with a failure, if there is one. -/
def ofExcept {α : Type} : Except Failure α → Run α
  | .ok value => pure value
  | .error failure => throw (.failed failure)

/-- Runs a script whose failure ends the command. -/
def ofScript {α : Type} (script : Script (Except Failure α)) : Run α := do
  ofExcept (← script)

/-- Runs what can panic.  A panic ends the command, whatever was to be done with an outcome. -/
def unwinding {α : Type} (script : ExceptT Panic Fallible α) : Run (Except Failure α) := do
  match ← (script.run.run : Script (Except Failure (Except Panic α))) with
  | .ok (.ok value) => return .ok value
  | .ok (.error panic) => throw (.panicked panic)
  | .error failure => return .error failure

/-- Writes to the console. -/
def print (text : String) : Run Unit := do
  match ← (Script.write text : Script (Except IoFault Unit)) with
  | .ok () => pure ()
  | .error cause => throw (.console cause)

end Run

/-! ## Variables -/

/-- The variables of the environment. -/
abbrev Variables : Type := String → Option String

/-- A name inside a directory. -/
def join (directory name : String) : String :=
  if directory.toList.getLast? = some '/' then directory ++ name else directory ++ "/" ++ name

/-- The directory of the settings of all programs. -/
def settingsHome? (environment : Variables) : Option String :=
  match (environment "XDG_CONFIG_HOME").filter fun path => path.toList.head? == some '/' with
  | some path => some path
  | none =>
      ((environment "HOME").filter fun path => !path.isEmpty).map fun home => join home ".config"

/-- The usual settings file. -/
def usualSettings? (environment : Variables) : Option String :=
  (settingsHome? environment).map fun home => join (join home "pathbench") "config.toml"

/-- Looks at a file, if one is named. -/
def inspect? : Option String → Script (Option (String × FileState))
  | none => return none
  | some path => do
      let file ← Script.perform (.inspect path)
      return some (path, file)

/-- Loads the settings from the file that is asked for, or from the usual one. -/
def loadSettings (environment : Variables) (asked : Option String) : Run Settings := do
  let asked ← (inspect? asked : Script _)
  let usual ← (inspect? (if asked.isSome then none else usualSettings? environment) : Script _)
  match Settings.load asked usual with
  | .ok settings => return settings
  | .error fault => throw (.failed (.settings fault))

end Command
end IndexBench
