import IndexBench.Address
import IndexBench.Event
import IndexBench.FileState

/-!
# Scripts

What a program does to the outside is data: a script performs one action after
another, each chosen by the answers to those before.

Main definitions:

- `Action` is what a script can do, `Action.Answer` the type of an answer.
- `Script` is a program; it is a lawful monad.
- `Script.foldM` performs a script in another monad.
-/

namespace IndexBench

/-! ## Actions -/

/-- Something that a script does to the outside. -/
inductive Action where
  /-- Sends a request to the engine. -/
  | call (request : Request)
  /-- Sends a request to the engine and takes the time. -/
  | measure (request : Request)
  /-- Writes to the console. -/
  | write (text : String)
  /-- Notes an event. -/
  | note (event : Event)
  /-- Connects to a database. -/
  | connect (address : Address)
  /-- Reads a file. -/
  | inspect (path : String)
  /-- Writes a file. -/
  | save (path : String) (bytes : List UInt8)

/-- What an action answers. -/
abbrev Action.Answer : Action → Type
  | .call request => Except Failure request.Reply
  | .measure request => Except Failure (request.Reply × Nat)
  | .write _ => Except IoFault Unit
  | .note _ => Unit
  | .connect _ => Except Failure Unit
  | .inspect _ => FileState
  | .save _ _ => Except IoFault Unit

/-- A program: a value, or an action and how to go on with its answer. -/
inductive Script (α : Type) where
  | done (value : α)
  | step (action : Action) (next : action.Answer → Script α)

namespace Script

/-- Runs a second script with the value of a first. -/
def bind {α β : Type} : Script α → (α → Script β) → Script β
  | done value, f => f value
  | step action next, f => step action fun answer => (next answer).bind f

instance : Monad Script where
  pure := done
  bind := bind

/-- Going on with the value alone changes nothing. -/
theorem bind_done {α : Type} (script : Script α) : script.bind done = script := by
  induction script with
  | done value => rfl
  | step action next ih => exact congrArg (step action) (funext ih)

/-- It does not matter how scripts in a row are grouped. -/
theorem bind_assoc {α β γ : Type} (script : Script α) (f : α → Script β) (g : β → Script γ) :
    (script.bind f).bind g = script.bind fun value => (f value).bind g := by
  induction script with
  | done value => rfl
  | step action next ih => exact congrArg (step action) (funext ih)

instance : LawfulMonad Script :=
  LawfulMonad.mk' _ bind_done (fun _ _ => rfl) bind_assoc

/-- The script of one action. -/
def perform (action : Action) : Script action.Answer :=
  step action done

/-- Sends a request to the engine. -/
def call (request : Request) : Script (Except Failure request.Reply) :=
  perform (.call request)

/-- Sends a request to the engine and takes the time. -/
def measure (request : Request) : Script (Except Failure (request.Reply × Nat)) :=
  perform (.measure request)

/-- Writes to the console. -/
def write (text : String) : Script (Except IoFault Unit) :=
  perform (.write text)

/-- Notes an event. -/
def note (event : Event) : Script Unit :=
  perform (.note event)

/-- Sends a request whose failure is noted and does not matter otherwise. -/
def attempt (purpose : Purpose) (request : Request) : Script (Option request.Reply) := do
  match ← call request with
  | .ok reply => return some reply
  | .error failure =>
      note (.failed purpose failure)
      return none

/-- Performs a script in another monad, action by action. -/
def foldM {m : Type → Type} [Monad m] {α : Type} (answer : (action : Action) → m action.Answer) :
    Script α → m α
  | done value => pure value
  | step action next => do
      let reply ← answer action
      (next reply).foldM answer

end Script

/-- A script that any failure can end. -/
abbrev Fallible (α : Type) : Type := ExceptT Failure Script α

/-- A script that the console can end. -/
abbrev Printing (α : Type) : Type := ExceptT IoFault Script α

/-- Writes to the console. -/
def print (text : String) : Printing Unit :=
  ExceptT.mk (Script.write text)

end IndexBench
