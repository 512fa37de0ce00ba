import IndexBench.Command.Benchmark
import IndexBench.Proofs.Run.Printing

/-!
# Steps of commands

A command goes on with the value of a step or ends with its fault.  Finding settings and looking
at files changes nothing; writing changes the console alone.

Main definitions:

- `settingsFound` are the settings that a command finds.
- `unwound` is how a step ends that can panic.

Main results:

- Theorem `Console.write_append`: texts are written in a row as they are written at once.
- Theorems `Script.Uses.connections_run` and `Script.Uses.console_run`: what scripts leave alone
  by their kinds.
- Theorem `run_loadSettings`: loading settings yields those that are found.
- Theorem `run_print`: a step that writes ends the command if the console takes too little.
-/

namespace IndexBench

open Script

/-! ## Consoles -/

/-- Texts are written in a row as they are written at once, up to the one that does not fit. -/
theorem Console.write_append (console : Console) (text more : String) :
    console.write (text ++ more) =
      match console.write text with
      | (.ok (), console) => console.write more
      | (.error fault, console) => (.error fault, console) := by
  simp only [write, Utf8.encode_append, List.length_append]
  generalize Utf8.encode text = bytes
  generalize Utf8.encode more = rest
  cases hroom : console.room with
  | none => simp
  | some room =>
      by_cases hfits : bytes.length ≤ room
      · by_cases hrest : rest.length ≤ room - bytes.length
        · have hboth : bytes.length + rest.length ≤ room := by omega
          simp [hfits, hrest, hboth, Nat.sub_sub]
        · have hboth : ¬bytes.length + rest.length ≤ room := by omega
          simp [hfits, hrest, hboth, List.take_append, List.take_of_length_le hfits]
      · have hboth : ¬bytes.length + rest.length ≤ room := by omega
        have hcut : (bytes ++ rest).take room = bytes.take room :=
          List.take_append_of_le_length (by omega)
        simp [hfits, hboth, hcut]

/-- Nothing to write is always taken. -/
theorem Console.write_empty (console : Console) : console.write "" = (.ok (), console) := by
  obtain ⟨shown, room⟩ := console
  cases room <;> simp [write]

/-! ## What scripts leave alone -/

/-- What actions of some kinds leave alone is left alone by a script of these kinds. -/
theorem Script.Uses.run_eq {σ α β : Type} {env : Environment σ} {kinds : List Action.Kind}
    {script : Script α} (h : script.Uses kinds) {part : World σ → β}
    (hpart : ∀ action world, action.kind ∈ kinds →
      part (World.perform env world action).2 = part world) (world : World σ) :
    part (script.run env world).2 = part world := by
  induction script generalizing world with
  | done value => rfl
  | step action next ih => exact (ih _ (h.2 _) _).trans (hpart action world h.1)

/-- Only connecting is recorded as such. -/
theorem World.connections_perform {σ : Type} (env : Environment σ) {action : Action}
    (h : action.kind ≠ .connect) (world : World σ) :
    (world.perform env action).2.connections = world.connections := by
  cases action with
  | connect address => exact absurd rfl h
  | measure request =>
      simp only [perform, record]
      split <;> rfl
  | save path bytes =>
      simp only [perform]
      split <;> rfl
  | _ => rfl

/-- A script that does not connect attempts no connection. -/
theorem Script.Uses.connections_run {σ α : Type} {kinds : List Action.Kind} {script : Script α}
    (h : script.Uses kinds) (hkinds : .connect ∉ kinds) (env : Environment σ) (world : World σ) :
    (script.run env world).2.connections = world.connections := by
  apply h.run_eq
  intro action world haction
  apply World.connections_perform env
  intro hconnect
  exact hkinds (hconnect ▸ haction)

/-- A script that does not write leaves the console as it is. -/
theorem Script.Uses.console_run {σ α : Type} {kinds : List Action.Kind} {script : Script α}
    (h : script.Uses kinds) (hkinds : .write ∉ kinds) (env : Environment σ) (world : World σ) :
    (script.run env world).2.console = world.console := by
  apply h.run_eq
  intro action world haction
  apply World.console_perform
  intro hwrite
  exact hkinds (hwrite ▸ haction)

namespace Command

variable {σ : Type} {env : Environment σ} {world : World σ}

/-! ## Steps of commands -/

namespace Run

variable {α β : Type}

/-- A command goes on with the value of its first step. -/
theorem run_bind_ok {step : Run α} {f : α → Run β} {value : α} {world' : World σ}
    (h : step.run.run env world = (.ok value, world')) :
    (step >>= f).run.run env world = (f value).run.run env world' := by
  rw [ExceptT.run_bind, Script.run_bind, h]

/-- A command ends with the fault of its first step. -/
theorem run_bind_error {step : Run α} {f : α → Run β} {fault : Fault} {world' : World σ}
    (h : step.run.run env world = (.error fault, world')) :
    (step >>= f).run.run env world = (.error fault, world') := by
  rw [ExceptT.run_bind, Script.run_bind, h]
  rfl

/-- A step that no fault can end has a value. -/
theorem run_lift (env : Environment σ) (world : World σ) (script : Script α) :
    (liftM script : Run α).run.run env world =
      (.ok (script.run env world).1, (script.run env world).2) :=
  Script.run_map env Except.ok script world

end Run

/-- The settings that a command finds: in the file that is asked for, or else in the usual one. -/
def settingsFound (env : Environment σ) (state : σ) (environment : Variables)
    (asked : Option String) : Except SettingsFault Settings :=
  let find (path : String) := (path, env.inspect path state)
  Settings.load (asked.map find)
    ((if asked.isSome then none else usualSettings? environment).map find)

/-- Looking at a file changes nothing. -/
theorem run_inspect? (env : Environment σ) (world : World σ) (path? : Option String) :
    (inspect? path?).run env world =
      (path?.map fun path => (path, env.inspect path world.state), world) := by
  cases path? with
  | none => rfl
  | some path => rfl

/-- Loading settings yields those that are found, and changes nothing. -/
theorem run_loadSettings (env : Environment σ) (world : World σ) (environment : Variables)
    (asked : Option String) :
    (loadSettings environment asked).run.run env world =
      ((settingsFound env world.state environment asked).mapError fun fault =>
        .failed (.settings fault), world) := by
  have hasked := Run.run_lift env world (inspect? asked)
  have husual := Run.run_lift env world
    (inspect? (if asked.isSome then none else usualSettings? environment))
  rw [run_inspect?] at hasked husual
  rw [loadSettings, Run.run_bind_ok hasked]
  simp only [Option.isSome_map]
  rw [Run.run_bind_ok husual, settingsFound]
  cases Settings.load (asked.map fun path => (path, env.inspect path world.state))
      ((if asked.isSome then none else usualSettings? environment).map fun path =>
        (path, env.inspect path world.state)) with
  | ok settings => rfl
  | error fault => rfl

/-- A step that has come to an outcome ends the command if this is a failure. -/
theorem run_ofExcept {α : Type} (env : Environment σ) (world : World σ)
    (outcome : Except Failure α) :
    (Run.ofExcept outcome).run.run env world = (outcome.mapError .failed, world) := by
  cases outcome with
  | ok value => rfl
  | error failure => rfl

/-- A script whose failure ends the command is run. -/
theorem run_ofScript {α : Type} (env : Environment σ) (world : World σ)
    (script : Script (Except Failure α)) :
    (Run.ofScript script).run.run env world =
      ((script.run env world).1.mapError .failed, (script.run env world).2) := by
  rw [Run.ofScript, Run.run_bind_ok (Run.run_lift env world script), run_ofExcept]

/-- How a step of a command ends that can panic: a panic ends the command. -/
def unwound {α : Type} : Except Failure (Except Panic α) → Except Fault (Except Failure α)
  | .ok (.ok value) => .ok (.ok value)
  | .ok (.error panic) => .error (.panicked panic)
  | .error failure => .ok (.error failure)

/-- A step that can panic is run. -/
theorem run_unwinding {α : Type} (env : Environment σ) (world : World σ)
    (script : ExceptT Panic Fallible α) :
    (Run.unwinding script).run.run env world =
      (unwound (script.run.run.run env world).1, (script.run.run.run env world).2) := by
  rw [Run.unwinding, Run.run_bind_ok (Run.run_lift env world script.run.run)]
  rcases (script.run.run.run env world).1 with failure | panic | value <;> rfl

/-- A step that writes ends the command if the console takes too little. -/
theorem run_print (env : Environment σ) (world : World σ) (text : String) :
    (Run.print text).run.run env world =
      ((world.console.write text).1.mapError .console,
        { world with console := (world.console.write text).2 }) := by
  have hwrite := Run.run_lift env world (Script.write text)
  rw [Run.print, Run.run_bind_ok hwrite]
  have hwritten : ((Script.write text).run env world) =
      ((world.console.write text).1, { world with console := (world.console.write text).2 }) := rfl
  rw [hwritten]
  cases (world.console.write text).1 with
  | ok _ => rfl
  | error fault => rfl

/-- No fault is success. -/
theorem status_ne_zero (fault : Fault) : (Exit.ofOutcome (.error fault)).status ≠ 0 := by
  intro hstatus
  cases fault <;> cases hstatus

/-- A command succeeds if the console took what it wrote last. -/
theorem ofOutcome_eq_success_iff (written : Except IoFault Unit) :
    Exit.ofOutcome (written.mapError .console) = ⟨0, none⟩ ↔ written = .ok () := by
  cases written with
  | ok _ => exact iff_of_true rfl rfl
  | error fault => exact iff_of_false nofun nofun

end Command
end IndexBench
