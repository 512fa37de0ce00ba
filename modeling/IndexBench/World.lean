import IndexBench.Console
import IndexBench.Script

/-!
# Worlds

A script runs in a world: a state that answers its actions, with a record of all
that was done to it.

Main definitions:

- `Environment` answers actions from a state.
- `World` is a state with its record; `World.perform` performs an action.
- `Script.run` runs a script in a world.

Main results:

- Theorem `Script.run_bind`: scripts in a row run one after the other.
- Theorem `Script.calls_prefix_run`: a script only adds to the record of requests.
-/

namespace IndexBench

/-- A request with its failure, if it failed. -/
structure Call where
  request : Request
  failure : Option Failure
  deriving DecidableEq, Repr

/-- What a request leads to: an outcome, events and a new state. -/
structure Response (α σ : Type) where
  outcome : Except Failure α
  events : List Event
  state : σ

/-- How actions are answered from a state. -/
structure Environment (σ : Type) where
  answer : (request : Request) → σ → Response request.Reply σ
  connect : Address → σ → Response Unit σ
  inspect : String → σ → FileState
  save : String → List UInt8 → σ → Except IoFault σ
  /-- Milliseconds that the measured request of a given number takes; those that
  fail do not count. -/
  stopwatch : Nat → Nat

/-- A state with a record of what was done. -/
structure World (σ : Type) where
  state : σ
  /-- Every request, in order. -/
  calls : List Call
  /-- Every attempt to connect, in order. -/
  connections : List Address
  console : Console
  /-- Every event, in order. -/
  events : List Event
  /-- Number of measured requests that succeeded. -/
  executions : Nat

/-- The failure of an outcome. -/
def failureOf {α : Type} : Except Failure α → Option Failure
  | .ok _ => none
  | .error failure => some failure

namespace World

variable {σ : Type}

/-- A world in which nothing was done yet. -/
def fresh (state : σ) (console : Console) : World σ where
  state := state
  calls := []
  connections := []
  console := console
  events := []
  executions := 0

/-- Notes an event. -/
def note (world : World σ) (event : Event) : World σ :=
  { world with events := world.events ++ [event] }

/-- Records a request and its response. -/
def record (world : World σ) (request : Request) (response : Response request.Reply σ) : World σ :=
  { world with
    state := response.state
    calls := world.calls ++ [⟨request, failureOf response.outcome⟩]
    events := world.events ++ response.events }

/-- Performs an action. -/
def perform (env : Environment σ) (world : World σ) :
    (action : Action) → action.Answer × World σ
  | .call request =>
      let response := env.answer request world.state
      (response.outcome, world.record request response)
  | .measure request =>
      let response := env.answer request world.state
      let world' := world.record request response
      match response.outcome with
      | .error failure => (.error failure, world')
      | .ok reply =>
          (.ok (reply, env.stopwatch world.executions),
            { world' with executions := world.executions + 1 })
  | .write text =>
      let (outcome, console) := world.console.write text
      (outcome, { world with console := console })
  | .note event => ((), world.note event)
  | .connect address =>
      let response := env.connect address world.state
      (response.outcome,
        { world with
          state := response.state
          connections := world.connections ++ [address]
          events := world.events ++ response.events })
  | .inspect path => (env.inspect path world.state, world)
  | .save path bytes =>
      match env.save path bytes world.state with
      | .ok state => (.ok (), { world with state := state })
      | .error fault => (.error fault, world)

/-- An action only adds to the record of requests. -/
theorem calls_prefix_perform (env : Environment σ) (world : World σ) (action : Action) :
    world.calls <+: (world.perform env action).2.calls := by
  cases action with
  | call request => exact List.prefix_append _ _
  | measure request =>
      simp only [perform]
      split <;> exact List.prefix_append _ _
  | write text => exact List.prefix_rfl
  | note event => exact List.prefix_rfl
  | connect address => exact List.prefix_rfl
  | inspect path => exact List.prefix_rfl
  | save path bytes =>
      simp only [perform]
      split <;> exact List.prefix_rfl

end World

namespace Script

variable {σ α β : Type}

/-- Runs a script in a world. -/
def run (env : Environment σ) : Script α → World σ → α × World σ
  | done value, world => (value, world)
  | step action next, world =>
      let (answer, world) := world.perform env action
      (next answer).run env world

@[simp]
theorem run_pure (env : Environment σ) (value : α) (world : World σ) :
    (pure value : Script α).run env world = (value, world) :=
  rfl

/-- Scripts in a row run one after the other. -/
@[simp]
theorem run_bind (env : Environment σ) (script : Script α) (f : α → Script β) (world : World σ) :
    (script >>= f).run env world =
      (f (script.run env world).1).run env (script.run env world).2 := by
  induction script generalizing world with
  | done value => rfl
  | step action next ih => exact ih _ _

/-- The script of one action performs it. -/
@[simp]
theorem run_perform (env : Environment σ) (action : Action) (world : World σ) :
    (perform action).run env world = world.perform env action :=
  rfl

/-- A script only adds to the record of requests. -/
theorem calls_prefix_run (env : Environment σ) (script : Script α) (world : World σ) :
    world.calls <+: (script.run env world).2.calls := by
  induction script generalizing world with
  | done value => exact List.prefix_rfl
  | step action next ih => exact (world.calls_prefix_perform env action).trans (ih _ _)

end Script
end IndexBench
