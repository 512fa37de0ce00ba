import IndexBench.World

/-!
# Interference

An engine can be made to fail at will: an interference answers requests in the
engine's place, going by the start of their text, as often as it is meant to.

Main definitions:

- `Interference` is what is to be done to a request.
- `Disturbed` is a state with interferences, `Environment.disturb` an
  environment whose requests are subject to them.
-/

namespace IndexBench

/-- How a request is answered in the engine's place. -/
inductive Intervention where
  /-- A lookup yields this value; other requests go on to the engine. -/
  | value (value : Option String)
  | failure (failure : Failure)
  deriving DecidableEq, Repr

/-- An intervention for the requests with a given start. -/
structure Interference where
  start : String
  /-- How often it is still to be used, if that is limited. -/
  remaining : Option Nat
  intervention : Intervention
  deriving DecidableEq, Repr

namespace Interference

/-- Whether an interference is for a request and still to be used. -/
def concerns (interference : Interference) (request : Request) : Bool :=
  interference.remaining != some 0 &&
    interference.start.toList.isPrefixOf request.describe.toList

/-- An interference after one use. -/
def used (interference : Interference) : Interference :=
  { interference with remaining := interference.remaining.map (· - 1) }

/-- The first intervention for a request, and what is left of the list. -/
def take? (request : Request) : List Interference → Option (Intervention × List Interference)
  | [] => none
  | interference :: others =>
      if interference.concerns request then
        some (interference.intervention, interference.used :: others)
      else
        (take? request others).map fun (intervention, rest) =>
          (intervention, interference :: rest)

end Interference

/-- A state with interferences. -/
structure Disturbed (σ : Type) where
  interferences : List Interference
  /-- Why connecting fails, if it is made to fail. -/
  refusal : Option Failure
  inner : σ

namespace Disturbed

variable {σ : Type}

/-- Lets the engine answer. -/
def forward (env : Environment σ) (request : Request) (state : Disturbed σ) :
    Response request.Reply (Disturbed σ) :=
  let response := env.answer request state.inner
  ⟨response.outcome, response.events, { state with inner := response.state }⟩

/-- Answers a request by a value, if it is a lookup. -/
def substitute? (value : Option String) : (request : Request) → Option request.Reply
  | .scanFallback => some value
  | .indexEligibility _ => some value
  | _ => none

/-- Answers a request, subject to the interferences. -/
def answer (env : Environment σ) (request : Request) (state : Disturbed σ) :
    Response request.Reply (Disturbed σ) :=
  match Interference.take? request state.interferences with
  | none => state.forward env request
  | some (intervention, interferences) =>
      let state := { state with interferences := interferences }
      match intervention with
      | .failure failure => ⟨.error failure, [], state⟩
      | .value value =>
          match substitute? value request with
          | some reply => ⟨.ok reply, [], state⟩
          | none => state.forward env request

/-- Connects by taking over the open connection, unless that is refused. -/
def connect (state : Disturbed σ) : Response Unit (Disturbed σ) :=
  match state.refusal with
  | some failure => ⟨.error failure, [], state⟩
  | none => ⟨.ok (), [], state⟩

end Disturbed

/-- An environment whose requests are subject to interferences. -/
def Environment.disturb {σ : Type} (env : Environment σ) : Environment (Disturbed σ) where
  answer := Disturbed.answer env
  connect _ state := state.connect
  inspect path state := env.inspect path state.inner
  save path bytes state :=
    (env.save path bytes state.inner).map fun inner => { state with inner := inner }
  stopwatch := env.stopwatch

end IndexBench
