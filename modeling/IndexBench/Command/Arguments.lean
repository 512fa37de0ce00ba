import IndexBench.Command.Usage

/-!
# Arguments

The arguments of a command are options, flags and positional values, in any
order.  A value is checked when the argument after it is reached, so the first
bad one is reported, except that an argument that means nothing is reported
before the value that waits.  Options that are not given may come from the
environment.

Main definitions:

- `Parameter` describes a parameter and how its value is stored.
- `Arguments.read` reads all arguments.
-/

namespace IndexBench
namespace Command

/-- Why a value is refused. -/
inductive ValueFault where
  /-- An empty text stands for no value. -/
  | absent
  | refused (reason : Option String)
  deriving DecidableEq, Repr

/-- A parameter of a command whose values are collected in `α`. -/
structure Parameter (α : Type) where
  /-- The name after two hyphens; positional parameters have none. -/
  long : Option String
  /-- The name of the value; flags have none. -/
  value : Option String
  /-- The variable that supplies the value if no argument does. -/
  environment : Option String
  required : Bool
  store : String → α → Except ValueFault α

namespace Parameter

variable {α : Type}

/-- How a parameter is shown. -/
def label (parameter : Parameter α) : String :=
  match parameter.long, parameter.value with
  | some long, some value => "--" ++ long ++ " <" ++ value ++ ">"
  | some long, none => "--" ++ long
  | none, some value => "<" ++ value ++ ">"
  | none, none => ""

/-- Stores a value. -/
def accept (parameter : Parameter α) (value : String) (values : α) : Except UsageFault α :=
  match parameter.store value values with
  | .ok values => .ok values
  | .error .absent => .error (.valueless parameter.label)
  | .error (.refused reason) => .error (.invalid value parameter.label reason)

end Parameter

/-- What arguments ask for. -/
inductive Parsed (α : Type) where
  | values (values : α)
  | version
  | help

namespace Arguments

variable {α : Type}

/-- The state of a reader of arguments. -/
structure State (α : Type) where
  values : α
  /-- The labels of the parameters stored so far. -/
  stored : List String
  /-- The parameter that is being read, with its value once it has one. -/
  pending : Option (Parameter α × Option String)
  /-- The positional parameters to come. -/
  positional : List (Parameter α)
  /-- Whether only positional values can follow. -/
  trailing : Bool

/-- Stores the parameter that is being read. -/
def State.resolve (state : State α) : Except UsageFault (State α) :=
  match state.pending with
  | none => .ok state
  | some (parameter, none) => .error (.valueless parameter.label)
  | some (parameter, some value) =>
      if state.stored.contains parameter.label then .error (.repeated parameter.label)
      else do
        let values ← parameter.accept value state.values
        return { state with
          values := values
          stored := parameter.label :: state.stored
          pending := none }

/-- Stores a parameter with its value at once. -/
def State.give (state : State α) (parameter : Parameter α) (value : String) :
    Except UsageFault (State α) := do
  let state ← state.resolve
  State.resolve { state with pending := some (parameter, some value) }

/-- Takes a positional value. -/
def State.place (state : State α) (value : String) : Except UsageFault (State α) :=
  match state.positional with
  | [] => .error (.unexpected value)
  | parameter :: positional => do
      let state ← state.resolve
      return { state with pending := some (parameter, some value), positional := positional }

/-- The parts of a text before and after its first equals sign. -/
def splitEquals : List Char → List Char × Option (List Char)
  | [] => ([], none)
  | c :: rest =>
      if c = '=' then ([], some rest)
      else
        let (name, value) := splitEquals rest
        (c :: name, value)

/-- How an argument goes on: with a new state, or by ending the reading. -/
inductive Step (α : Type) where
  | next (state : State α)
  | version
  | help

/-- Ends the reading once the value that waits is stored. -/
def State.finishWith (state : State α) (outcome : Step α) : Except UsageFault (Step α) := do
  let _ ← state.resolve
  return outcome

/-- Reads an argument that starts with two hyphens. -/
def State.readLong (state : State α) (parameters : List (Parameter α)) (text : List Char) :
    Except UsageFault (Step α) :=
  let (name, attached) := splitEquals text
  let name := String.ofList name
  match parameters.find? fun parameter => parameter.long == some name, attached with
  | some parameter, some value =>
      if parameter.value.isSome then
        (state.give parameter (String.ofList value)).map .next
      else .error (.excess (String.ofList value) parameter.label)
  | some parameter, none =>
      if parameter.value.isSome then do
        let state ← state.resolve
        return .next { state with pending := some (parameter, none) }
      else (state.give parameter "true").map .next
  | none, attached =>
      if name = "version" || name = "help" then
        match attached with
        | some value => .error (.excess (String.ofList value) ("--" ++ name))
        | none => state.finishWith (if name = "version" then .version else .help)
      else .error (.unexpected ("--" ++ name))

/-- Reads an argument that starts with one hyphen. -/
def State.readShort (state : State α) (letter : Char) : Except UsageFault (Step α) :=
  if letter = 'V' then state.finishWith .version
  else if letter = 'h' then state.finishWith .help
  else .error (.unexpected (String.ofList ['-', letter]))

/-- Reads a value: of the option that waits for one, or positional. -/
def State.readValue (state : State α) (value : String) : Except UsageFault (Step α) :=
  match state.pending, state.trailing with
  | some (parameter, none), false =>
      .ok (.next { state with pending := some (parameter, some value) })
  | _, _ => (state.place value).map .next

/-- Reads an argument. -/
def State.step (state : State α) (parameters : List (Parameter α)) (argument : String) :
    Except UsageFault (Step α) :=
  if state.trailing then state.readValue argument
  else
    match argument.toList with
    | ['-', '-'] => .ok (.next { state with trailing := true })
    | '-' :: '-' :: rest => state.readLong parameters rest
    | '-' :: letter :: _ => state.readShort letter
    | _ => state.readValue argument

/-- Takes the values of parameters that no argument gave from the environment. -/
def addEnvironment (environment : String → Option String) :
    List (Parameter α) → State α → Except UsageFault (State α)
  | [], state => .ok state
  | parameter :: parameters, state =>
      if state.stored.contains parameter.label then addEnvironment environment parameters state
      else
        match parameter.environment.bind environment with
        | none => addEnvironment environment parameters state
        | some value => do
            let state ← state.give parameter value
            addEnvironment environment parameters state

/-- Ends the reading: the last value, the environment, and what is required. -/
def State.finish (state : State α) (environment : String → Option String)
    (parameters : List (Parameter α)) : Except UsageFault (Parsed α) := do
  let state ← state.resolve
  let state ← addEnvironment environment parameters state
  if parameters.all fun parameter =>
      !parameter.required || state.stored.contains parameter.label then
    return .values state.values
  else .error .incomplete

/-- Reads arguments from a state on. -/
def readFrom (environment : String → Option String) (parameters : List (Parameter α)) :
    State α → List String → Except UsageFault (Parsed α)
  | state, [] => state.finish environment parameters
  | state, argument :: arguments => do
      match ← state.step parameters argument with
      | .next state => readFrom environment parameters state arguments
      | .version => return .version
      | .help => return .help

/-- Reads arguments, given the values of those that are left out. -/
def read (environment : String → Option String) (parameters : List (Parameter α))
    (defaults : α) (arguments : List String) : Except UsageFault (Parsed α) :=
  readFrom environment parameters
    { values := defaults
      stored := []
      pending := none
      positional := parameters.filter fun parameter => parameter.long.isNone
      trailing := false }
    arguments

end Arguments
end Command
end IndexBench
