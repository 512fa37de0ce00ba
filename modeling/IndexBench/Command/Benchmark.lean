import IndexBench.Command.Arguments
import IndexBench.Command.Exit
import IndexBench.Machine
import IndexBench.Series

/-!
# The benchmark command

Runs a catalog against a table under one of its two indexes, or shows the
matchers of the catalog.

Main definitions:

- `Benchmark.parameters` are the parameters, `Benchmark.Values` their values.
- `Benchmark.command` is the whole command.
-/

namespace IndexBench
namespace Command

/-! ## Readers of values -/

/-- A path, which is never empty. -/
def readPath (text : String) : Except ValueFault String :=
  if text.isEmpty then .error .absent else .ok text

/-- The name of a table. -/
def readTable (text : String) : Except ValueFault TableName :=
  match TableName.parse text with
  | .ok table => .ok table
  | .error failure => .error (.refused (some failure.message))

/-- The selector of an index. -/
def readOrder (text : String) : Except ValueFault IndexOrder :=
  match IndexOrder.parse text with
  | .ok order => .ok order
  | .error failure => .error (.refused (some failure.message))

/-- A number. -/
def readNumber (text : String) : Except ValueFault Nat :=
  match Natural.parse text with
  | .ok n => .ok n
  | .error fault => .error (.refused (some fault.message))

/-- The shape of queries. -/
def readShape (text : String) : Except ValueFault QueryShape :=
  match QueryShape.ofTag? text with
  | some shape => .ok shape
  | none => .error (if text.isEmpty then .absent else .refused none)

/-- A required positional parameter. -/
def positional {α : Type} (value : String) (store : String → α → Except ValueFault α) :
    Parameter α where
  long := none
  value := some value
  environment := none
  required := true
  store := store

/-- An option with a value. -/
def option {α : Type} (long value : String) (environment : Option String)
    (store : String → α → Except ValueFault α) : Parameter α where
  long := some long
  value := some value
  environment := environment
  required := false
  store := store

/-- A flag. -/
def flag {α : Type} (long : String) (store : α → α) : Parameter α where
  long := some long
  value := none
  environment := none
  required := false
  store := fun _ values => .ok (store values)

/-- The variable that names the database. -/
def databaseVariable : String := "PATHBENCH_DATABASE_URL"

/-- The variable that names the settings file. -/
def settingsVariable : String := "PATHBENCH_CONFIG"

/-- What a command shows of itself. -/
def versionLine (name : String) : String :=
  name ++ " 0.1.0\n"

/-- What a command shows of its use. -/
def helpText {α : Type} (name : String) (parameters : List (Parameter α)) : String :=
  "Usage: " ++ name ++ " [OPTIONS]" ++
    String.join ((parameters.filter fun parameter => parameter.required).map fun parameter =>
      " " ++ parameter.label) ++ "\n"

/-- Reads the arguments of a command and runs it, or shows what they ask for. -/
def dispatch {α : Type} (name : String) (parameters : List (Parameter α)) (defaults : α)
    (run : α → Run Unit) (environment : Variables) (arguments : List String) : Script Exit := do
  match Arguments.read environment parameters defaults arguments with
  | .error fault => return Exit.ofOutcome (.error (.usage fault))
  | .ok .version => return Exit.ofOutcome (← (Run.print (versionLine name)).run)
  | .ok .help => return Exit.ofOutcome (← (Run.print (helpText name parameters)).run)
  | .ok (.values values) => return Exit.ofOutcome (← (run values).run)

/-! ## The command -/

namespace Benchmark

/-- The values of the parameters. -/
structure Values where
  catalog : String
  table : Option TableName
  order : IndexOrder
  overrides : Overrides
  exportPath : Option String
  dryRun : Bool
  settings : Option String

/-- The values before any argument is read. -/
def defaults : Values where
  catalog := ""
  table := none
  order := .valueFirst
  overrides := ⟨none, none, none, false⟩
  exportPath := none
  dryRun := false
  settings := none

/-- Changes the overrides. -/
def Values.overriding (values : Values) (f : Overrides → Overrides) : Values :=
  { values with overrides := f values.overrides }

/-- The parameters, in the order in which the environment supplies them. -/
def parameters : List (Parameter Values) :=
  [ positional "CATALOG" fun text values => do
      return { values with catalog := ← readPath text },
    positional "TABLE" fun text values => do
      return { values with table := some (← readTable text) },
    positional "INDEX" fun text values => do
      return { values with order := ← readOrder text },
    option "database-url" "DATABASE_URL" databaseVariable fun text values =>
      .ok (values.overriding fun o => { o with url := some text }),
    option "repetitions" "REPETITIONS" none fun text values => do
      let n ← readNumber text
      return values.overriding fun o => { o with repetitions := some n },
    option "executor" "EXECUTOR" none fun text values => do
      let shape ← readShape text
      return values.overriding fun o => { o with shape := some shape },
    flag "warmup" fun values => values.overriding fun o => { o with warmup := true },
    option "export" "CSV" none fun text values => do
      return { values with exportPath := some (← readPath text) },
    flag "dry-run" fun values => { values with dryRun := true },
    option "config" "FILE" settingsVariable fun text values => do
      return { values with settings := some (← readPath text) } ]

/-- Loads a catalog file. -/
def loadCatalog (path : String) : Run Catalog := do
  let file ← (Script.perform (.inspect path) : Script FileState)
  let catalog ← Run.ofExcept (Catalog.ofFile file)
  Script.note (.catalogLoaded path catalog.length)
  return catalog

/-- The line that shows a query with its matcher. -/
def matcherLine (query : RangeQuery) : String :=
  query.pattern ++ ";" ++ query.matcher ++ ";" ++ Integer.render query.low ++ ";" ++
    Integer.render query.high ++ "\n"

/-- Shows the queries of a catalog with their matchers. -/
def showMatchers : Catalog → Run Unit
  | [] => pure ()
  | query :: queries => do
      Run.print (matcherLine query)
      showMatchers queries

/-- Runs a plan against a database and exports its measurements. -/
def measure (plan : Plan) (url : String) (exportPath : Option String) : Run Unit := do
  let address ← Run.ofExcept (Address.parse url)
  let (result, series) ← ((Series.unrun plan).run address.engine address : Script _)
  let _ ← Run.ofExcept result
  match exportPath with
  | none => pure ()
  | some path => Run.ofScript (series.save path)

/-- Runs the command with its values. -/
def run (environment : Variables) (values : Values) : Run Unit := do
  match values.table with
  | none => throw (.usage .incomplete)
  | some table =>
      let settings := (← loadSettings environment values.settings).override values.overrides
      let catalog ← loadCatalog values.catalog
      if values.dryRun then showMatchers catalog
      else
        let plan : Plan :=
          { catalog := catalog
            table := table
            selected := values.order
            shape := settings.queryShape
            repetitions := settings.repeats
            warmup := settings.warmsUp }
        measure plan settings.address values.exportPath

/-- The name of the command. -/
def name : String := "pathbench"

/-- The command. -/
def command (environment : Variables) (arguments : List String) : Script Exit :=
  dispatch name parameters defaults (run environment) environment arguments

end Benchmark
end Command
end IndexBench
