import IndexBench.Command.Benchmark
import IndexBench.Loading

/-!
# The prepare command

Loads a dataset into a table and builds both of its indexes.

Main definitions:

- `Prepare.parameters` are the parameters, `Prepare.Values` their values.
- `Prepare.command` is the whole command.
-/

namespace IndexBench
namespace Command
namespace Prepare

/-- The values of the parameters. -/
structure Values where
  dataset : String
  table : Option TableName
  url : Option String
  /-- Bytes of the dataset to be loaded, up to the end of a line; zero for all. -/
  limit : Nat
  /-- Rows in a batch. -/
  batch : Nat
  settings : Option String

/-- The values before any argument is read. -/
def defaults : Values where
  dataset := ""
  table := none
  url := none
  limit := 0
  batch := 10000
  settings := none

/-- The parameters, in the order in which the environment supplies them. -/
def parameters : List (Parameter Values) :=
  [ positional "DATASET" fun text values => do
      return { values with dataset := ← readPath text },
    positional "TABLE" fun text values => do
      return { values with table := some (← readTable text) },
    option "database-url" "DATABASE_URL" databaseVariable fun text values =>
      .ok { values with url := some text },
    option "limit-bytes" "LIMIT_BYTES" none fun text values => do
      return { values with limit := ← readNumber text },
    option "batch-size" "BATCH_SIZE" none fun text values => do
      return { values with batch := ← readNumber text },
    option "config" "FILE" settingsVariable fun text values => do
      return { values with settings := some (← readPath text) } ]

/-- Opens a dataset file. -/
def openDataset (path : String) (limit : Nat) : Run Dataset.Reader := do
  let file ← (Script.perform (.inspect path) : Script FileState)
  Run.ofExcept (Dataset.Reader.openFile file limit)

/-- Connects, loads a table and closes the connection, whatever the load comes
to. -/
def loadInto (address : Address) (table : TableName) (reader : Dataset.Reader) (batch : Nat) :
    Run Nat := do
  Run.ofScript (Script.perform (.connect address))
  let loaded ← Run.unwinding (Loading.prepareTable address.engine table reader batch)
  match ← (Script.call .close : Script (Except Failure Unit)) with
  | .ok () => pure ()
  | .error failure => Script.note (.closeFailed failure)
  Run.ofExcept loaded

/-- Runs the command with its values. -/
def run (environment : Variables) (values : Values) : Run Unit := do
  match values.table with
  | none => throw (.usage .incomplete)
  | some table =>
      let settings :=
        (← loadSettings environment values.settings).override ⟨values.url, none, none, false⟩
      let address ← Run.ofExcept (Address.parse settings.address)
      let reader ← openDataset values.dataset values.limit
      let rows ← loadInto address table reader values.batch
      Run.print ("imported " ++ Natural.render rows ++ " records into " ++ table.text ++ "\n")

/-- The name of the command. -/
def name : String := "pathbench-prepare"

/-- The command. -/
def command (environment : Variables) (arguments : List String) : Script Exit :=
  dispatch name parameters defaults (run environment) environment arguments

end Prepare
end Command
end IndexBench
