import IndexBench.Catalog
import IndexBench.Configuration
import IndexBench.Summary

/-!
# Runs

A plan says what to run: a catalog, as often as asked, against one table under
one selected index.  A run notes and skips every query that fails; only the
console ends it early, and even then the configuration is restored.

Main definitions:

- `Plan` is a plan, `Outcome` what a run yields.
- `execute` executes one query and takes the time.
- `Plan.runOn` runs a plan on an open connection, `Plan.run` opens and closes one.
-/

namespace IndexBench

open Script

/-! ## Queries -/

/-- The request of a query in one of the two shapes, measured. -/
def measureQuery (shape : QueryShape) (table : TableName) (selector : Selector) :
    Script (Except Failure (Nat × Nat)) :=
  match shape with
  | .count => measure (.countMatches table selector)
  | .enumerate => measure (.enumerateMatches table selector)

/-- Executes a query and takes the time. -/
def execute (shape : QueryShape) (table : TableName) (query : RangeQuery) :
    Script (Except Failure Reading) := do
  match ← measureQuery shape table query.selector with
  | .error failure => return .error failure
  | .ok (count, elapsed) =>
      let reading : Reading := ⟨elapsed, count⟩
      note (.executed query reading)
      return .ok reading

/-! ## Plans -/

/-- What to run. -/
structure Plan where
  catalog : Catalog
  table : TableName
  /-- The index that may be used. -/
  selected : IndexOrder
  shape : QueryShape
  /-- How often the catalog is run. -/
  repetitions : Nat
  /-- Whether the catalog is run once before, unmeasured. -/
  warmup : Bool
  deriving DecidableEq

/-- What a run yields: its measurements, and a summary unless it was cut short. -/
structure Outcome where
  measurements : List Measurement
  result : Except Failure Summary

namespace Plan

/-- Executes queries from the given place on, without measuring them. -/
def warmUpFrom (plan : Plan) : Nat → List RangeQuery → Script Unit
  | _, [] => pure ()
  | place, query :: queries => do
      match ← execute plan.shape plan.table query with
      | .ok reading => note (.warmedUp place reading)
      | .error failure => note (.failed (.warmUp place query) failure)
      plan.warmUpFrom (place + 1) queries

/-- Runs the catalog once before it is measured. -/
def warmUp (plan : Plan) : Script Unit := do
  note (.warmingUp plan.catalog.length)
  plan.warmUpFrom 0 plan.catalog

/-- Measures queries from the given place on.  A reading counts once its line is
on the console. -/
def measureFrom (plan : Plan) (repetition : Nat) :
    Nat → List RangeQuery → Script (List Measurement × Except IoFault Unit)
  | _, [] => return ([], .ok ())
  | place, query :: queries => do
      match ← execute plan.shape plan.table query with
      | .error failure =>
          note (.failed (.measure place query) failure)
          plan.measureFrom repetition (place + 1) queries
      | .ok reading =>
          match ← write (reading.line place) with
          | .error fault => return ([], .error fault)
          | .ok () =>
              let (measurements, written) ← plan.measureFrom repetition (place + 1) queries
              return (⟨repetition, place, reading⟩ :: measurements, written)

/-- Measures the catalog once and ends the repetition with a blank line. -/
def measureOnce (plan : Plan) (repetition : Nat) :
    Script (List Measurement × Except IoFault Unit) := do
  match ← plan.measureFrom repetition 0 plan.catalog with
  | (measurements, .error fault) => return (measurements, .error fault)
  | (measurements, .ok ()) =>
      match ← write "\n" with
      | .error fault => return (measurements, .error fault)
      | .ok () =>
          note (.repetitionFinished repetition)
          return (measurements, .ok ())

/-- Measures the catalog a number of times, from the given repetition on. -/
def measureTimes (plan : Plan) :
    Nat → Nat → Script (List Measurement × Except IoFault Unit)
  | 0, _ => return ([], .ok ())
  | times + 1, repetition => do
      match ← plan.measureOnce repetition with
      | (measurements, .error fault) => return (measurements, .error fault)
      | (measurements, .ok ()) =>
          let (later, written) ← plan.measureTimes times (repetition + 1)
          return (measurements ++ later, written)

/-- Restores the table and writes the summary. -/
def conclude (plan : Plan) (engine : EngineKind) (measurements : List Measurement) :
    Printing Summary := do
  Configuration.reset engine plan.table
  let summary := Summary.ofReadings (measurements.map Measurement.reading)
  print summary.report
  note (.runFinished summary.queries summary.totalElapsed)
  return summary

/-- A failure of the console as a failure. -/
def failed {α : Type} : Except IoFault α → Except Failure α
  | .ok value => .ok value
  | .error fault => .error (.io fault)

/-- What a session does between its beginning and its end. -/
def body (plan : Plan) : Script (List Measurement × Except IoFault Unit) := do
  if plan.warmup then plan.warmUp
  plan.measureTimes plan.repetitions 0

/-- Runs a plan on an open connection. -/
def runOn (plan : Plan) (engine : EngineKind) : Script Outcome := do
  note (.runStarted plan.table plan.catalog.length plan.repetitions plan.shape)
  match ← (Configuration.configure engine plan.table plan.selected).run with
  | .error fault => return ⟨[], .error (.io fault)⟩
  | .ok () =>
      match ← plan.body with
      | (measurements, .error fault) =>
          Configuration.abandon engine plan.table
          return ⟨measurements, .error (.io fault)⟩
      | (measurements, .ok ()) =>
          let result ← (plan.conclude engine measurements).run
          return ⟨measurements, failed result⟩

/-- Connects, runs a plan and closes the connection, whatever becomes of the
run. -/
def run (plan : Plan) (engine : EngineKind) (address : Address) :
    Script (Except Failure Outcome) := do
  match ← perform (.connect address) with
  | .error failure => return .error failure
  | .ok () =>
      let outcome ← plan.runOn engine
      let _ ← attempt .closeConnection .close
      return .ok outcome

end Plan
end IndexBench
