import IndexBench.Export

/-!
# Series

A plan can be run again and again.  A series keeps the measurements of its
latest run: they are those of the part that was run if the run was cut short,
and a run that never connected leaves them as they were.

Main definitions:

- `Series` is a plan with the measurements of its latest run.
- `Series.runOn` and `Series.run` run the plan once more.
- `Series.summary` sums up the measurements and `Series.save` exports them.
-/

namespace IndexBench

/-- A plan with the measurements of its latest run. -/
structure Series where
  plan : Plan
  measurements : List Measurement

namespace Series

/-- A series that has not been run. -/
def unrun (plan : Plan) : Series :=
  ⟨plan, []⟩

/-- The series after a run. -/
def after (series : Series) (outcome : Outcome) : Series :=
  { series with measurements := outcome.measurements }

/-- Runs the plan on an open connection. -/
def runOn (series : Series) (engine : EngineKind) : Script (Except Failure Summary × Series) := do
  let outcome ← series.plan.runOn engine
  return (outcome.result, series.after outcome)

/-- Connects, runs the plan and closes the connection. -/
def run (series : Series) (engine : EngineKind) (address : Address) :
    Script (Except Failure Summary × Series) := do
  match ← series.plan.run engine address with
  | .error failure => return (.error failure, series)
  | .ok outcome => return (outcome.result, series.after outcome)

/-- Totals and averages of the measurements. -/
def summary (series : Series) : Summary :=
  Summary.ofReadings (series.measurements.map Measurement.reading)

/-- Exports the measurements to a file. -/
def save (series : Series) (path : String) : Script (Except Failure Unit) :=
  Export.save path series.plan.catalog series.measurements

end Series
end IndexBench
