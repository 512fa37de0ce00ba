import IndexBench.Engine.Request
import IndexBench.RangeQuery

/-!
# Measurements

A query is executed in one of two shapes, and each execution yields a reading.
A measurement is a reading with its place in a run.
-/

namespace IndexBench

/-- The shape in which queries are executed. -/
inductive QueryShape where
  /-- One aggregate per query. -/
  | count
  /-- One row per match. -/
  | enumerate
  deriving DecidableEq, Repr

namespace QueryShape

/-- The name of a shape. -/
def label : QueryShape → String
  | .count => "Count"
  | .enumerate => "Enumerate"

/-- The name of a shape where it is asked for. -/
def tag : QueryShape → String
  | .count => "count"
  | .enumerate => "enumerate"

/-- Reads the name of a shape. -/
def ofTag? (tag : String) : Option QueryShape :=
  if tag = "count" then some .count
  else if tag = "enumerate" then some .enumerate
  else none

/-- The name of a shape reads as that shape. -/
@[simp]
theorem ofTag?_tag (shape : QueryShape) : ofTag? shape.tag = some shape := by
  cases shape <;> rfl

end QueryShape

/-- What a database evaluates of a query. -/
def RangeQuery.selector (query : RangeQuery) : Selector :=
  ⟨query.matcher, query.low, query.high⟩

/-- What one execution of a query yields. -/
structure Reading where
  /-- Whole milliseconds that the execution took. -/
  elapsed : Nat
  /-- Number of rows that matched. -/
  count : Nat
  deriving DecidableEq, Repr

/-- A reading with its place in a run, both counted from zero. -/
structure Measurement where
  repetition : Nat
  /-- The place of the query in the catalog. -/
  query : Nat
  reading : Reading
  deriving DecidableEq, Repr

/-- The line that a console shows for a reading. -/
def Reading.line (reading : Reading) (query : Nat) : String :=
  "Q" ++ Natural.render query ++ ";" ++ Natural.render reading.count ++ ";" ++
    Natural.render reading.elapsed ++ "\n"

end IndexBench
