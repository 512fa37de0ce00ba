import IndexBench.Text.Integer

/-!
# Rows

The rows of the benchmarked table: a path, the value stored under it and the
revision that put it there.
-/

namespace IndexBench

/-- A row of the benchmarked table. -/
structure Row where
  path : String
  value : Int64
  /-- Empty where the source has none. -/
  revision : String
  deriving DecidableEq, Repr

end IndexBench
