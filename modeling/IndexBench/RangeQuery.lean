import IndexBench.Glob
import IndexBench.Text.Integer

/-!
# Range queries

A benchmark case asks for the rows of a table whose path matches a glob and
whose value lies in an inclusive range.  The bounds are taken as they are, also
when the lower one lies above the upper one.
-/

namespace IndexBench

/-- A path glob and an inclusive range of values. -/
structure RangeQuery where
  pattern : String
  low : Int64
  high : Int64
  deriving DecidableEq, Repr

namespace RangeQuery

/-- The matcher of the glob. -/
def matcher (query : RangeQuery) : String :=
  Glob.compile query.pattern

/-- The text of a query, which is also its record in a catalog. -/
def render (query : RangeQuery) : String :=
  query.pattern ++ ";" ++ Integer.render query.low ++ ";" ++ Integer.render query.high

end RangeQuery
end IndexBench
