import IndexBench.Measurement
import IndexBench.Text.Fixed

/-!
# Summaries

The totals and averages of the readings of a run.  An average is the total
divided by the number of readings, so without readings it is no number.
-/

namespace IndexBench

/-- Totals and averages of readings. -/
structure Summary where
  /-- Number of readings. -/
  queries : Nat
  /-- Milliseconds in all. -/
  totalElapsed : Nat
  /-- Matches in all. -/
  totalCount : Nat
  deriving DecidableEq, Repr

namespace Summary

/-- The sum of numbers. -/
def total : List Nat → Nat
  | [] => 0
  | n :: rest => n + total rest

/-- The sums of two lists add up. -/
@[simp]
theorem total_append (xs ys : List Nat) : total (xs ++ ys) = total xs + total ys := by
  induction xs with
  | nil => simp [total]
  | cons x xs ih => simp [total, ih, Nat.add_assoc]

/-- Sums up readings. -/
def ofReadings (readings : List Reading) : Summary where
  queries := readings.length
  totalElapsed := total (readings.map Reading.elapsed)
  totalCount := total (readings.map Reading.count)

/-- Seconds in all. -/
def totalSeconds (summary : Summary) : Float :=
  summary.totalElapsed.toFloat / 1000.0

/-- Milliseconds per reading. -/
def averageElapsed (summary : Summary) : Float :=
  summary.totalElapsed.toFloat / summary.queries.toFloat

/-- Seconds per reading. -/
def averageSeconds (summary : Summary) : Float :=
  summary.totalSeconds / summary.queries.toFloat

/-- Matches per reading. -/
def averageCount (summary : Summary) : Float :=
  summary.totalCount.toFloat / summary.queries.toFloat

/-- Decimal places of every fraction. -/
def places : Nat := 6

/-- The lines of the report. -/
def lines (summary : Summary) : List String :=
  [ "Totals:",
    "runtimeMs: " ++ Natural.render summary.totalElapsed,
    "runtimeS:  " ++ Fixed.render places summary.totalSeconds,
    "nrMatches: " ++ Natural.render summary.totalCount,
    "",
    "Averages:",
    "runtimeMs: " ++ Fixed.render places summary.averageElapsed,
    "runtimeS:  " ++ Fixed.render places summary.averageSeconds,
    "nrMatches: " ++ Fixed.render places summary.averageCount,
    "" ]

/-- The report. -/
def report (summary : Summary) : String :=
  String.join (summary.lines.map (· ++ "\n"))

end Summary
end IndexBench
