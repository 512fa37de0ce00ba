import IndexBench.Script

/-!
# Index configuration

For the length of a run, plans that scan are forbidden and one of the two
indexes of a table is eligible.  Statements that fail are noted and skipped, so
only the console can end a configuration.

Main definitions:

- `Configuration.configure` begins a session, `Configuration.reset` ends it.
- `Configuration.abandon` ends a session whose console failed.
- `Configuration.report` writes the configuration as the engine reports it.
-/

namespace IndexBench

namespace Configuration

open Script

/-! ## The report -/

/-- The start of the line of the scan setting. -/
def scanLabel : String := "enable_seqscan: "

/-- The start of the line of an index. -/
def indexLabel (index : String) : String :=
  index ++ " indisvalid: "

/-- Writes the line of a setting, if the engine reports a value. -/
def reportLine (label : String) : Option (Option String) → Printing Unit
  | some (some value) => print (label ++ value ++ "\n")
  | _ => pure ()

/-- Writes whether scans are allowed. -/
def reportScan : Printing Unit := do
  reportLine scanLabel (← attempt .readScan .scanFallback)

/-- Writes whether the index of an order is eligible. -/
def reportIndex (table : TableName) (order : IndexOrder) : Printing Unit := do
  let index := order.indexName table
  reportLine (indexLabel index) (← attempt (.readEligibility index) (.indexEligibility index))

/-- Writes the configuration of a table and a blank line. -/
def report (table : TableName) : Printing Unit := do
  print "Configuration:\n"
  reportScan
  IndexOrder.reportSequence.forM (reportIndex table)
  print "\n"

/-! ## Sessions -/

/-- Makes the index of an order eligible or not. -/
def setEligible (table : TableName) (eligible : Bool) (order : IndexOrder) : Script Unit := do
  let index := order.indexName table
  let _ ← attempt (.setEligible index eligible) (.setIndexEligible index eligible)

/-- Forbids scans and leaves only the selected index eligible. -/
def select (engine : EngineKind) (table : TableName) (selected : IndexOrder) : Script Unit := do
  note (.configuring engine table selected)
  let _ ← attempt .disableScan (.setScanFallback false)
  IndexOrder.reportSequence.forM fun order => setEligible table (selected.enables order) order

/-- Makes both indexes eligible and allows scans. -/
def restore (engine : EngineKind) (table : TableName) : Script Unit := do
  note (.restoring engine table)
  IndexOrder.reportSequence.reverse.forM (setEligible table true)
  let _ ← attempt .enableScan (.setScanFallback true)

/-- Ends a session without a report. -/
def abandon (engine : EngineKind) (table : TableName) : Script Unit := do
  note (.abandoned table)
  restore engine table

/-- Begins a session and reports it.  If the report fails the session has ended. -/
def configure (engine : EngineKind) (table : TableName) (selected : IndexOrder) :
    Printing Unit := do
  select engine table selected
  try report table
  catch fault =>
    abandon engine table
    throw fault

/-- Ends a session and reports what it leaves. -/
def reset (engine : EngineKind) (table : TableName) : Printing Unit := do
  restore engine table
  report table

end Configuration
end IndexBench
