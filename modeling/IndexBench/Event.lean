import IndexBench.Measurement

/-!
# Events

A run notes what it does, and every failure that does not end it, as events.
The console shows none of them.

Main definitions:

- `Event` is what can be noted.
- `Event.level` is the weight of an event, `Event.render` its text.
-/

namespace IndexBench

/-- The weight of an event, heaviest first. -/
inductive Level where
  | error
  | warn
  | info
  | debug
  | trace
  deriving DecidableEq, Repr

namespace Level

/-- The place of a level, the heaviest first. -/
def rank : Level → Nat
  | .error => 0
  | .warn => 1
  | .info => 2
  | .debug => 3
  | .trace => 4

/-- The name of a level. -/
def label : Level → String
  | .error => "ERROR"
  | .warn => "WARN"
  | .info => "INFO"
  | .debug => "DEBUG"
  | .trace => "TRACE"

/-- Reads the name of a level in lower case. -/
def ofName? (name : String) : Option Level :=
  if name = "error" then some .error
  else if name = "warn" then some .warn
  else if name = "info" then some .info
  else if name = "debug" then some .debug
  else if name = "trace" then some .trace
  else none

/-- Whether an event of level `level` is shown under a threshold. -/
def shows (threshold level : Level) : Bool :=
  level.rank ≤ threshold.rank

end Level

/-- What a statement that failed was for. -/
inductive Purpose where
  | disableScan
  | enableScan
  | setEligible (index : String) (eligible : Bool)
  | readScan
  | readEligibility (index : String)
  | measure (place : Nat) (query : RangeQuery)
  | warmUp (place : Nat) (query : RangeQuery)
  | closeConnection
  deriving DecidableEq, Repr

/-- The wording of a purpose. -/
def Purpose.describe : Purpose → String
  | disableScan => "disable scan fallback"
  | enableScan => "enable scan fallback"
  | setEligible index eligible => "set " ++ index ++ " eligible=" ++ Request.flag eligible
  | readScan => "read scan fallback"
  | readEligibility index => "read " ++ index ++ " eligibility"
  | measure place query => "query Q" ++ Natural.render place ++ " (" ++ query.render ++ ")"
  | warmUp place query => "warm-up Q" ++ Natural.render place ++ " (" ++ query.render ++ ")"
  | closeConnection => "close connection"

/-- Something that a run notes. -/
inductive Event where
  /-- A statement failed and the run goes on. -/
  | failed (purpose : Purpose) (failure : Failure)
  | runStarted (table : TableName) (queries repetitions : Nat) (shape : QueryShape)
  | configuring (engine : EngineKind) (table : TableName) (selected : IndexOrder)
  | restoring (engine : EngineKind) (table : TableName)
  /-- A run ends without having restored its table. -/
  | abandoned (table : TableName)
  | warmingUp (queries : Nat)
  | warmedUp (place : Nat) (reading : Reading)
  | executed (query : RangeQuery) (reading : Reading)
  | repetitionFinished (repetition : Nat)
  | runFinished (queries total : Nat)
  | exported (path : String) (rows : Nat)
  | catalogLoaded (path : String) (queries : Nat)
  | creatingTable (engine : EngineKind) (table : TableName)
  | importing (table : TableName) (batch : Nat)
  | imported (table : TableName) (rows : Nat)
  | creatingIndex (table : TableName) (order : IndexOrder)
  | tableReady (table : TableName)
  | closeFailed (failure : Failure)
  | batchInserted (table : TableName) (rows : Nat)
  | serverConnected
  | serverDisconnected
  deriving DecidableEq, Repr

namespace Event

/-- The weight of an event. -/
def level : Event → Level
  | failed _ _ => .error
  | abandoned _ => .warn
  | closeFailed _ => .warn
  | runStarted _ _ _ _ => .info
  | configuring _ _ _ => .info
  | restoring _ _ => .info
  | warmingUp _ => .info
  | runFinished _ _ => .info
  | creatingTable _ _ => .info
  | importing _ _ => .info
  | imported _ _ => .info
  | creatingIndex _ _ => .info
  | tableReady _ => .info
  | warmedUp _ _ => .debug
  | repetitionFinished _ => .debug
  | exported _ _ => .debug
  | catalogLoaded _ _ => .debug
  | batchInserted _ _ => .debug
  | serverConnected => .debug
  | serverDisconnected => .debug
  | executed _ _ => .trace

/-- The message of an event. -/
def message : Event → String
  | failed purpose _ => purpose.describe ++ " failed"
  | runStarted _ _ _ _ => "starting benchmark"
  | configuring _ _ _ => "configuring indexes"
  | restoring _ _ => "resetting indexes"
  | abandoned _ => "run ended before reset; restoring index configuration"
  | warmingUp _ => "warming up"
  | warmedUp _ _ => "warm-up query"
  | executed _ _ => "query executed"
  | repetitionFinished _ => "repetition finished"
  | runFinished _ _ => "benchmark finished"
  | exported _ _ => "results exported"
  | catalogLoaded _ _ => "catalog loaded"
  | creatingTable _ _ => "creating table"
  | importing _ _ => "importing data"
  | imported _ _ => "import finished"
  | creatingIndex _ _ => "creating B+ tree"
  | tableReady _ => "table ready"
  | closeFailed _ => "closing connection failed"
  | batchInserted _ _ => "sqlite batch inserted"
  | serverConnected => "postgres connection established"
  | serverDisconnected => "postgres connection closed"

/-- The text of a selection of indexes. -/
def selectionText (selected : IndexOrder) : String :=
  "IndexSelection \x7b use_value_path: " ++ Request.flag (selected.enables .valueFirst) ++
    ", use_path_value: " ++ Request.flag (selected.enables .pathFirst) ++ " \x7d"

/-- The text of a reading. -/
def readingText (reading : Reading) : String :=
  "QueryResult \x7b elapsed_ms: " ++ Natural.render reading.elapsed ++ ", match_count: " ++
    Natural.render reading.count ++ " \x7d"

/-- What an event adds to its message.  Times and places in the file system
differ from run to run and are left out. -/
def details : Event → List (String × String)
  | failed _ failure => [("error", failure.report)]
  | runStarted table queries repetitions shape =>
      [("table", table.text), ("queries", Natural.render queries),
        ("repetitions", Natural.render repetitions), ("executor", shape.label)]
  | configuring engine table selected =>
      [("engine", engine.label), ("table", table.text), ("selection", selectionText selected)]
  | restoring engine table => [("engine", engine.label), ("table", table.text)]
  | abandoned table => [("table", table.text)]
  | warmingUp queries => [("queries", Natural.render queries)]
  | warmedUp place reading =>
      [("index", Natural.render place), ("result", readingText reading)]
  | executed query reading =>
      [("query", query.render), ("matcher", query.matcher),
        ("match_count", Natural.render reading.count)]
  | repetitionFinished repetition => [("repetition", Natural.render repetition)]
  | runFinished queries total =>
      [("queries", Natural.render queries), ("total_ms", Natural.render total)]
  | exported _ rows => [("rows", Natural.render rows)]
  | catalogLoaded _ queries => [("queries", Natural.render queries)]
  | creatingTable engine table => [("engine", engine.label), ("table", table.text)]
  | importing table batch => [("table", table.text), ("batch_size", Natural.render batch)]
  | imported table rows => [("table", table.text), ("imported", Natural.render rows)]
  | creatingIndex table order => [("index", order.indexName table), ("columns", order.columns)]
  | tableReady table => [("table", table.text)]
  | closeFailed failure => [("error", failure.message)]
  | batchInserted table rows => [("table", table.text), ("rows", Natural.render rows)]
  | serverConnected => []
  | serverDisconnected => []

/-- The text of an event. -/
def render (event : Event) : String :=
  event.level.label ++ " " ++ event.message ++
    String.join (event.details.map fun (name, value) => " " ++ name ++ "=" ++ value)

end Event
end IndexBench
