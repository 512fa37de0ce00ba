import IndexBench.IndexOrder
import IndexBench.Row

/-!
# Requests to an engine

A benchmark never stores or plans anything itself: all that it needs from a
database is one of ten requests, each answered in one round.

Main definitions:

- `Selector` is the part of a query that a database evaluates.
- `Request` is the language of requests, `Request.Reply` the type of a reply.
- `Request.describe` is the text under which a request is recorded.
-/

namespace IndexBench

/-- The kinds of engine. -/
inductive EngineKind where
  /-- A store inside the program. -/
  | embedded
  /-- A database server. -/
  | server
  deriving DecidableEq, Repr

/-- The name of a kind of engine. -/
def EngineKind.label : EngineKind → String
  | .embedded => "sqlite"
  | .server => "postgres"

/-- A matcher for paths and an inclusive range of values. -/
structure Selector where
  matcher : String
  low : Int64
  high : Int64
  deriving DecidableEq, Repr

/-- A request to an engine. -/
inductive Request where
  /-- Allows or forbids plans that scan a whole table. -/
  | setScanFallback (enabled : Bool)
  /-- Marks an index as usable or unusable. -/
  | setIndexEligible (index : String) (eligible : Bool)
  /-- Asks whether scans are allowed. -/
  | scanFallback
  /-- Asks whether an index is usable. -/
  | indexEligibility (index : String)
  /-- Counts the selected rows by an aggregate. -/
  | countMatches (table : TableName) (selector : Selector)
  /-- Counts the selected rows by fetching them. -/
  | enumerateMatches (table : TableName) (selector : Selector)
  /-- Drops a table, if there is one, and creates it empty. -/
  | recreateTable (table : TableName)
  /-- Appends rows to a table. -/
  | insertRows (table : TableName) (rows : List Row)
  /-- Builds a composite index. -/
  | createIndex (table : TableName) (order : IndexOrder)
  /-- Releases the connection. -/
  | close
  deriving DecidableEq, Repr

namespace Request

/-- What a successful request answers: settings as text, numbers of rows, or
nothing. -/
abbrev Reply : Request → Type
  | scanFallback => Option String
  | indexEligibility _ => Option String
  | countMatches _ _ => Nat
  | enumerateMatches _ _ => Nat
  | insertRows _ _ => Nat
  | setScanFallback _ => Unit
  | setIndexEligible _ _ => Unit
  | recreateTable _ => Unit
  | createIndex _ _ => Unit
  | close => Unit

/-- The text of a truth value. -/
def flag (b : Bool) : String :=
  if b then "true" else "false"

/-- The text of a query. -/
def describeQuery (table : TableName) (selector : Selector) : String :=
  table.text ++ " " ++ Integer.render selector.low ++ " " ++ Integer.render selector.high ++ " " ++
    selector.matcher

/-- The text of a request. -/
def describe : Request → String
  | setScanFallback enabled => "set_scan_fallback " ++ flag enabled
  | setIndexEligible index eligible => "set_index_eligible " ++ index ++ " " ++ flag eligible
  | scanFallback => "scan_fallback_setting"
  | indexEligibility index => "index_eligibility " ++ index
  | countMatches table selector => "count_matches " ++ describeQuery table selector
  | enumerateMatches table selector => "enumerate_matches " ++ describeQuery table selector
  | recreateTable table => "recreate_table " ++ table.text
  | insertRows table rows => "insert_records " ++ table.text ++ " " ++ Natural.render rows.length
  | createIndex table order => "create_index " ++ table.text ++ " " ++ order.tag
  | close => "close"

end Request
end IndexBench
