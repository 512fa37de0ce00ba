import IndexBench.Engine.Request

/-!
# Statements to a server

Every request to a database server is one statement, or two.  Only names of
tables and indexes are spliced into a statement; all values travel beside it.

Main definitions:

- `Server.Statement` is a text with its parameters.
- `Server.Statement.ofRequest` lists the statements of a request.
-/

namespace IndexBench
namespace Server

/-- A value that travels beside a statement. -/
inductive Parameter where
  | boolean (value : Bool)
  | integer (value : Int64)
  | text (value : String)
  | integers (values : List Int64)
  | texts (values : List String)
  deriving DecidableEq, Repr

/-- A statement with its parameters, in order. -/
structure Statement where
  text : String
  parameters : List Parameter
  deriving DecidableEq, Repr

namespace Statement

/-- Allows or forbids scans. -/
def setScan (enabled : Bool) : Statement :=
  ⟨"SELECT set_config('enable_seqscan', $1, false)", [.text (if enabled then "on" else "off")]⟩

/-- Asks whether scans are allowed. -/
def showScan : Statement :=
  ⟨"SELECT current_setting('enable_seqscan')", []⟩

/-- Marks an index. -/
def setEligible (index : String) (eligible : Bool) : Statement :=
  ⟨"UPDATE pg_index SET indisvalid = $1 WHERE indexrelid = $2::text::regclass",
    [.boolean eligible, .text index]⟩

/-- Asks for the mark of an index. -/
def showEligible (index : String) : Statement :=
  ⟨"SELECT indisvalid FROM pg_index WHERE indexrelid = $1::text::regclass", [.text index]⟩

/-- A query for certain columns. -/
def query (columns : String) (table : TableName) (selector : Selector) : Statement :=
  ⟨"SELECT " ++ columns ++ " FROM " ++ table.text ++
      " WHERE kpath ~ $1 AND kvalue BETWEEN $2 AND $3",
    [.text selector.matcher, .integer selector.low, .integer selector.high]⟩

/-- Counts the selected rows. -/
def count (table : TableName) (selector : Selector) : Statement :=
  query "COUNT(*)" table selector

/-- Fetches the selected rows. -/
def enumerate (table : TableName) (selector : Selector) : Statement :=
  query "kpath, kvalue" table selector

/-- Drops a table. -/
def drop (table : TableName) : Statement :=
  ⟨"DROP TABLE IF EXISTS " ++ table.text, []⟩

/-- Creates a table. -/
def create (table : TableName) : Statement :=
  ⟨"CREATE UNLOGGED TABLE " ++ table.text ++ " (kpath TEXT, kvalue BIGINT, revision TEXT)", []⟩

/-- Inserts rows, column by column. -/
def insert (table : TableName) (rows : List Row) : Statement :=
  ⟨"INSERT INTO " ++ table.text ++ " (kpath, kvalue, revision) " ++
      "SELECT * FROM UNNEST($1::text[], $2::int8[], $3::text[])",
    [.texts (rows.map Row.path), .integers (rows.map Row.value), .texts (rows.map Row.revision)]⟩

/-- Builds an index. -/
def createIndex (table : TableName) (order : IndexOrder) : Statement :=
  ⟨"CREATE INDEX " ++ order.indexName table ++ " ON " ++ table.text ++ " USING btree (" ++
      order.columns ++ ") WITH (FILLFACTOR = 100)", []⟩

/-- The statements of a request, each sent only if those before it succeed. -/
def ofRequest : Request → List Statement
  | .setScanFallback enabled => [setScan enabled]
  | .setIndexEligible index eligible => [setEligible index eligible]
  | .scanFallback => [showScan]
  | .indexEligibility index => [showEligible index]
  | .countMatches table selector => [count table selector]
  | .enumerateMatches table selector => [enumerate table selector]
  | .recreateTable table => [drop table, create table]
  | .insertRows table rows => [insert table rows]
  | .createIndex table order => [createIndex table order]
  | .close => []

end Statement
end Server
end IndexBench
