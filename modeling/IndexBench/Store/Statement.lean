import IndexBench.IndexOrder

/-!
# Statements of the store

The texts of the statements that the store executes.  A refusal for a reserved
word quotes the statement and the place of the word in it.
-/

namespace IndexBench
namespace Store
namespace Statement

/-- The start of a statement that counts, up to the name of its table. -/
def countHead : String :=
  "SELECT COUNT(*) FROM "

/-- The start of a statement that enumerates, up to the name of its table. -/
def enumerateHead : String :=
  "SELECT kpath, kvalue FROM "

/-- The condition of a query. -/
def condition : String :=
  " WHERE kpath REGEXP ?1 AND kvalue BETWEEN ?2 AND ?3"

/-- The end of a query, from the name of its table on. -/
def queryTail (table : String) (hint : Option String) : String :=
  table ++ (match hint with | some index => " INDEXED BY " ++ index | none => "") ++ condition

/-- The start of the statement that drops a table, up to its name. -/
def dropHead : String :=
  "DROP TABLE IF EXISTS "

/-- The start of the statement that creates a table, up to its columns. -/
def createHead (table : String) : String :=
  "\n             CREATE TABLE " ++ table ++ " "

/-- The statement that creates a table. -/
def create (table : String) : String :=
  createHead table ++ "(\n                kpath TEXT,\n                kvalue BIGINT,\n" ++
    "                revision TEXT\n             );"

/-- The statements that create a table anew. -/
def recreate (table : String) : String :=
  dropHead ++ table ++ ";" ++ create table

/-- The start of the statement that inserts a row, up to the name of its table. -/
def insertHead : String :=
  "INSERT INTO "

/-- The statement that inserts a row. -/
def insert (table : String) : String :=
  insertHead ++ table ++ " (kpath, kvalue, revision) VALUES (?1, ?2, ?3)"

/-- The start of the statement that builds an index, up to the name of its
table. -/
def createIndexHead (index : String) : String :=
  "CREATE INDEX " ++ index ++ " ON "

/-- The statement that builds an index. -/
def createIndex (table index columns : String) : String :=
  createIndexHead index ++ table ++ " (" ++ columns ++ ")"

end Statement
end Store
end IndexBench
