import IndexBench.FileState
import IndexBench.RangeQuery
import IndexBench.Record.Cursor

/-!
# Query catalogs

A catalog lists range queries, one record `<pattern>;<low>;<high>` each, in the
order in which they run.  One bad record fails the whole catalog.

Main definitions:

- `RangeQuery.ofRecord` reads one record.
- `Catalog.read` reads a catalog from bytes.
-/

namespace IndexBench

/-- Reads the number in a field called `what` of a record on `line`. -/
def readNumber (line : Nat) (what text : String) : Except Failure Int64 :=
  match Integer.parse text with
  | .ok value => .ok value
  | .error fault => .error (.format line (.number what text fault))

/-- Reads a catalog record: its text, its number of fields, then its bounds. -/
def RangeQuery.ofRecord (record : RawRecord) : Except Failure RangeQuery :=
  match record.decode with
  | .error fault => .error (.record fault)
  | .ok [pattern, low, high] => do
      let low ← readNumber record.line "low bound" low
      let high ← readNumber record.line "high bound" high
      return ⟨pattern, low, high⟩
  | .ok fields => .error (.format record.line (.catalogFields fields.length))

/-- The queries of a run, in their order. -/
abbrev Catalog := List RangeQuery

namespace Catalog

/-- Reads a catalog, or names the first record at fault. -/
def read (bytes : List UInt8) : Except Failure Catalog :=
  (Cursor.ofBytes bytes).records.mapM RangeQuery.ofRecord

/-- Reads a catalog file.  A directory opens like a file and fails when it is
read. -/
def ofFile : FileState → Except Failure Catalog
  | .file bytes => read bytes
  | .directory => .error (.record (.io .isDirectory))
  | .absent => .error (.io .notFound)
  | .blocked => .error (.io .notDirectory)
  | .tooLong => .error (.io .nameTooLong)

end Catalog
end IndexBench
