import IndexBench.Plan

/-!
# Exports

The measurements of a run as a table of text: a header, then one record per
measurement, with semicolons between fields.  A field is put in quotes if it
holds a semicolon, a quote or the end of a line, and a quote inside is doubled.

Main definitions:

- `Export.field` writes a field, `Export.record` a record.
- `Export.table` is the text of a run, `Export.save` writes it to a file.
-/

namespace IndexBench
namespace Export

/-! ## Records -/

/-- Whether a character puts its field in quotes. -/
def needsQuotes (c : Char) : Bool :=
  c == ';' || c == '"' || c == '\n' || c == '\r'

/-- Doubles every quote. -/
def doubleQuotes : List Char → List Char
  | [] => []
  | c :: rest => if c = '"' then '"' :: '"' :: doubleQuotes rest else c :: doubleQuotes rest

/-- The text of a field. -/
def field (cs : List Char) : List Char :=
  if cs.any needsQuotes then '"' :: (doubleQuotes cs ++ ['"']) else cs

/-- The text of a record. -/
def record (fields : List String) : List Char :=
  [';'].intercalate (fields.map fun f => field f.toList) ++ ['\n']

/-! ## Runs -/

/-- The names of the fields. -/
def header : List String :=
  ["repetition", "query", "pattern", "low", "high", "match_count", "elapsed_ms"]

/-- The fields of a measurement of a query. -/
def fields (measurement : Measurement) (query : RangeQuery) : List String :=
  [ Natural.render measurement.repetition,
    Natural.render measurement.query,
    query.pattern,
    Integer.render query.low,
    Integer.render query.high,
    Natural.render measurement.reading.count,
    Natural.render measurement.reading.elapsed ]

/-- The record of a measurement, if the catalog has its query. -/
def row (catalog : Catalog) (measurement : Measurement) : List Char :=
  match catalog[measurement.query]? with
  | some query => record (fields measurement query)
  | none => []

/-- The text of a run; without measurements there is no header either. -/
def table (catalog : Catalog) (measurements : List Measurement) : List Char :=
  if measurements.isEmpty then []
  else record header ++ measurements.flatMap (row catalog)

/-- Writes a run to a file. -/
def save (path : String) (catalog : Catalog) (measurements : List Measurement) :
    Script (Except Failure Unit) := do
  let text := String.ofList (table catalog measurements)
  match ← Script.perform (.save path (Utf8.encode text)) with
  | .error fault => return .error (.record (.io fault))
  | .ok () =>
      Script.note (.exported path measurements.length)
      return .ok ()

end Export
end IndexBench
