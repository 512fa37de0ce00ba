import IndexBench.Failure

/-!
# Values of settings documents

A settings document is a table of values, some of which are tables again.  How a
table came about decides how it may be extended later.

Main definitions:

- `Toml.Value` is a value, `Toml.Origin` how a table came about.
- `Toml.insertAt` and `Toml.openAt` extend a table of entries along a path.
-/

namespace IndexBench
namespace Toml

/-- How a table came about. -/
inductive Origin where
  /-- By a header of its own. -/
  | header
  /-- On the way to the table of another header. -/
  | passing
  /-- By a key with dots. -/
  | dotted
  /-- By braces, which close it for good. -/
  | braces
  deriving DecidableEq, Repr

/-- A value. -/
inductive Value where
  | string (text : String)
  | integer (value : Int64)
  | float
  | boolean (value : Bool)
  | datetime
  | array (items : List Value)
  /-- An array of tables, which headers extend; the last table first. -/
  | tables (items : List (List (String × Value)))
  | table (origin : Origin) (entries : List (String × Value))
  deriving Repr

/-- The entries of a table, in order. -/
abbrev Entries : Type := List (String × Value)

/-- Puts an entry in place of one with the same key, or at the end. -/
def put (key : String) (value : Value) : Entries → Entries
  | [] => [(key, value)]
  | (k, v) :: entries =>
      if k = key then (key, value) :: entries else (k, v) :: put key value entries

/-- Changes the table at the end of a path, making the tables on the way if they
are missing; `change` is told how the table came about. -/
def descend (make : Origin) (through : Origin → Bool)
    (change : Origin → Entries → Except DocumentFault Entries) (origin : Origin) :
    List String → Entries → Except DocumentFault Entries
  | [], entries => change origin entries
  | key :: path, entries =>
      match entries.lookup key with
      | none => do
          let inner ← descend make through change make path []
          return put key (.table make inner) entries
      | some (.table origin inner) =>
          if through origin then do
            let inner ← descend make through change origin path inner
            return put key (.table origin inner) entries
          else .error (.duplicate key)
      | some (.tables (last :: others)) => do
          let last ← descend make through change .header path last
          return put key (.tables (last :: others)) entries
      | some _ => .error (.duplicate key)

/-- Adds an entry at the end of a dotted path.  Tables on the way that a header
made are closed to dotted keys, and so is, for its own entries, one that a longer
header passed through. -/
def insertAt (path : List String) (key : String) (value : Value) (entries : Entries) :
    Except DocumentFault Entries :=
  descend .dotted (fun origin => origin == .dotted || origin == .passing)
    (fun origin inner =>
      if (origin == .dotted) != !path.isEmpty then .error (.duplicate key)
      else if (inner.lookup key).isSome then .error (.duplicate key)
      else .ok (put key value inner))
    .header path entries

/-- Opens the table of a header, which may have been passed through before but
not opened. -/
def openTable (key : String) (inner : Entries) : Except DocumentFault Entries :=
  match inner.lookup key with
  | none => .ok (put key (.table .header []) inner)
  | some (.table .passing entries) =>
      .ok (put key (.table .header entries) (inner.filter fun entry => entry.1 != key))
  | some _ => .error (.duplicate key)

/-- Adds a table to the array of a header. -/
def openElement (key : String) (inner : Entries) : Except DocumentFault Entries :=
  match inner.lookup key with
  | none => .ok (put key (.tables [[]]) inner)
  | some (.tables items) => .ok (put key (.tables ([] :: items)) inner)
  | some _ => .error (.duplicate key)

/-- Opens the table, or the next table of the array, of a header. -/
def openAt (element : Bool) (path : List String) (key : String) (entries : Entries) :
    Except DocumentFault Entries :=
  descend .passing (fun origin => origin != .braces)
    (fun _ inner => if element then openElement key inner else openTable key inner)
    .header path entries

/-- Changes the table that a header has opened. -/
def withinHeader (path : List String)
    (change : Entries → Except DocumentFault Entries) (entries : Entries) :
    Except DocumentFault Entries :=
  descend .passing (fun origin => origin != .braces) (fun _ inner => change inner)
    .header path entries

end Toml
end IndexBench
