import IndexBench.Store.Database
import IndexBench.Store.Locator

/-!
# Databases in files

A file keeps its database by itself or together with a log, to which changes go
first.  Whoever reads the file without the log misses what is in there only.

Main definitions:

- `Kept` is a database that a file keeps.
- `Kept.change` changes it, `Kept.settle` moves all changes from the log to the file.
- `Kept.enter` is how it is found by a connection that opens it.

Main results:

- Theorems `Kept.database_change` and `Kept.database_settle`: the database is what it was changed
  to, wherever its changes are.
- Theorem `Kept.enter_ok_database`: whoever opens a database leaves it as it is.
-/

namespace IndexBench
namespace Store

/-- How changes are kept from being done by halves. -/
inductive Journal where
  /-- What is changed is written down beforehand. -/
  | rollback
  /-- Changes go to a log first. -/
  | log
  deriving DecidableEq, Repr

/-- The name of a journal. -/
def Journal.tag : Journal → String
  | .rollback => "rollback"
  | .log => "log"

/-- The journal of a name. -/
def Journal.ofTag? : String → Option Journal
  | "rollback" => some .rollback
  | "log" => some .log
  | _ => none

/-- A journal is found by its name. -/
@[simp]
theorem Journal.ofTag?_tag (journal : Journal) : Journal.ofTag? journal.tag = some journal := by
  cases journal <;> rfl

/-- A database that a file keeps. -/
structure Kept where
  database : Database
  journal : Journal
  /-- What there is of the database without the log. -/
  settled : Database
  deriving DecidableEq, Repr

namespace Kept

/-- A database that has just been made. -/
def fresh : Kept :=
  ⟨.empty, .rollback, .empty⟩

/-- Changes a database. -/
def change (kept : Kept) (database : Database) : Kept :=
  match kept.journal with
  | .rollback => ⟨database, .rollback, database⟩
  | .log => { kept with database := database }

/-- Moves all changes from the log to the file. -/
def settle (kept : Kept) : Kept :=
  { kept with settled := kept.database }

/-- What a connection sees that takes no notice of the log: the tables that the
file knows of, with the rows that are there when they are asked for. -/
def withoutLog (kept : Kept) : Database :=
  ⟨kept.settled.tables.map fun table =>
    match kept.database.find? table.name with
    | some current => { table with rows := current.rows }
    | none => table⟩

/-- How a connection finds a database that it opens: a database without a log
gets one, unless the connection has no use for it.  `hasRoom` tells whether there
can be a log beside the file. -/
def enter (kept : Kept) (locator : Locator) (hasRoom : Bool) : Except StoreFault Kept :=
  if locator.frozen then .ok kept
  else
    match kept.journal, locator.sharesLog with
    | .log, true => .ok kept
    | .log, false => .error .cannotLog
    | .rollback, false => .ok kept
    | .rollback, true =>
        if locator.readOnly then .error .readOnly
        else if hasRoom then .ok { kept with journal := .log }
        else .error .cannotLog

/-- A database is what it was changed to. -/
@[simp]
theorem database_change (kept : Kept) (database : Database) :
    (kept.change database).database = database := by
  unfold change
  split <;> rfl

/-- The file and the log keep the same database, wherever its changes are. -/
@[simp]
theorem database_settle (kept : Kept) : kept.settle.database = kept.database :=
  rfl

/-- Whoever opens a database leaves it as it is. -/
theorem enter_ok_database {kept entered : Kept} {locator : Locator} {hasRoom : Bool}
    (h : kept.enter locator hasRoom = .ok entered) : entered.database = kept.database := by
  unfold enter at h
  split at h
  · cases h; rfl
  · split at h
    · cases h; rfl
    · cases h
    · cases h; rfl
    · split at h
      · cases h
      · split at h <;> cases h
        rfl

end Kept
end Store
end IndexBench
