import IndexBench.IndexOrder
import IndexBench.Row
import IndexBench.Store.Name

/-!
# Databases of the store

A database is a list of tables, each with its rows in the order of insertion
and with its indexes.  The names of tables and indexes share one space.

Main definitions:

- `Database` is a database; `Database.find?` looks up a table by name.
- `Database.drop`, `Database.create` and `Database.modify` change it.

Main results:

- Theorem `Database.find?_drop`: dropping a table leaves every table of another name.
- Theorem `Database.find?_create`: a new table is found after those that were there.
- Theorem `lookup_filter_ne`: entries of other keys stay when those of one are taken out.
-/

namespace IndexBench
namespace Store

/-- An index of a table. -/
structure Index where
  name : String
  order : IndexOrder
  deriving DecidableEq, Repr

/-- A table with its rows and indexes. -/
structure Table where
  /-- The name as it was created. -/
  name : String
  rows : List Row
  indexes : List Index
  deriving DecidableEq, Repr

namespace Table

/-- The index called `name`. -/
def index? (table : Table) (name : String) : Option Index :=
  table.indexes.find? fun index => sameName index.name name

/-- The index of an order. -/
def indexOf? (table : Table) (order : IndexOrder) : Option Index :=
  table.indexes.find? fun index => index.order == order

end Table

/-- The tables of a database, in the order of their creation. -/
structure Database where
  tables : List Table
  deriving DecidableEq, Repr

namespace Database

/-- The database without tables. -/
def empty : Database :=
  ⟨[]⟩

/-- The table called `name`. -/
def find? (database : Database) (name : String) : Option Table :=
  database.tables.find? fun table => sameName table.name name

/-- All indexes. -/
def indexes (database : Database) : List Index :=
  database.tables.flatMap fun table => table.indexes

/-- Whether there is an index called `name`. -/
def hasIndex (database : Database) (name : String) : Bool :=
  database.indexes.any fun index => sameName index.name name

/-- Whether there is an index created under exactly this name. -/
def hasIndexExactly (database : Database) (name : String) : Bool :=
  database.indexes.any fun index => index.name == name

/-- Drops the table called `name`, if there is one, and its indexes with it. -/
def drop (database : Database) (name : String) : Database :=
  ⟨database.tables.filter fun table => !sameName table.name name⟩

/-- Adds an empty table. -/
def create (database : Database) (name : String) : Database :=
  ⟨database.tables ++ [⟨name, [], []⟩]⟩

/-- Changes the table called `name`. -/
def modify (database : Database) (name : String) (f : Table → Table) : Database :=
  ⟨database.tables.map fun table => if sameName table.name name then f table else table⟩

/-! ## Tables by name -/

/-- A database without tables has none of any name. -/
@[simp]
theorem find?_empty (name : String) : empty.find? name = none :=
  rfl

/-- A table is found under its own name, up to case. -/
theorem sameName_of_find? {database : Database} {name : String} {table : Table}
    (h : database.find? name = some table) : sameName table.name name = true := by
  unfold find? at h
  exact List.find?_some (p := fun table : Table => sameName table.name name) h

/-- Dropping a table leaves every table of another name. -/
theorem find?_drop (database : Database) (dropped name : String) :
    (database.drop dropped).find? name =
      if sameName dropped name then none else database.find? name := by
  simp only [find?, drop, List.find?_filter]
  split
  · rename_i h
    rw [List.find?_eq_none]
    intro table _
    rw [sameName_comm table.name dropped, sameName_congr h, sameName_comm name]
    simp
  · rename_i h
    congr 1
    funext table
    by_cases ht : sameName table.name name = true
    · have : sameName table.name dropped = false := by
        rw [sameName_congr ht, sameName_comm]
        simpa using h
      simp [this, ht]
    · simp [ht]

/-- Dropping a table that is not there changes nothing. -/
theorem drop_of_find?_eq_none {database : Database} {name : String}
    (h : database.find? name = none) : database.drop name = database := by
  unfold find? at h
  rw [List.find?_eq_none] at h
  unfold drop
  congr 1
  rw [List.filter_eq_self]
  intro table htable
  simpa using h table htable

/-- A change that leaves every table as it is leaves the database as it is. -/
theorem modify_eq_self {database : Database} {name : String} {f : Table → Table}
    (h : ∀ table, f table = table) : database.modify name f = database := by
  simp [modify, h]

/-- A new table is found after those that were there. -/
theorem find?_create (database : Database) (created name : String) :
    (database.create created).find? name =
      (database.find? name).or
        (if sameName created name then some ⟨created, [], []⟩ else none) := by
  simp only [find?, create, List.find?_append]
  congr 1
  by_cases h : sameName created name = true <;> simp [h]

/-- A new table has no indexes. -/
@[simp]
theorem indexes_create (database : Database) (name : String) :
    (database.create name).indexes = database.indexes := by
  simp [create, indexes]

end Database

/-! ## Entries by key -/

/-- Taking out the entries of one key leaves those of every other. -/
theorem lookup_filter_ne {κ β : Type} [BEq κ] [LawfulBEq κ] {key other : κ} (h : other ≠ key)
    (entries : List (κ × β)) :
    (entries.filter fun entry => entry.1 != key).lookup other = entries.lookup other := by
  induction entries with
  | nil => rfl
  | cons entry entries ih =>
      obtain ⟨first, value⟩ := entry
      by_cases hfirst : first = key
      · have hother : (other == first) = false := by simpa [hfirst] using h
        rw [List.filter_cons_of_neg (by simp [hfirst]), ih, List.lookup_cons, hother]
      · rw [List.filter_cons_of_pos (by simpa using hfirst), List.lookup_cons, List.lookup_cons, ih]

end Store
end IndexBench
