import IndexBench.Store.Connection

/-!
# What requests make of a database

A database is made by requests from one without tables, over any connections and
with any switches.  Its tables have names that the store lets be queried.

Main definitions:

- `Database.Reached` says that requests lead to a database.
- `IsFree` says that a name is no word and no built-in table of the store.
- `Connection.after` is a connection after requests.

Main results:

- Theorem `Connection.named_answer`: a request gives no table a name that is not free.
- Theorem `Database.Reached.named`: every table that requests lead to has a free name.
-/

namespace IndexBench
namespace Store

/-! ## Free names -/

/-- Whether a name is neither a reserved word nor that of a built-in table. -/
def IsFree (name : String) : Prop :=
  isReserved name = false ∧ ∀ used, BuiltIn.find? used name = none

/-- Names that are the same are reserved alike. -/
theorem isReserved_congr {a b : String} (h : sameName a b = true) :
    isReserved a = isReserved b := by
  have hlower : lowerName a = lowerName b := by simpa [sameName] using h
  rw [isReserved, isReserved, hlower]

/-- A name is built in or not whichever tables of settings were used. -/
theorem BuiltIn.find?_eq_none_iff {used : List String} {name : String} :
    BuiltIn.find? used name = none ↔
      schemaName? name = none ∧ computedNames.find? (sameName name) = none ∧
        isSetting name = false := by
  unfold find? computedName?
  cases schemaName? name with
  | some schema => simp
  | none =>
      cases computedNames.find? (sameName name) with
      | some computed => simp
      | none => cases isSetting name <;> simp

/-- A name that is not built in for one connection is so for none. -/
theorem BuiltIn.find?_eq_none_of {used : List String} {name : String}
    (h : BuiltIn.find? used name = none) (other : List String) :
    BuiltIn.find? other name = none :=
  find?_eq_none_iff.mpr (find?_eq_none_iff.mp h)

/-- Names that are the same are built in alike. -/
theorem BuiltIn.find?_eq_none_congr {a b : String} (h : sameName a b = true)
    (used : List String) : BuiltIn.find? used a = none ↔ BuiltIn.find? used b = none := by
  have hsame : sameName a = sameName b := funext (sameName_congr h)
  rw [find?_eq_none_iff, find?_eq_none_iff, schemaName?, schemaName?, isSetting, isSetting, hsame]

/-- Names that are the same are free alike. -/
theorem isFree_congr {a b : String} (h : sameName a b = true) : IsFree a ↔ IsFree b := by
  rw [IsFree, IsFree, isReserved_congr h]
  exact and_congr_right fun _ => forall_congr' (BuiltIn.find?_eq_none_congr h)

/-! ## Databases -/

namespace Database

/-- Whether all tables have free names. -/
def Named (database : Database) : Prop :=
  ∀ table ∈ database.tables, IsFree table.name

/-- Dropping a table names none. -/
theorem Named.drop {database : Database} (h : database.Named) (name : String) :
    (database.drop name).Named := by
  intro table htable
  exact h table (List.mem_filter.mp htable).1

/-- A new table may have a free name. -/
theorem Named.create {database : Database} (h : database.Named) {name : String}
    (hname : IsFree name) : (database.create name).Named := by
  intro table htable
  rcases List.mem_append.mp htable with hold | hnew
  · exact h table hold
  · rw [List.mem_singleton.mp hnew]
    exact hname

/-- Changing the rows or indexes of a table does not rename it. -/
theorem Named.modify {database : Database} (h : database.Named) (name : String)
    {f : Table → Table} (hf : ∀ table, (f table).name = table.name) :
    (database.modify name f).Named := by
  intro table htable
  obtain ⟨old, hold, rfl⟩ := List.mem_map.mp htable
  split
  · rw [hf old]
    exact h old hold
  · exact h old hold

/-- A table is found under a free name only. -/
theorem Named.isFree {database : Database} (h : database.Named) {name : String} {table : Table}
    (hfind : database.find? name = some table) : IsFree name :=
  (isFree_congr (sameName_of_find? hfind)).mp (h table (List.mem_of_find?_eq_some hfind))

end Database

/-! ## Requests -/

namespace Connection

/-- Only a free name can be dropped, and dropping it changes nothing but the database. -/
theorem drop_eq_ok {connection dropped : Connection} {table : TableName}
    (h : connection.drop table = .ok dropped) :
    IsFree table.text ∧
      dropped = { connection with database := connection.database.drop table.text } := by
  simp only [drop] at h
  split at h
  · cases h
  · rename_i hreserved
    split at h
    · cases h
    · rename_i hbuiltIn
      have hfree : IsFree table.text :=
        ⟨by simpa using hreserved, BuiltIn.find?_eq_none_of hbuiltIn⟩
      split at h <;> cases h
      exact ⟨hfree, rfl⟩

/-- A request gives no table a name that is not free. -/
theorem named_answer {connection : Connection} (h : connection.database.Named)
    (request : Request) : (connection.answer request).state.database.Named := by
  cases request with
  | setIndexEligible index eligible =>
      simp only [answer]
      split <;> exact h
  | recreateTable table =>
      simp only [answer, recreate]
      split
      · exact h
      · rename_i dropped hdrop
        obtain ⟨hfree, rfl⟩ := drop_eq_ok hdrop
        split
        · exact h.drop table.text
        · exact (h.drop table.text).create hfree
  | insertRows table rows =>
      simp only [answer, insert]
      split <;> rename_i hinsert <;> split at hinsert <;> cases hinsert
      · exact h.modify table.text fun _ => rfl
      · exact h
  | createIndex table order =>
      simp only [answer, createIndex]
      split
      · exact h
      · exact h.modify table.text fun _ => rfl
  | _ => exact h

end Connection

/-- Whether requests lead to a database, each over some connection to it. -/
inductive Database.Reached : Database → Prop where
  | empty : Reached .empty
  | answer {connection : Connection} (h : Reached connection.database) (request : Request) :
      Reached (connection.answer request).state.database

/-- Every table that requests lead to has a free name. -/
theorem Database.Reached.named {database : Database} (h : database.Reached) :
    database.Named := by
  induction h with
  | empty =>
      intro table htable
      cases htable
  | answer _ request ih => exact Connection.named_answer ih request

namespace Connection

/-- A connection after requests. -/
def after (connection : Connection) (requests : List Request) : Connection :=
  requests.foldl (fun connection request => (connection.answer request).state) connection

/-- Requests over one connection lead to a database. -/
theorem reached_after {connection : Connection} (h : connection.database.Reached)
    (requests : List Request) : (connection.after requests).database.Reached := by
  induction requests generalizing connection with
  | nil => exact h
  | cons request requests ih => exact ih (h.answer request)

end Connection
end Store
end IndexBench
