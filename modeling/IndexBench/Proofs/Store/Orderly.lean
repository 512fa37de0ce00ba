import IndexBench.Proofs.Store.Enforcement
import IndexBench.Proofs.Store.Schema

/-!
# Marks and the indexes that they are on

A mark can only be put on an index that exists, and an index goes with its table.  As long
as no two tables differ only in the case of their names, the marks of a table that is
created anew go with its indexes, so every mark stays on an index that exists.

Main definitions:

- `Request.table?` is the table that a request is about.
- `CaseDistinct` says that no two table names differ only in case.
- `Connection.Orderly` says that every mark is on an index and every index on its table.

Main results:

- Theorem `Connection.Orderly.answer`: a request about one of some tables whose names do
  not differ only in case keeps a connection orderly.
- Theorem `Connection.orderly_after`: requests about such tables lead to an orderly
  connection.
-/

namespace IndexBench

/-- The table that a request is about, if it is about one. -/
def Request.table? : Request → Option TableName
  | .countMatches table _ => some table
  | .enumerateMatches table _ => some table
  | .recreateTable table => some table
  | .insertRows table _ => some table
  | .createIndex table _ => some table
  | _ => none

namespace Store

/-- Whether no two of some table names differ only in case. -/
def CaseDistinct (names : List TableName) : Prop :=
  ∀ a ∈ names, ∀ b ∈ names, sameName a.text b.text = true → a = b

instance (names : List TableName) : Decidable (CaseDistinct names) :=
  inferInstanceAs (Decidable (∀ a ∈ names, ∀ b ∈ names, sameName a.text b.text = true → a = b))

/-! ## Orderly connections -/

/-- A name of an index of a table is one that marks go by. -/
theorem Connection.marksIndexOf_indexName (table : TableName) (order : IndexOrder) (mark : Bool) :
    marksIndexOf table (order.indexName table, mark) = true := by
  have hprefix : (table.text ++ "_idx_").toList <+: (order.indexName table).toList := by
    simp only [IndexOrder.indexName, String.toList_append]
    exact List.prefix_append _ _
  exact List.isPrefixOf_iff_prefix.mpr hprefix

namespace Connection

/-- Whether every mark is on an index that exists, every index is named after its table,
which is among the given ones up to case, and every table has a name under which it could
be created. -/
structure Orderly (names : List TableName) (connection : Connection) : Prop where
  marked : ∀ index, (connection.mark? index).isSome →
    connection.database.hasIndexExactly index = true
  indexed : ∀ table ∈ connection.database.tables, ∀ index ∈ table.indexes,
    ∃ owner ∈ names, ∃ order : IndexOrder, index.name = order.indexName owner ∧
      sameName table.name owner.text = true
  creatable : ∀ table ∈ connection.database.tables, opensCondition table.name = false ∧
    isInternal table.name = false ∧ connection.database.hasIndex table.name = false

namespace Orderly

variable {names : List TableName} {connection : Connection}

/-- A new connection to a database without tables is orderly. -/
theorem opened (refusal : Option StoreFault) : Orderly names (opened .empty refusal) where
  marked index hmark := by cases hmark
  indexed table htable := by cases htable
  creatable table htable := by cases htable

/-- Only tables, indexes and marks matter. -/
theorem congr {other : Connection} (h : Orderly names connection)
    (hdatabase : other.database = connection.database)
    (hmarks : other.eligibility = connection.eligibility) : Orderly names other where
  marked index hmark := by
    rw [hdatabase]
    refine h.marked index ?_
    rwa [mark?, hmarks] at hmark
  indexed := hdatabase ▸ h.indexed
  creatable := hdatabase ▸ h.creatable

/-- An index that exists may be marked. -/
theorem setMark (h : Orderly names connection) {index : String}
    (hindex : connection.database.hasIndexExactly index = true) (eligible : Bool) :
    Orderly names (connection.setMark index eligible) where
  marked other hmark := by
    rw [mark?_setMark] at hmark
    by_cases hother : other = index
    · rw [hother]
      exact hindex
    · rw [if_neg hother] at hmark
      exact h.marked other hmark
  indexed := h.indexed
  creatable := h.creatable

/-- Rows may be changed, and indexes added that are named after their table and not like
any table. -/
theorem modify (h : Orderly names connection) {name : String} {f : Table → Table}
    {more : List Index} (hf : Database.AddsIndexes f more)
    (hmore : ∀ index ∈ more, connection.database.find? index.name = none ∧
      ∃ owner ∈ names, ∃ order : IndexOrder, index.name = order.indexName owner ∧
        sameName name owner.text = true) :
    Orderly names { connection with database := connection.database.modify name f } where
  marked index hmark := by
    obtain ⟨table, htable, existing, hexisting, hnamed⟩ :=
      Database.hasIndexExactly_iff.mp (h.marked index hmark)
    refine Database.hasIndexExactly_iff.mpr ⟨_, List.mem_map_of_mem htable, existing, ?_, hnamed⟩
    split
    · rw [(hf table).2]
      exact List.mem_append_left _ hexisting
    · exact hexisting
  indexed := Database.IndexedFor.modify h.indexed hf fun index hindex => (hmore index hindex).2
  creatable := Database.Creatable.modify h.creatable hf fun index hindex => (hmore index hindex).1

/-- Creating a table anew takes the marks off the indexes that go with it. -/
theorem recreate (h : Orderly names connection) (hnames : CaseDistinct names)
    {table : TableName} (htable : table ∈ names) :
    Orderly names (connection.recreate table).2 := by
  unfold Connection.recreate
  cases hdrop : connection.drop table with
  | error fault => exact h
  | ok dropped =>
      simp only
      split
      · rename_i fault hfault
        have hnone := find?_of_creationFault? h.creatable hdrop hfault
        obtain ⟨-, rfl⟩ := drop_eq_ok hdrop
        exact h.congr (Database.drop_of_find?_eq_none hnone) rfl
      · rename_i hfault
        obtain ⟨hcondition, hinternal, hindex⟩ := creationFault?_eq_none hfault
        obtain ⟨-, rfl⟩ := drop_eq_ok hdrop
        refine ⟨fun index hmark => ?_, Database.IndexedFor.recreate h.indexed table.text,
          Database.Creatable.recreate h.creatable hcondition hinternal hindex⟩
        -- a mark that stays is on an index of another table
        have hlookup := lookup_filter_marks table index connection.eligibility
        rw [mark?, hlookup] at hmark
        split at hmark
        · cases hmark
        rename_i hother
        obtain ⟨old, hold, existing, hexisting, rfl⟩ :=
          Database.hasIndexExactly_iff.mp (h.marked index hmark)
        refine Database.hasIndexExactly_iff.mpr
          ⟨old, List.mem_append_left _ (List.mem_filter.mpr ⟨hold, ?_⟩), existing, hexisting,
            rfl⟩
        rw [Bool.not_eq_true', Bool.eq_false_iff]
        intro hsame
        obtain ⟨owner, howner, order, hname, hownerName⟩ :=
          h.indexed old hold existing hexisting
        rw [sameName_comm] at hsame
        obtain rfl := hnames table htable owner howner (sameName_trans hsame hownerName)
        rw [hname] at hother
        exact hother (marksIndexOf_indexName table order true)

/-- A request about one of some tables whose names do not differ only in case keeps a
connection orderly. -/
theorem answer (h : Orderly names connection) (hnames : CaseDistinct names)
    (request : Request) (htable : ∀ table, request.table? = some table → table ∈ names) :
    Orderly names (connection.answer request).state := by
  have huse (table : TableName) : Orderly names (connection.noteUse table) := h.congr rfl rfl
  cases request with
  | setIndexEligible index eligible =>
      simp only [Connection.answer]
      split
      · rename_i hindex
        exact h.setMark hindex eligible
      · exact h
  | recreateTable table => exact (huse table).recreate hnames (htable table rfl)
  | insertRows table rows =>
      simp only [Connection.answer, insert]
      split <;> rename_i hinsert <;> split at hinsert <;> cases hinsert
      · exact (huse table).modify (Database.addsIndexes_rows rows) (List.forall_mem_nil _)
      · exact huse table
  | createIndex table order =>
      simp only [Connection.answer, createIndex]
      split
      · exact huse table
      · rename_i hfault
        refine (huse table).modify (Database.addsIndexes_index _) fun index hindex => ?_
        rw [List.mem_singleton.mp hindex]
        exact ⟨(indexingFault?_eq_none hfault).2, table, htable table rfl, order, rfl,
          sameName_refl _⟩
  | _ => exact h.congr rfl rfl

end Orderly

/-- Requests about tables whose names do not differ only in case lead from a new connection
to an orderly one. -/
theorem orderly_after {requests : List Request} (refusal : Option StoreFault)
    (h : CaseDistinct (requests.filterMap Request.table?)) :
    Orderly (requests.filterMap Request.table?)
      ((Connection.opened .empty refusal).after requests) := by
  have hafter (connection : Connection) (names : List TableName) (hnames : CaseDistinct names)
      (hconnection : Orderly names connection) (requests : List Request)
      (htables : ∀ table ∈ requests.filterMap Request.table?, table ∈ names) :
      Orderly names (connection.after requests) := by
    induction requests generalizing connection with
    | nil => exact hconnection
    | cons request requests ih =>
        refine ih _ (hconnection.answer hnames request fun table htable => htables table ?_)
          fun table htable => htables table ?_
        · exact List.mem_filterMap.mpr ⟨request, List.mem_cons_self, htable⟩
        · obtain ⟨later, hlater, htable⟩ := List.mem_filterMap.mp htable
          exact List.mem_filterMap.mpr ⟨later, List.mem_cons_of_mem _ hlater, htable⟩
  exact hafter _ _ h (.opened refusal) requests fun _ htable => htable

end Connection
end Store
end IndexBench
