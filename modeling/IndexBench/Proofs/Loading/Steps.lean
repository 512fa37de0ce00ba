import IndexBench.Proofs.Store.Enforcement
import IndexBench.Proofs.Store.Orderly

/-!
# The requests of a load

A load creates a table anew, fills it and builds its indexes.  This module says under which
conditions the store does so, and what each of these requests makes of a connection.

Main definitions:

- `Connection.Accepted` says that a table of a name can be dropped and created.
- `Connection.Loadable` says that a table of a name can be loaded.
- `Connection.holding` is a connection with a table of given rows and indexes in place of
  whatever it had of this name.

Main results:

- Theorem `isInternal_indexName_iff`: the names of indexes that the store keeps to itself.
- Theorems `Connection.answer_recreateTable`, `Connection.answer_insertRows` and
  `Connection.answer_createIndex`: what the requests of a load make of a connection.
-/

namespace IndexBench
namespace Store

/-! ## Internal names -/

/-- The store keeps the names of the indexes of a table to itself if it does so with the name
of the table, and of a table `sqlite`. -/
theorem isInternal_indexName_iff {order : IndexOrder} {table : TableName} :
    isInternal (order.indexName table) = true ↔
      isInternal table.text = true ∨ sameName table.text "sqlite" = true := by
  have hname : sameName table.text "sqlite" = true ↔
      (lowerName table.text).toList = "sqlite".toList := by
    rw [sameName, beq_iff_eq, ← String.toList_inj]
    rfl
  have hsplit : "sqlite_".toList = "sqlite".toList ++ ['_'] := by decide
  obtain ⟨ending, hending⟩ : ∃ ending, ("_idx_" ++ order.tag).toList = '_' :: ending := by
    cases order <;> exact ⟨_, rfl⟩
  rw [isInternal, isInternal, List.isPrefixOf_iff_prefix, List.isPrefixOf_iff_prefix, hname,
    toList_lowerName_indexName, hending, hsplit]
  generalize (lowerName table.text).toList = name
  have hletters : '_' ∉ "sqlite".toList := by decide
  generalize "sqlite".toList = letters at hletters ⊢
  constructor
  · rintro ⟨rest, hrest⟩
    rw [List.append_eq_append_iff] at hrest
    rcases hrest with ⟨more, hname, -⟩ | ⟨more, hshort, hmore⟩
    · exact .inl ⟨more, hname.symm⟩
    -- the name falls short of the start, so its ending goes on with the underscore
    cases more with
    | nil => exact .inl ⟨[], by rw [hshort, List.append_nil, List.append_nil]⟩
    | cons c more =>
        obtain rfl := (List.cons.inj hmore).1
        rw [List.append_eq_append_iff] at hshort
        rcases hshort with ⟨excess, rfl, hexcess⟩ | ⟨excess, hname, hexcess⟩
        · cases excess with
          | nil => exact .inr (List.append_nil letters)
          | cons d excess => simp at hexcess
        · cases excess with
          | nil => exact .inr (by rw [hname, List.append_nil])
          | cons d excess =>
              obtain rfl := (List.cons.inj hexcess).1
              exact absurd (by rw [hname]; simp) hletters
  · rintro (hinternal | rfl)
    · exact hinternal.trans (List.prefix_append _ _)
    · exact ⟨ending, by simp⟩

/-! ## Loadable tables -/

namespace Connection

/-- Whether the store accepts a name in a statement that drops a table, if there is one, and in
one that creates it. -/
structure Accepted (connection : Connection) (table : TableName) : Prop where
  free : IsFree table.text
  condition : opensCondition table.text = false
  internal : isInternal table.text = false
  unindexed : connection.database.hasIndex table.text = false
  writable : connection.refusal = none

/-- Whether a table can be loaded: the store accepts its name, it is not called `sqlite`, whose
indexes would have internal names, and no table has the name of one of its indexes. -/
structure Loadable (connection : Connection) (table : TableName) : Prop
    extends connection.Accepted table where
  ordinary : sameName table.text "sqlite" = false
  apart : ∀ order : IndexOrder, connection.database.find? (order.indexName table) = none

/-- A connection with a table of given rows and indexes in place of whatever it had of this
name, and without the marks that go by the name. -/
def holding (connection : Connection) (table : TableName) (rows : List Row)
    (indexes : List Index) : Connection :=
  { connection with
    database := ⟨(connection.database.drop table.text).tables ++ [⟨table.text, rows, indexes⟩]⟩
    eligibility := connection.eligibility.filter fun entry => !marksIndexOf table entry }

variable {connection : Connection} {table : TableName} {rows : List Row} {indexes : List Index}

/-- Using a table of a free name is not remembered. -/
theorem noteUse_of_isFree (h : IsFree table.text) : connection.noteUse table = connection := by
  have hsetting : BuiltIn.isSetting table.text = false :=
    (BuiltIn.find?_eq_none_iff.mp (h.2 [])).2.2
  simp [noteUse, BuiltIn.remember, hsetting]

/-! ## What is held -/

/-- What takes the place of a table that was put in place takes its place. -/
@[simp]
theorem holding_holding (rows' : List Row) (indexes' : List Index) :
    (connection.holding table rows indexes).holding table rows' indexes' =
      connection.holding table rows' indexes' := by
  simp [holding, Database.drop, List.filter_filter]

/-- A table that was put in place is found. -/
theorem find?_holding (connection : Connection) (table : TableName) (rows : List Row)
    (indexes : List Index) (name : String) :
    (connection.holding table rows indexes).database.find? name =
      if sameName table.text name then some ⟨table.text, rows, indexes⟩
      else connection.database.find? name := by
  have hdropped := Database.find?_drop connection.database table.text name
  rw [Database.find?] at hdropped ⊢
  rw [holding, List.find?_append, hdropped]
  by_cases hname : sameName table.text name = true <;> simp [hname]

/-- A change to a table that was put in place changes it there. -/
theorem modify_holding (f : Table → Table) :
    (connection.holding table rows indexes).database.modify table.text f =
      ⟨(connection.database.drop table.text).tables ++ [f ⟨table.text, rows, indexes⟩]⟩ := by
  have hothers : ∀ other ∈ (connection.database.drop table.text).tables,
      (if sameName other.name table.text then f other else other) = other := by
    intro other hother
    rw [if_neg (by simpa using (List.mem_filter.mp hother).2)]
  simp only [holding, Database.modify, List.map_append, List.map_cons, List.map_nil, sameName_refl,
    if_true, List.map_congr_left hothers, List.map_id']

/-- The indexes of a table that was put in place are there, and those of all other tables. -/
theorem hasIndex_holding (name : String) :
    (connection.holding table rows indexes).database.hasIndex name =
      ((connection.database.drop table.text).hasIndex name ||
        indexes.any fun index => sameName index.name name) := by
  simp [holding, Database.hasIndex, Database.indexes]

/-- Dropping a table that was put in place drops what it took the place of. -/
theorem drop_holding (connection : Connection) (table : TableName) (rows : List Row)
    (indexes : List Index) : (connection.holding table rows indexes).database.drop table.text =
      connection.database.drop table.text := by
  simp [holding, Database.drop, List.filter_filter]

/-- A table that was put in place can be loaded again, if its indexes are named after it. -/
theorem Loadable.holding (h : connection.Loadable table) (rows : List Row)
    (hindexes : ∀ index ∈ indexes, ∃ order : IndexOrder, index.name = order.indexName table) :
    (connection.holding table rows indexes).Loadable table where
  free := h.free
  condition := h.condition
  internal := h.internal
  unindexed := by
    have hothers : (connection.database.drop table.text).hasIndex table.text = false :=
      Bool.eq_false_iff.mpr fun hhas =>
        Bool.eq_false_iff.mp h.unindexed (Database.hasIndex_of_drop hhas)
    rw [hasIndex_holding, hothers, Bool.false_or, List.any_eq_false]
    intro index hindex
    obtain ⟨order, hname⟩ := hindexes index hindex
    rw [hname, sameName_comm, sameName_indexName_self]
    exact Bool.false_ne_true
  writable := h.writable
  ordinary := h.ordinary
  apart order := by
    rw [find?_holding, sameName_indexName_self, if_neg Bool.false_ne_true, h.apart]

/-! ## Requests -/

/-- An accepted table is created anew without rows and indexes. -/
theorem answer_recreateTable (h : connection.Accepted table) :
    connection.answer (.recreateTable table) = ⟨.ok (), [], connection.holding table [] []⟩ := by
  have hbuiltIn : connection.builtIn? table.text = none := h.free.2 _
  have hdrop : connection.drop table =
      .ok { connection with database := connection.database.drop table.text } := by
    simp only [drop, h.free.1, hbuiltIn, h.writable]
    rfl
  have hindex : (connection.database.drop table.text).hasIndex table.text = false :=
    Bool.eq_false_iff.mpr fun hhas =>
      Bool.eq_false_iff.mp h.unindexed (Database.hasIndex_of_drop hhas)
  have hcreate : ({ connection with database := connection.database.drop table.text } :
      Connection).creationFault? table.text = none := by
    simp [creationFault?, h.condition, h.internal, hindex, h.writable]
  simp only [answer, noteUse_of_isFree h.free, recreate, hdrop, hcreate]
  rfl

/-- Rows are appended to a table that was put in place. -/
theorem answer_insertRows (hfree : IsFree table.text) (hwritable : connection.refusal = none)
    (more : List Row) :
    (connection.holding table rows indexes).answer (.insertRows table more) =
      ⟨.ok more.length, [.batchInserted table more.length],
        connection.holding table (rows ++ more) indexes⟩ := by
  have hbuiltIn : (connection.holding table rows indexes).builtIn? table.text = none :=
    hfree.2 _
  have hfault : (connection.holding table rows indexes).insertionFault? table.text more =
      none := by
    have hrefusal : (connection.holding table rows indexes).refusal = none := hwritable
    simp [insertionFault?, hfree.1, hbuiltIn, find?_holding, hrefusal]
  simp only [answer, noteUse_of_isFree hfree, insert, hfault, modify_holding]
  rfl

/-- An index is built on a table that was put in place, under a name that is free for it. -/
theorem answer_createIndex (hfree : IsFree table.text) (hwritable : connection.refusal = none)
    {order : IndexOrder} (hinternal : isInternal (order.indexName table) = false)
    (hapart : connection.database.find? (order.indexName table) = none)
    (hnew : (connection.holding table rows indexes).database.hasIndex (order.indexName table) =
      false) :
    (connection.holding table rows indexes).answer (.createIndex table order) =
      ⟨.ok (), [], connection.holding table rows
        (indexes ++ [⟨order.indexName table, order⟩])⟩ := by
  have hbuiltIn : (connection.holding table rows indexes).builtIn? table.text = none :=
    hfree.2 _
  have hfault : (connection.holding table rows indexes).indexingFault? table order = none := by
    have hrefusal : (connection.holding table rows indexes).refusal = none := hwritable
    simp [indexingFault?, hfree.1, hbuiltIn, find?_holding, sameName_indexName_self, hinternal,
      hapart, hnew, hrefusal]
  simp only [answer, noteUse_of_isFree hfree, createIndex, hfault, modify_holding]
  rfl

/-- An index is not built under a name that the store keeps to itself. -/
theorem answer_createIndex_of_internal (hfree : IsFree table.text) {order : IndexOrder}
    (hinternal : isInternal (order.indexName table) = true) :
    (connection.holding table rows indexes).answer (.createIndex table order) =
      ⟨.error (.store (.reservedName (order.indexName table))), [],
        connection.holding table rows indexes⟩ := by
  have hbuiltIn : (connection.holding table rows indexes).builtIn? table.text = none :=
    hfree.2 _
  have hfault : (connection.holding table rows indexes).indexingFault? table order =
      some (.reservedName (order.indexName table)) := by
    simp [indexingFault?, hfree.1, hbuiltIn, find?_holding, hinternal]
  simp only [answer, noteUse_of_isFree hfree, createIndex, hfault]
  rfl

/-- A table of the name of a built-in one is not created anew. -/
theorem answer_recreateTable_of_builtIn {builtIn : BuiltIn}
    (hreserved : isReserved table.text = false)
    (h : (connection.noteUse table).builtIn? table.text = some builtIn) :
    connection.answer (.recreateTable table) =
      ⟨.error (.store builtIn.dropFault), [], connection.noteUse table⟩ := by
  have hdrop : (connection.noteUse table).drop table = .error builtIn.dropFault := by
    simp only [drop, hreserved, h]
    rfl
  simp only [answer, recreate, hdrop]
  rfl

end Connection
end Store
end IndexBench
