import IndexBench.Proofs.Store.Reachable
import Mathlib.Data.List.Pairwise

/-!
# The tables and indexes that requests lead to

A request that is to change a database either succeeds with one change or leaves the database
as it is.  So wherever requests lead, no two tables have the same name, an index is named
after its table, and every table has a name under which it could be created anew.

Main definitions:

- `Request.changes` says that a request is to change a database.
- `Database.Change` says what a request makes of a database.
- `Database.Schema` says how tables and indexes are named.

Main results:

- Theorem `sameName_indexName_iff`: indexes of the same name are of the same order, on tables
  of the same name.
- Theorem `Connection.change_answer`: what a request makes of a database.
- Theorem `Database.Reached.schema`: how the tables and indexes are named that requests lead to.
-/

namespace IndexBench

/-- Whether a request is to change a database. -/
def Request.changes : Request → Bool
  | .recreateTable _ => true
  | .insertRows _ _ => true
  | .createIndex _ _ => true
  | _ => false

namespace Store

/-! ## Names -/

/-- Names that are the same open a condition alike. -/
theorem opensCondition_congr {a b : String} (h : sameName a b = true) :
    opensCondition a = opensCondition b :=
  sameName_congr h "if"

/-- Names that are the same are internal alike. -/
theorem isInternal_congr {a b : String} (h : sameName a b = true) :
    isInternal a = isInternal b := by
  have hlower : lowerName a = lowerName b := by simpa [sameName] using h
  rw [isInternal, isInternal, hlower]

/-- The name of an index in lower case is that of its table with the same ending. -/
theorem toList_lowerName_indexName (order : IndexOrder) (table : TableName) :
    (lowerName (order.indexName table)).toList =
      (lowerName table.text).toList ++ ("_idx_" ++ order.tag).toList := by
  have hending : ("_idx_" ++ order.tag).toList.map lowerChar = ("_idx_" ++ order.tag).toList := by
    cases order <;> decide
  rw [lowerName, lowerName, String.toList_ofList, String.toList_ofList, IndexOrder.indexName,
    String.append_assoc, String.toList_append, List.map_append, hending]

/-- Indexes have the same name only if they are of the same order and their tables have the
same name. -/
theorem sameName_indexName_iff {order other : IndexOrder} {table owner : TableName} :
    sameName (order.indexName table) (other.indexName owner) = true ↔
      sameName table.text owner.text = true ∧ order = other := by
  have hlength : ("_idx_" ++ order.tag).toList.length = ("_idx_" ++ other.tag).toList.length := by
    cases order <;> cases other <;> simp [IndexOrder.tag]
  have hending : ("_idx_" ++ order.tag).toList = ("_idx_" ++ other.tag).toList ↔
      order = other := by
    cases order <;> cases other <;> simp [IndexOrder.tag]
  simp only [sameName, beq_iff_eq, ← String.toList_inj, toList_lowerName_indexName, ← hending]
  constructor
  · intro h
    exact List.append_inj' h hlength
  · rintro ⟨htable, horder⟩
    rw [htable, horder]

/-- No index has the name of its table. -/
theorem sameName_indexName_self (order : IndexOrder) (table : TableName) :
    sameName table.text (order.indexName table) = false := by
  rw [Bool.eq_false_iff, sameName, ne_eq, beq_iff_eq, ← String.toList_inj,
    toList_lowerName_indexName]
  intro h
  have hempty := List.self_eq_append_right.mp h
  cases order <;> cases hempty

namespace Database

variable {database : Database}

/-! ## Indexes by name -/

/-- An index exists under exactly a name if a table has one of this name. -/
theorem hasIndexExactly_iff {name : String} :
    database.hasIndexExactly name = true ↔
      ∃ table ∈ database.tables, ∃ index ∈ table.indexes, index.name = name := by
  simp [hasIndexExactly, indexes]

/-- An index exists under a name if a table has one of the same name. -/
theorem hasIndex_iff {name : String} :
    database.hasIndex name = true ↔
      ∃ table ∈ database.tables, ∃ index ∈ table.indexes, sameName index.name name = true := by
  simp [hasIndex, indexes]

/-- Names that are the same have an index alike. -/
theorem hasIndex_congr (database : Database) {a b : String} (h : sameName a b = true) :
    database.hasIndex a = database.hasIndex b := by
  unfold hasIndex
  congr 1
  funext index
  rw [sameName_comm index.name a, sameName_comm index.name b, sameName_congr h]

/-- Dropping a table adds no index. -/
theorem hasIndex_of_drop {dropped name : String}
    (h : (database.drop dropped).hasIndex name = true) : database.hasIndex name = true := by
  obtain ⟨table, htable, index, hindex⟩ := hasIndex_iff.mp h
  exact hasIndex_iff.mpr ⟨table, (List.mem_filter.mp htable).1, index, hindex⟩

/-- A new table brings no index. -/
@[simp]
theorem hasIndex_create (database : Database) (created name : String) :
    (database.create created).hasIndex name = database.hasIndex name := by
  simp [hasIndex]

/-! ## Changed tables -/

/-- A table that is created anew is found empty, and every table of another name as it was. -/
theorem find?_recreate (database : Database) (created name : String) :
    ((database.drop created).create created).find? name =
      if sameName created name then some ⟨created, [], []⟩ else database.find? name := by
  rw [find?_create, find?_drop]
  split
  · rfl
  · exact Option.or_none

/-- Whether a change to a table adds some indexes to it and does not rename it. -/
def AddsIndexes (f : Table → Table) (more : List Index) : Prop :=
  ∀ table, (f table).name = table.name ∧ (f table).indexes = table.indexes ++ more

/-- Adding rows adds no index. -/
theorem addsIndexes_rows (rows : List Row) :
    AddsIndexes (fun table => { table with rows := table.rows ++ rows }) [] :=
  fun table => ⟨rfl, (List.append_nil table.indexes).symm⟩

/-- Adding an index adds it. -/
theorem addsIndexes_index (index : Index) :
    AddsIndexes (fun table => { table with indexes := table.indexes ++ [index] }) [index] :=
  fun _ => ⟨rfl, rfl⟩

section Modify

variable {name : String} {f : Table → Table} {more : List Index}

/-- A table has the indexes that it had, and the added ones if it is the changed one. -/
theorem exists_of_mem_modify (hf : AddsIndexes f more) {table : Table}
    (h : table ∈ (database.modify name f).tables) :
    ∃ old ∈ database.tables, table.name = old.name ∧ ∀ index ∈ table.indexes,
      index ∈ old.indexes ∨ index ∈ more ∧ sameName old.name name = true := by
  obtain ⟨old, hold, rfl⟩ := List.mem_map.mp h
  refine ⟨old, hold, ?_⟩
  split
  · rename_i hsame
    refine ⟨(hf old).1, fun index hindex => ?_⟩
    rw [(hf old).2] at hindex
    exact (List.mem_append.mp hindex).imp_right fun hnew => ⟨hnew, hsame⟩
  · exact ⟨rfl, fun index hindex => .inl hindex⟩

/-- A change to a table leaves the indexes that were there, and adds its own if the table is
there. -/
theorem hasIndex_modify (hf : AddsIndexes f more) (other : String) :
    (database.modify name f).hasIndex other = true ↔ database.hasIndex other = true ∨
      (database.find? name).isSome = true ∧ ∃ index ∈ more, sameName index.name other = true := by
  simp only [hasIndex_iff, modify, find?, List.find?_isSome]
  constructor
  · rintro ⟨table, htable, index, hindex, hother⟩
    obtain ⟨old, hold, -, hall⟩ := exists_of_mem_modify hf htable
    rcases hall index hindex with hindex | ⟨hnew, hsame⟩
    · exact .inl ⟨old, hold, index, hindex, hother⟩
    · exact .inr ⟨⟨old, hold, hsame⟩, index, hnew, hother⟩
  · rintro (⟨old, hold, index, hindex, hother⟩ | ⟨⟨old, hold, hsame⟩, index, hnew, hother⟩)
    · refine ⟨_, List.mem_map_of_mem hold, index, ?_, hother⟩
      split
      · rw [(hf old).2]
        exact List.mem_append_left more hindex
      · exact hindex
    · refine ⟨_, List.mem_map_of_mem hold, index, ?_, hother⟩
      rw [if_pos hsame, (hf old).2]
      exact List.mem_append_right old.indexes hnew

end Modify

/-! ## Creatable tables -/

/-- Whether every table has a name under which it could be created anew. -/
def Creatable (database : Database) : Prop :=
  ∀ table ∈ database.tables, opensCondition table.name = false ∧
    isInternal table.name = false ∧ database.hasIndex table.name = false

/-- A table may be created under a name that no condition, no internal name and no index
has. -/
theorem Creatable.recreate (h : database.Creatable) {name : String}
    (hcondition : opensCondition name = false) (hinternal : isInternal name = false)
    (hindex : (database.drop name).hasIndex name = false) :
    ((database.drop name).create name).Creatable := by
  intro table htable
  rw [hasIndex_create]
  rcases List.mem_append.mp htable with hold | hcreated
  · obtain ⟨hcondition, hinternal, hindex⟩ := h table (List.mem_filter.mp hold).1
    refine ⟨hcondition, hinternal, Bool.eq_false_iff.mpr fun hhas => ?_⟩
    rw [hasIndex_of_drop hhas] at hindex
    cases hindex
  · rw [List.mem_singleton.mp hcreated]
    exact ⟨hcondition, hinternal, hindex⟩

/-- Indexes may be added whose names no table has. -/
theorem Creatable.modify (h : database.Creatable) {name : String} {f : Table → Table}
    {more : List Index} (hf : AddsIndexes f more)
    (hmore : ∀ index ∈ more, database.find? index.name = none) :
    (database.modify name f).Creatable := by
  intro table htable
  obtain ⟨old, hold, hsame, -⟩ := exists_of_mem_modify hf htable
  obtain ⟨hcondition, hinternal, hindex⟩ := h old hold
  rw [hsame]
  refine ⟨hcondition, hinternal, Bool.eq_false_iff.mpr fun hhas => ?_⟩
  obtain ⟨other, hother, index, hmem, hindexName⟩ := hasIndex_iff.mp hhas
  obtain ⟨previous, hprevious, -, hall⟩ := exists_of_mem_modify hf hother
  rcases hall index hmem with hmem | ⟨hnew, -⟩
  · have hhad := hasIndex_iff.mpr ⟨previous, hprevious, index, hmem, hindexName⟩
    rw [hindex] at hhad
    cases hhad
  · have hnone := List.find?_eq_none.mp (hmore index hnew) old hold
    rw [sameName_comm] at hnone
    exact hnone hindexName

/-! ## Indexes named after their tables -/

/-- Whether every index is named after its table, which is one of some owners up to case. -/
def IndexedFor (owners : TableName → Prop) (database : Database) : Prop :=
  ∀ table ∈ database.tables, ∀ index ∈ table.indexes,
    ∃ owner, owners owner ∧ ∃ order : IndexOrder, index.name = order.indexName owner ∧
      sameName table.name owner.text = true

section IndexedFor

variable {owners : TableName → Prop}

/-- A new table has no indexes. -/
theorem IndexedFor.recreate (h : database.IndexedFor owners) (name : String) :
    ((database.drop name).create name).IndexedFor owners := by
  intro table htable index hindex
  rcases List.mem_append.mp htable with hold | hcreated
  · exact h table (List.mem_filter.mp hold).1 index hindex
  · rw [List.mem_singleton.mp hcreated] at hindex
    cases hindex

/-- Indexes may be added that are named after the table. -/
theorem IndexedFor.modify (h : database.IndexedFor owners) {name : String} {f : Table → Table}
    {more : List Index} (hf : AddsIndexes f more)
    (hmore : ∀ index ∈ more, ∃ owner, owners owner ∧ ∃ order : IndexOrder,
      index.name = order.indexName owner ∧ sameName name owner.text = true) :
    (database.modify name f).IndexedFor owners := by
  intro table htable index hindex
  obtain ⟨old, hold, hsame, hall⟩ := exists_of_mem_modify hf htable
  rw [hsame]
  rcases hall index hindex with hindex | ⟨hnew, holdName⟩
  · exact h old hold index hindex
  · obtain ⟨owner, howner, order, hindexName, hownerName⟩ := hmore index hnew
    exact ⟨owner, howner, order, hindexName, sameName_trans holdName hownerName⟩

/-- An index that has the name of an index of a table is on a table of the same name. -/
theorem IndexedFor.sameName_of_mem (h : database.IndexedFor owners) {table : Table}
    (htable : table ∈ database.tables) {index : Index} (hindex : index ∈ table.indexes)
    {name : TableName} {order : IndexOrder}
    (hname : sameName index.name (order.indexName name) = true) :
    sameName table.name name.text = true := by
  obtain ⟨owner, -, other, hother, hsame⟩ := h table htable index hindex
  rw [hother] at hname
  exact sameName_trans hsame (sameName_indexName_iff.mp hname).1

/-- Creating a table anew takes its indexes, and those of no table of another name. -/
theorem IndexedFor.hasIndex_recreate (h : database.IndexedFor owners) (created : String)
    (order : IndexOrder) (name : TableName) :
    ((database.drop created).create created).hasIndex (order.indexName name) =
      (!sameName created name.text && database.hasIndex (order.indexName name)) := by
  rw [hasIndex_create, Bool.eq_iff_iff, Bool.and_eq_true, Bool.not_eq_true']
  simp only [hasIndex_iff, drop, List.mem_filter, Bool.not_eq_true']
  constructor
  · rintro ⟨table, ⟨htable, hkept⟩, index, hindex, hname⟩
    refine ⟨?_, table, htable, index, hindex, hname⟩
    rwa [sameName_comm, ← sameName_congr (h.sameName_of_mem htable hindex hname)]
  · rintro ⟨hother, table, htable, index, hindex, hname⟩
    refine ⟨table, ⟨htable, ?_⟩, index, hindex, hname⟩
    rwa [sameName_congr (h.sameName_of_mem htable hindex hname), sameName_comm]

/-- Creating a table anew takes no index named after a table of another name. -/
theorem IndexedFor.hasIndexExactly_recreate (h : database.IndexedFor owners) {created : String}
    {name : TableName} (hother : sameName created name.text = false) (order : IndexOrder) :
    ((database.drop created).create created).hasIndexExactly (order.indexName name) =
      database.hasIndexExactly (order.indexName name) := by
  rw [hasIndexExactly, indexes_create, Bool.eq_iff_iff]
  change (database.drop created).hasIndexExactly _ = true ↔ _
  simp only [hasIndexExactly_iff, drop, List.mem_filter, Bool.not_eq_true']
  constructor
  · rintro ⟨table, ⟨htable, -⟩, index, hindex, hname⟩
    exact ⟨table, htable, index, hindex, hname⟩
  · rintro ⟨table, htable, index, hindex, hname⟩
    refine ⟨table, ⟨htable, ?_⟩, index, hindex, hname⟩
    have hsame : sameName index.name (order.indexName name) = true := by rw [hname, sameName_refl]
    rwa [sameName_congr (h.sameName_of_mem htable hindex hsame), sameName_comm]

end IndexedFor

/-! ## Schemas -/

/-- How the tables and indexes of a database are named: no two tables have the same name,
every index is named after its table, and every table could be created anew. -/
structure Schema (database : Database) : Prop where
  distinct : database.tables.Pairwise fun a b => sameName a.name b.name = false
  indexed : database.IndexedFor fun _ => True
  creatable : database.Creatable

namespace Schema

/-- There is nothing to name in a database without tables. -/
theorem empty : Schema .empty where
  distinct := .nil
  indexed _ htable := by cases htable
  creatable _ htable := by cases htable

/-- A table may be created anew under a name that no condition, no internal name and no index
has. -/
theorem recreate (h : database.Schema) {name : String} (hcondition : opensCondition name = false)
    (hinternal : isInternal name = false)
    (hindex : (database.drop name).hasIndex name = false) :
    ((database.drop name).create name).Schema where
  distinct := by
    refine List.pairwise_append.mpr ⟨h.distinct.filter _, List.pairwise_singleton _ _, ?_⟩
    intro old hold created hcreated
    rw [List.mem_singleton.mp hcreated]
    simpa using (List.mem_filter.mp hold).2
  indexed := h.indexed.recreate name
  creatable := h.creatable.recreate hcondition hinternal hindex

/-- Indexes may be added that are named after their table and like no table. -/
theorem modify (h : database.Schema) {name : String} {f : Table → Table} {more : List Index}
    (hf : AddsIndexes f more)
    (hmore : ∀ index ∈ more, database.find? index.name = none ∧ ∃ (owner : TableName)
      (order : IndexOrder), index.name = order.indexName owner ∧
        sameName name owner.text = true) :
    (database.modify name f).Schema where
  distinct := by
    refine List.pairwise_map.mpr (h.distinct.imp fun {a b} hab => ?_)
    have hname (table : Table) :
        (if sameName table.name name then f table else table).name = table.name := by
      split
      · exact (hf table).1
      · rfl
    rwa [hname, hname]
  indexed := h.indexed.modify hf fun index hindex =>
    have ⟨owner, order, howner⟩ := (hmore index hindex).2
    ⟨owner, trivial, order, howner⟩
  creatable := h.creatable.modify hf fun index hindex => (hmore index hindex).1

/-- A table is found under every name that is the same as its own. -/
theorem find?_eq_some (h : database.Schema) {table : Table} (htable : table ∈ database.tables)
    {name : String} (hname : sameName table.name name = true) :
    database.find? name = some table := by
  cases hfound : database.find? name with
  | none => exact absurd hname (List.find?_eq_none.mp hfound table htable)
  | some found =>
      have hsame := Database.sameName_of_find? hfound
      rw [sameName_comm] at hname
      refine congrArg some (Classical.not_not.mp fun hother => ?_)
      have hsymm : Std.Symm fun a b : Table => sameName a.name b.name = false :=
        ⟨fun a b hab => by rwa [sameName_comm]⟩
      have hdistinct : sameName found.name table.name = false :=
        h.distinct.forall (List.mem_of_find?_eq_some hfound) htable hother
      rw [sameName_trans hsame hname] at hdistinct
      cases hdistinct

/-- An index exists under the name of an index of a table exactly if the table has it. -/
theorem hasIndex_iff_of_find? (h : database.Schema) {name : TableName} {order : IndexOrder}
    {table : Table} (hfound : database.find? name.text = some table) :
    database.hasIndex (order.indexName name) = true ↔
      (table.index? (order.indexName name)).isSome = true := by
  simp only [Table.index?, List.find?_isSome]
  constructor
  · intro hhas
    obtain ⟨owner, howner, index, hindex, hname⟩ := hasIndex_iff.mp hhas
    have hsame := h.find?_eq_some howner (h.indexed.sameName_of_mem howner hindex hname)
    obtain rfl := Option.some.inj (hfound.symm.trans hsame)
    exact ⟨index, hindex, hname⟩
  · rintro ⟨index, hindex, hname⟩
    exact hasIndex_iff.mpr ⟨table, List.mem_of_find?_eq_some hfound, index, hindex, hname⟩

end Schema

/-! ## Changes -/

/-- What a request that succeeds or fails makes of a database. -/
inductive Change (database : Database) : Request → Bool → Database → Prop where
  | kept {request : Request} {ok : Bool} (h : ok = true → request.changes = false) :
      Change database request ok database
  | recreated {table : TableName} (hcondition : opensCondition table.text = false)
      (hinternal : isInternal table.text = false)
      (hindex : (database.drop table.text).hasIndex table.text = false) :
      Change database (.recreateTable table) true
        ((database.drop table.text).create table.text)
  | inserted {table : TableName} {rows : List Row} :
      Change database (.insertRows table rows) true
        (database.modify table.text fun found => { found with rows := found.rows ++ rows })
  | indexed {table : TableName} {order : IndexOrder}
      (hfound : (database.find? table.text).isSome = true)
      (hfree : database.find? (order.indexName table) = none) :
      Change database (.createIndex table order) true
        (database.modify table.text fun found =>
          { found with indexes := found.indexes ++ [⟨order.indexName table, order⟩] })

/-- A change keeps tables and indexes named as they should be. -/
theorem Schema.change (h : database.Schema) {request : Request} {ok : Bool} {after : Database}
    (hchange : database.Change request ok after) : after.Schema := by
  cases hchange with
  | kept => exact h
  | recreated hcondition hinternal hindex => exact h.recreate hcondition hinternal hindex
  | inserted => exact h.modify (addsIndexes_rows _) (List.forall_mem_nil _)
  | indexed hfound hfree =>
      refine h.modify (addsIndexes_index _) fun index hindex => ?_
      rw [List.mem_singleton.mp hindex]
      exact ⟨hfree, _, _, rfl, sameName_refl _⟩

end Database

/-! ## Requests -/

namespace Connection

variable {connection : Connection}

/-- A table can be created under a name that no condition, no internal name and no index
has. -/
theorem creationFault?_eq_none {name : String} (h : connection.creationFault? name = none) :
    opensCondition name = false ∧ isInternal name = false ∧
      connection.database.hasIndex name = false := by
  unfold creationFault? at h
  by_cases hcondition : opensCondition name = true
  · rw [if_pos hcondition] at h
    cases h
  · rw [if_neg hcondition] at h
    by_cases hinternal : isInternal name = true
    · rw [if_pos hinternal] at h
      cases h
    · rw [if_neg hinternal] at h
      by_cases hindex : connection.database.hasIndex name = true
      · rw [if_pos hindex] at h
        cases h
      · exact ⟨Bool.eq_false_iff.mpr hcondition, Bool.eq_false_iff.mpr hinternal,
          Bool.eq_false_iff.mpr hindex⟩

/-- Where a table is dropped, changes are not refused. -/
theorem refusal_of_drop {dropped : Connection} {table : TableName} {found : Table}
    (hdrop : connection.drop table = .ok dropped)
    (hfound : connection.database.find? table.text = some found) :
    connection.refusal = none := by
  cases hrefusal : connection.refusal with
  | none => rfl
  | some fault =>
      obtain ⟨-, hdropped⟩ := drop_eq_ok hdrop
      rw [drop_of_refusal hrefusal hdrop] at hdropped
      have hsame : connection.database = connection.database.drop table.text :=
        congrArg Connection.database hdropped
      have hgone := Database.find?_drop connection.database table.text table.text
      rw [← hsame, hfound, sameName_refl, if_pos rfl] at hgone
      cases hgone

/-- If a table cannot be created anew there was none of its name. -/
theorem find?_of_creationFault? (h : connection.database.Creatable) {dropped : Connection}
    {table : TableName} {fault : StoreFault} (hdrop : connection.drop table = .ok dropped)
    (hfault : dropped.creationFault? table.text = some fault) :
    connection.database.find? table.text = none := by
  cases hfound : connection.database.find? table.text with
  | none => rfl
  | some found =>
      have hrefusal := refusal_of_drop hdrop hfound
      obtain ⟨-, rfl⟩ := drop_eq_ok hdrop
      have hsame := Database.sameName_of_find? hfound
      obtain ⟨hcondition, hinternal, hindex⟩ := h found (List.mem_of_find?_eq_some hfound)
      rw [opensCondition_congr hsame] at hcondition
      rw [isInternal_congr hsame] at hinternal
      rw [Database.hasIndex_congr _ hsame] at hindex
      have hdropped : (connection.database.drop table.text).hasIndex table.text = false :=
        Bool.eq_false_iff.mpr fun hhas => by
          rw [Database.hasIndex_of_drop hhas] at hindex
          cases hindex
      simp [creationFault?, hcondition, hinternal, hdropped, hrefusal] at hfault

/-- An index is built on a table that exists, under a name that no table and no index has and
that is not internal. -/
theorem indexingFault?_eq_none {table : TableName} {order : IndexOrder}
    (h : connection.indexingFault? table order = none) :
    (connection.database.find? table.text).isSome = true ∧
      connection.database.find? (order.indexName table) = none := by
  unfold indexingFault? at h
  cases hfound : connection.database.find? (order.indexName table) with
  | none => grind [Option.isSome_iff_ne_none]
  | some found =>
      simp only [hfound, Option.isSome_some, if_true] at h
      grind

/-- What a request makes of a database whose tables could all be created anew. -/
theorem change_answer (h : connection.database.Creatable) (request : Request) :
    connection.database.Change request (connection.answer request).outcome.isOk
      (connection.answer request).state.database := by
  cases request with
  | setIndexEligible index eligible =>
      simp only [answer]
      split <;> exact .kept fun _ => rfl
  | recreateTable table =>
      simp only [answer, recreate]
      split
      · exact .kept fun hok => by cases hok
      · rename_i dropped hdrop
        split
        · -- a table that is dropped could be created anew
          rename_i fault hfault
          have huse : (connection.noteUse table).database.Creatable := h
          have hnone := find?_of_creationFault? huse hdrop hfault
          obtain ⟨-, rfl⟩ := drop_eq_ok hdrop
          have hkept : connection.database.drop table.text = connection.database :=
            Database.drop_of_find?_eq_none hnone
          simp only [database_noteUse, hkept]
          exact .kept fun hok => by cases hok
        · rename_i hfault
          obtain ⟨hcondition, hinternal, hindex⟩ := creationFault?_eq_none hfault
          obtain ⟨-, rfl⟩ := drop_eq_ok hdrop
          exact .recreated hcondition hinternal hindex
  | insertRows table rows =>
      simp only [answer, insert]
      split <;> rename_i hinsert <;> split at hinsert <;> cases hinsert
      · exact .inserted
      · exact .kept fun hok => by cases hok
  | createIndex table order =>
      simp only [answer, createIndex]
      split
      · exact .kept fun hok => by cases hok
      · rename_i hfault
        obtain ⟨hfound, hfree⟩ := indexingFault?_eq_none hfault
        exact .indexed hfound hfree
  | _ => exact .kept fun _ => rfl

end Connection

/-- The tables and indexes that requests lead to are named as they should be. -/
theorem Database.Reached.schema {database : Database} (h : database.Reached) :
    database.Schema := by
  induction h with
  | empty => exact .empty
  | answer _ request ih => exact ih.change (Connection.change_answer ih.creatable request)

end Store
end IndexBench
