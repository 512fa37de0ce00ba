import IndexBench.Loading
import IndexBench.Proofs.Dataset.Rows
import IndexBench.Proofs.Loading.Steps
import IndexBench.Proofs.Store.Selection

/-!
# What a load comes to

A load of a table that the store accepts leaves it with exactly the rows of the dataset and
with both indexes, whatever was there before and whatever the size of the batches.  A load
that meets a record that is no row leaves the table with the whole batches before it, and a
load in batches that no buffer has room for leaves it empty.

Main definitions:

- `Fallible.Yields` says what a script comes to over an open store.

Main results:

- Theorem `Loading.foldl_addRows`: numbers of rows add up to their sum in 64 bits.
- Theorems `Loading.run_prepareTable_of_hasRoom` and `Loading.run_prepareTable_of_not_hasRoom`:
  a load goes on only if there is a buffer for its batches.
- Theorem `Loading.prepareTable_exact`: a load of rows that were written down, a load of any
  dataset with a record that is no row, and a load without a buffer.
-/

namespace IndexBench

open Store

/-! ## Scripts over an open store -/

/-- Whether a script over a store that is open comes to a result and leaves a connection. -/
def Fallible.Yields {α : Type} (script : Fallible α) (connection : Connection)
    (result : Except Failure α) (after : Connection) : Prop :=
  ∀ (stopwatch : Nat → Nat) (world : World Machine) (anchor : Anchor) (pages : Option Pages),
    world.state.link = some (.store anchor pages connection) →
      (script.run.run (Machine.environment stopwatch) world).1 = result ∧
        (script.run.run (Machine.environment stopwatch) world).2.state.link =
          some (.store anchor pages after)

namespace Fallible.Yields

variable {α β : Type} {connection middle after : Connection}

/-- A value is what a script that does nothing comes to. -/
theorem pure (value : α) :
    (Pure.pure value : Fallible α).Yields connection (.ok value) connection :=
  fun _ _ _ _ h => ⟨rfl, h⟩

/-- A failure ends a script. -/
theorem throw (failure : Failure) :
    (MonadExcept.throw failure : Fallible α).Yields connection (.error failure) connection :=
  fun _ _ _ _ h => ⟨rfl, h⟩

/-- Noting an event leaves the connection. -/
theorem note (event : Event) :
    (liftM (Script.note event) : Fallible Unit).Yields connection (.ok ()) connection :=
  fun _ _ _ _ h => ⟨rfl, h⟩

/-- A request comes to what the connection answers. -/
theorem require (connection : Connection) (request : Request) :
    (Loading.require request).Yields connection (connection.answer request).outcome
      (connection.answer request).state := by
  intro stopwatch world anchor pages h
  refine ⟨?_, Machine.link_answer h request⟩
  change (Machine.answer request world.state).outcome = _
  simp [Machine.answer, h]

/-- Scripts in a row come to what the second does with the value of the first. -/
theorem bind {script : Fallible α} {f : α → Fallible β} {value : α}
    {result : Except Failure β} (h : script.Yields connection (.ok value) middle)
    (hf : (f value).Yields middle result after) :
    (script >>= f).Yields connection result after := by
  intro stopwatch world anchor pages hlink
  obtain ⟨hresult, hmiddle⟩ := h stopwatch world anchor pages hlink
  rw [ExceptT.run_bind, Script.run_bind, hresult]
  exact hf stopwatch _ anchor pages hmiddle

/-- Scripts in a row come to the failure of the first. -/
theorem bind_error {script : Fallible α} {failure : Failure}
    (h : script.Yields connection (.error failure) after) (f : α → Fallible β) :
    (script >>= f).Yields connection (.error failure) after := by
  intro stopwatch world anchor pages hlink
  obtain ⟨hresult, hafter⟩ := h stopwatch world anchor pages hlink
  rw [ExceptT.run_bind, Script.run_bind, hresult]
  exact ⟨rfl, hafter⟩

/-- The value of a script may be changed in the end. -/
theorem map {script : Fallible α} {result : Except Failure α} (f : α → β)
    (h : script.Yields connection result after) :
    (f <$> script).Yields connection (result.map f) after := by
  rw [map_eq_pure_bind]
  cases result with
  | ok value => exact h.bind (.pure (f value))
  | error failure => exact h.bind_error _

end Fallible.Yields

namespace Loading

open Fallible

/-! ## Numbers of rows -/

/-- Numbers of rows are added up to their sum in 64 bits. -/
theorem foldl_addRows {imported : Nat} (h : imported < UInt64.size) (counts : List Nat) :
    counts.foldl addRows imported = (imported + Summary.total counts) % UInt64.size := by
  induction counts generalizing imported with
  | nil => exact (Nat.mod_eq_of_lt h).symm
  | cons count counts ih =>
      have hnext : addRows imported count < UInt64.size := Nat.mod_lt _ (by decide)
      rw [List.foldl_cons, ih hnext, addRows, Nat.mod_add_mod, Nat.add_assoc, Summary.total]

/-- A number of rows is what its batches add up to. -/
theorem total_map_length (batches : List (List Row)) :
    Summary.total (batches.map List.length) = batches.flatten.length := by
  induction batches with
  | nil => rfl
  | cons batch batches ih =>
      rw [List.map_cons, Summary.total, ih, List.flatten_cons, List.length_append]

/-! ## Buffers -/

/-- There is a buffer for batches of up to so many rows. -/
theorem hasRoom_batchSize_iff {size : Nat} :
    hasRoom (batchSize size) = true ↔ size ≤ 164703072086692425 := by
  have hbytes : maxBytes = 9223372036854775807 := by decide
  simp only [hasRoom, batchSize, rowBytes, hbytes, decide_eq_true_eq]
  omega

/-- What can panic goes on after what cannot. -/
theorem run_lift_bind {α β : Type} (script : Fallible α) (f : α → ExceptT Panic Fallible β) :
    ((liftM script : ExceptT Panic Fallible α) >>= f).run =
      script >>= fun value => (f value).run := by
  have hlift : (liftM script : ExceptT Panic Fallible α).run = Except.ok <$> script := rfl
  rw [ExceptT.run_bind, hlift, bind_map_left]

section Buffers

variable {engine : EngineKind} {table : TableName} {reader : Dataset.Reader} {size : Nat}

/-- A table is loaded if there is a buffer for its batches. -/
theorem run_prepareTable_of_hasRoom (h : hasRoom (batchSize size) = true) :
    (prepareTable engine table reader size).run = .ok <$> load engine table reader size := by
  rw [load, map_bind, prepareTable, run_lift_bind, reserve, if_pos h]
  rfl

/-- Without a buffer for its batches a load ends after its start. -/
theorem run_prepareTable_of_not_hasRoom (h : hasRoom (batchSize size) = false) :
    (prepareTable engine table reader size).run =
      start engine table size >>= fun _ => pure (.error .capacityOverflow) := by
  rw [prepareTable, run_lift_bind, reserve, h]
  rfl

end Buffers

variable {connection : Connection} {table : TableName} {rows : List Row} {indexes : List Index}

/-! ## The steps of a load -/

/-- Batches are appended to a table that was put in place. -/
theorem yields_insertAll (hfree : IsFree table.text) (hwritable : connection.refusal = none)
    (imported : Nat) (batches : List (List Row)) :
    (insertAll table imported batches).Yields (connection.holding table rows indexes)
      (.ok ((batches.map List.length).foldl addRows imported))
      (connection.holding table (rows ++ batches.flatten) indexes) := by
  induction batches generalizing imported rows with
  | nil =>
      rw [List.flatten_nil, List.append_nil]
      exact .pure imported
  | cons batch batches ih =>
      have hinsert := Yields.require (connection.holding table rows indexes)
        (.insertRows table batch)
      rw [Connection.answer_insertRows hfree hwritable] at hinsert
      rw [List.flatten_cons, ← List.append_assoc]
      exact hinsert.bind (ih (addRows imported batch.length))

/-- A load begins with creating the table anew. -/
theorem yields_start_of_recreate {engine : EngineKind} {size : Nat} {failure : Failure}
    {after : Connection}
    (h : connection.answer (.recreateTable table) = ⟨.error failure, [], after⟩) :
    (start engine table size).Yields connection (.error failure) after := by
  have hrecreate := Yields.require connection (.recreateTable table)
  rw [h] at hrecreate
  exact (Yields.note _).bind (hrecreate.bind_error _)

/-- An accepted table is created anew. -/
theorem yields_start {engine : EngineKind} {size : Nat} (h : connection.Accepted table) :
    (start engine table size).Yields connection (.ok ()) (connection.holding table [] []) := by
  have hrecreate := Yields.require connection (.recreateTable table)
  rw [Connection.answer_recreateTable h] at hrecreate
  exact (Yields.note _).bind (hrecreate.bind (.note _))

/-- The end of a load, when all batches are inserted. -/
def finish (table : TableName) (failure : Option Failure) (count : Nat) : Fallible Nat := do
  if let some failure := failure then throw failure
  Script.note (.imported table count)
  IndexOrder.buildSequence.forM (buildIndex table)
  Script.note (.tableReady table)
  return count

/-- A table is filled with batches before the load ends. -/
theorem fill_eq {reader : Dataset.Reader} {size : Nat} {batches : List (List Row)}
    {failure : Option Failure} (h : reader.batches (batchSize size) = (batches, failure)) :
    fill table reader size = insertAll table 0 batches >>= finish table failure := by
  rw [fill, h]
  rfl

/-- An accepted table is created anew and filled with the batches before the load ends. -/
theorem yields_load_of_finish {engine : EngineKind} {reader : Dataset.Reader} {size : Nat}
    {batches : List (List Row)} {failure : Option Failure} {result : Except Failure Nat}
    {after : Connection} (h : connection.Accepted table)
    (hbatches : reader.batches (batchSize size) = (batches, failure))
    (hfinish : (finish table failure (batches.flatten.length % UInt64.size)).Yields
      (connection.holding table batches.flatten []) result after) :
    (load engine table reader size).Yields connection result after := by
  have hinsert := @yields_insertAll _ _ [] [] h.free h.writable 0 batches
  rw [foldl_addRows (by decide), Nat.zero_add, total_map_length, List.nil_append] at hinsert
  rw [load, fill_eq hbatches]
  exact (yields_start h).bind (hinsert.bind hfinish)

/-- A load ends with the failure of a record that is no row. -/
theorem yields_finish_of_failure (connection : Connection) (table : TableName)
    (failure : Failure) (count : Nat) :
    (finish table (some failure) count).Yields connection (.error failure) connection :=
  (Yields.throw failure).bind_error _

/-- A load ends with the failure of the first index. -/
theorem yields_finish_of_createIndex {failure : Failure} {after : Connection}
    (h : connection.answer (.createIndex table .pathFirst) = ⟨.error failure, [], after⟩)
    (count : Nat) : (finish table none count).Yields connection (.error failure) after := by
  have hindex := Yields.require connection (.createIndex table .pathFirst)
  rw [h] at hindex
  have hbuild : (buildIndex table .pathFirst).Yields connection (.error failure) after :=
    (Yields.note _).bind hindex
  exact (Yields.note _).bind ((hbuild.bind_error _).bind_error _)

/-- The indexes of a table that is loaded, as they are built. -/
def bothIndexes (table : TableName) : List Index :=
  IndexOrder.buildSequence.map fun order => ⟨order.indexName table, order⟩

/-- A load ends with building both indexes, if no other table has an index of their names. -/
theorem yields_finish (h : connection.Loadable table)
    (hnew : ∀ order : IndexOrder,
      (connection.database.drop table.text).hasIndex (order.indexName table) = false)
    (rows : List Row) (count : Nat) :
    (finish table none count).Yields (connection.holding table rows []) (.ok count)
      (connection.holding table rows (bothIndexes table)) := by
  have hinternal (order : IndexOrder) : isInternal (order.indexName table) = false := by
    rw [Bool.eq_false_iff, ne_eq, isInternal_indexName_iff, h.internal, h.ordinary]
    decide
  have hbuild (order : IndexOrder) {built : List Index}
      (hbuilt : ∀ index ∈ built, sameName index.name (order.indexName table) = false) :
      (buildIndex table order).Yields (connection.holding table rows built) (.ok ())
        (connection.holding table rows (built ++ [⟨order.indexName table, order⟩])) := by
    have hindex := Yields.require (connection.holding table rows built) (.createIndex table order)
    have hfree : (connection.holding table rows built).database.hasIndex
        (order.indexName table) = false := by
      rw [Connection.hasIndex_holding, hnew, Bool.false_or, List.any_eq_false]
      exact fun index hindex => by rw [hbuilt index hindex]; exact Bool.false_ne_true
    rw [Connection.answer_createIndex h.free h.writable (hinternal order) (h.apart order) hfree]
      at hindex
    exact (Yields.note _).bind hindex
  have hfirst := hbuild .pathFirst (List.forall_mem_nil _)
  have hsecond : (buildIndex table .valueFirst).Yields
      (connection.holding table rows [⟨IndexOrder.pathFirst.indexName table, .pathFirst⟩])
      (.ok ()) (connection.holding table rows (bothIndexes table)) :=
    hbuild .valueFirst fun index hindex => by
      rw [List.mem_singleton.mp hindex, Bool.eq_false_iff, ne_eq, sameName_indexName_iff]
      simp
  have hbuilds : (IndexOrder.buildSequence.forM (buildIndex table)).Yields
      (connection.holding table rows []) (.ok ())
      (connection.holding table rows (bothIndexes table)) :=
    hfirst.bind (hsecond.bind (.pure ()))
  exact (Yields.note _).bind (hbuilds.bind ((Yields.note _).bind (.pure count)))

/-! ## Whole loads -/

/-- An index of a loaded table is reported to be eligible. -/
theorem reports_eligible_holding (connection : Connection) (table : TableName)
    (rows : List Row) (order : IndexOrder) :
    ((connection.holding table rows (bothIndexes table)).answer
      (.indexEligibility (order.indexName table))).outcome = .ok (some "t") := by
  have hexists : (connection.holding table rows (bothIndexes table)).database.hasIndexExactly
      (order.indexName table) = true := by
    refine Database.hasIndexExactly_iff.mpr ⟨⟨table.text, rows, bothIndexes table⟩,
      List.mem_append_right _ (List.mem_singleton_self _), ⟨order.indexName table, order⟩, ?_, rfl⟩
    cases order <;> simp [bothIndexes, IndexOrder.buildSequence]
  have hmark : (connection.holding table rows (bothIndexes table)).mark?
      (order.indexName table) = none := by
    refine (Connection.lookup_filter_marks table _ connection.eligibility).trans ?_
    rw [if_pos (Connection.marksIndexOf_indexName table order true)]
  rw [Connection.reports_eligible_iff hexists, hmark]
  simp

/-- Rows that were written down are loaded, in batches of any size that there is a buffer for. -/
theorem yields_prepareTable_rows (engine : EngineKind) (h : connection.Loadable table)
    (hnew : ∀ order : IndexOrder,
      (connection.database.drop table.text).hasIndex (order.indexName table) = false)
    (hplain : ∀ row ∈ rows, row.Plain)
    (hmark : ∀ row ∈ rows.head?, ¬byteOrderMark <+: Utf8.encode row.path) {size : Nat}
    (hroom : hasRoom (batchSize size) = true) :
    (prepareTable engine table (.ofBytes (Utf8.encode (Dataset.render rows))) size).run.Yields
      connection (.ok (.ok (rows.length % UInt64.size)))
      (connection.holding table rows (bothIndexes table)) := by
  obtain ⟨batches, hbatches, hcut⟩ := Dataset.Reader.batches_of_readAs
    (Nat.lt_of_lt_of_le Nat.one_pos (Nat.le_max_right size 1))
    (Dataset.readAs_render hplain hmark)
  obtain rfl := hcut.flatten_eq
  rw [run_prepareTable_of_hasRoom hroom]
  exact (yields_load_of_finish h.toAccepted hbatches (yields_finish h hnew _ _)).map Except.ok

/-- Where requests lead, loading rows that were written down into a table that can be loaded
leaves it with exactly these rows, in their order, and with both indexes, which are reported
to be eligible.  The result is the same for every size of the batches that there is a buffer
for, and loading the rows once more changes nothing.  Loading a dataset with a record that is no
row fails with what is wrong with the first of them and leaves the table with the whole batches
of rows before it, and without indexes.  In batches that no buffer has room for nothing is
loaded: the table is created anew, and the program panics. -/
theorem prepareTable_exact (hreached : connection.database.Reached) (h : connection.Loadable table)
    (engine : EngineKind) :
    (∀ rows : List Row, (∀ row ∈ rows, row.Plain) →
      (∀ row ∈ rows.head?, ¬byteOrderMark <+: Utf8.encode row.path) →
      ∃ after : Connection,
        (∀ size, hasRoom (batchSize size) = true →
          (prepareTable engine table
            (.ofBytes (Utf8.encode (Dataset.render rows))) size).run.Yields
              connection (.ok (.ok (rows.length % UInt64.size))) after ∧
          (prepareTable engine table
            (.ofBytes (Utf8.encode (Dataset.render rows))) size).run.Yields
              after (.ok (.ok (rows.length % UInt64.size))) after) ∧
        after.database.find? table.text = some ⟨table.text, rows, bothIndexes table⟩ ∧
        ∀ order : IndexOrder, (after.answer (.indexEligibility
          (order.indexName table))).outcome = .ok (some "t")) ∧
    (∀ (bytes : List UInt8) (good later : List RawRecord) (bad : RawRecord) (rows : List Row)
      (failure : Failure), (Cursor.ofBytes bytes).records = good ++ bad :: later →
      Dataset.ReadAs good rows → Row.ofRecord bad = .error failure →
      ∀ size, hasRoom (batchSize size) = true → ∃ after : Connection,
        (prepareTable engine table (.ofBytes bytes) size).run.Yields
          connection (.error failure) after ∧
        after.database.find? table.text =
          some ⟨table.text, rows.take (rows.length / batchSize size * batchSize size), []⟩) ∧
    ∀ (reader : Dataset.Reader) (size : Nat), hasRoom (batchSize size) = false →
      ∃ after : Connection,
        (prepareTable engine table reader size).run.Yields
          connection (.ok (.error .capacityOverflow)) after ∧
        after.database.find? table.text = some ⟨table.text, [], []⟩ := by
  have hnew (order : IndexOrder) :
      (connection.database.drop table.text).hasIndex (order.indexName table) = false := by
    have htaken := hreached.schema.indexed.hasIndex_recreate table.text order table
    rwa [Database.hasIndex_create, sameName_refl, Bool.not_true, Bool.false_and] at htaken
  refine ⟨?_, ?_, ?_⟩
  · intro rows hplain hmark
    have hagain : (connection.holding table rows (bothIndexes table)).Loadable table :=
      h.holding rows fun index hindex => by
        obtain ⟨order, -, rfl⟩ := List.mem_map.mp hindex
        exact ⟨order, rfl⟩
    refine ⟨connection.holding table rows (bothIndexes table), fun size hroom => ⟨?_, ?_⟩, ?_,
      reports_eligible_holding connection table rows⟩
    · exact yields_prepareTable_rows engine h hnew hplain hmark hroom
    · have hload := yields_prepareTable_rows engine hagain
        (fun order => by rw [Connection.drop_holding, hnew]) hplain hmark hroom
      rwa [Connection.holding_holding] at hload
    · rw [Connection.find?_holding, sameName_refl, if_pos rfl]
  · intro bytes good later bad rows failure hrecords hgood hbad size hroom
    obtain ⟨batches, hbatches, hcut⟩ := Dataset.Reader.batches_of_bad
      (Nat.lt_of_lt_of_le Nat.one_pos (Nat.le_max_right size 1)) hrecords hgood hbad
    rw [run_prepareTable_of_hasRoom hroom]
    refine ⟨_, (yields_load_of_finish h.toAccepted hbatches
      (yields_finish_of_failure _ table failure _)).map Except.ok, ?_⟩
    rw [Connection.find?_holding, sameName_refl, if_pos rfl, hcut.flatten_eq]
    rfl
  · intro reader size hroom
    rw [run_prepareTable_of_not_hasRoom hroom]
    refine ⟨_, (yields_start h.toAccepted).bind (.pure _), ?_⟩
    rw [Connection.find?_holding, sameName_refl, if_pos rfl]

/-- The table `records` can be loaded into a new database. -/
theorem loadable_records : (Connection.opened .empty none).Loadable ⟨"records", rfl⟩ where
  free := ⟨by decide, fun _ => BuiltIn.find?_eq_none_iff.mpr (by decide)⟩
  condition := by decide
  internal := by decide
  unindexed := rfl
  writable := rfl
  ordinary := by decide
  apart := fun _ => rfl

/-- Two rows are loaded into a new database, and a record without a value is not.  Nothing is
loaded in batches of as many rows as 64 bits can tell. -/
theorem prepareTable_exact_pair :
    let records : TableName := ⟨"records", rfl⟩
    let rows : List Row := [⟨"/a", 1, "r"⟩, ⟨"/b", -5, ""⟩]
    let connection : Connection := .opened .empty none
    (∃ after : Connection,
      (∀ size, size ≤ 164703072086692425 → (prepareTable .embedded records
        (.ofBytes (Utf8.encode (Dataset.render rows))) size).run.Yields
          connection (.ok (.ok 2)) after) ∧
      after.database.find? "records" = some ⟨"records", rows,
        [⟨"records_idx_pv", .pathFirst⟩, ⟨"records_idx_vp", .valueFirst⟩]⟩) ∧
    (∃ after : Connection,
      (prepareTable .embedded records (.ofBytes (Utf8.encode "/a\n")) 10).run.Yields connection
        (.error (.format 1 (.datasetFields 1))) after ∧
      after.database.find? "records" = some ⟨"records", [], []⟩) ∧
    ∃ after : Connection,
      (prepareTable .embedded records (.ofBytes (Utf8.encode (Dataset.render rows)))
        (UInt64.size - 1)).run.Yields connection (.ok (.error .capacityOverflow)) after ∧
      after.database.find? "records" = some ⟨"records", [], []⟩ := by
  intro records rows connection
  obtain ⟨hrows, hbad, hpanic⟩ := prepareTable_exact .empty loadable_records .embedded
  refine ⟨?_, ?_, hpanic _ _ (by decide)⟩
  · obtain ⟨after, hload, hfound, -⟩ := hrows rows (by decide) (by decide)
    exact ⟨after, fun size hsize => (hload size (hasRoom_batchSize_iff.mpr hsize)).1, hfound⟩
  · have hnext : (Cursor.ofBytes (Utf8.encode "/a\n")).next =
        some (⟨0, 1, 0, [Utf8.encode "/a"]⟩, ⟨[], true, 2, 3, 1⟩) := by
      decide
    have hrecords : (Cursor.ofBytes (Utf8.encode "/a\n")).records =
        [] ++ ⟨0, 1, 0, [Utf8.encode "/a"]⟩ :: [] := by
      rw [Cursor.records_of_next_eq_some hnext, Cursor.records_of_next_eq_none rfl]
      rfl
    have hrecord : Row.ofRecord ⟨0, 1, 0, [Utf8.encode "/a"]⟩ =
        .error (.format 1 (.datasetFields 1)) := by
      rw [Row.ofRecord, RawRecord.decode_eq_ok_iff.mpr (show _ = ["/a"].map Utf8.encode from rfl)]
      rfl
    exact hbad _ [] [] _ [] _ hrecords .nil hrecord 10 (by decide)

/-- A table that can be created cannot be loaded if the names of its indexes are internal, if
it is created in the place of a computed table, or in batches that no buffer has room for. -/
theorem prepareTable_fails :
    let internal : TableName := ⟨"sqlite", rfl⟩
    let computed : TableName := ⟨"json_each", rfl⟩
    let records : TableName := ⟨"records", rfl⟩
    let connection : Connection := .opened .empty none
    ((connection.answer (.recreateTable internal)).outcome = .ok () ∧
      (∀ order : IndexOrder, connection.database.find? (order.indexName internal) = none) ∧
      ∃ after, (prepareTable .embedded internal (.ofBytes []) 10).run.Yields connection
        (.error (.store (.reservedName "sqlite_idx_pv"))) after) ∧
    (connection.creationFault? computed.text = none ∧
      (∀ order : IndexOrder, connection.database.find? (order.indexName computed) = none) ∧
      ∃ after, (prepareTable .embedded computed (.ofBytes []) 10).run.Yields connection
        (.error (.store (.protectedTable "json_each" "dropped"))) after) ∧
    (connection.answer (.recreateTable records)).outcome = .ok () ∧
      (∀ order : IndexOrder, connection.database.find? (order.indexName records) = none) ∧
      ∃ after, (prepareTable .embedded records (.ofBytes []) (UInt64.size - 1)).run.Yields
        connection (.ok (.error .capacityOverflow)) after := by
  intro internal computed records connection
  have haccepted : connection.Accepted internal := {
    free := ⟨by decide, fun _ => BuiltIn.find?_eq_none_iff.mpr (by decide)⟩
    condition := by decide
    internal := by decide
    unindexed := rfl
    writable := rfl }
  have hrecreate {table : TableName} (h : connection.Accepted table) :
      (connection.answer (.recreateTable table)).outcome = .ok () := by
    rw [Connection.answer_recreateTable h]
  have hindex : (connection.holding internal [] []).answer (.createIndex internal .pathFirst) =
      ⟨.error (.store (.reservedName "sqlite_idx_pv")), [], connection.holding internal [] []⟩ :=
    Connection.answer_createIndex_of_internal haccepted.free (by decide)
  have hnoBatches : (Dataset.Reader.ofBytes []).batches (batchSize 10) = ([], none) := rfl
  have hdrop : connection.answer (.recreateTable computed) =
      ⟨.error (.store (.protectedTable "json_each" "dropped")), [],
        connection.noteUse computed⟩ :=
    Connection.answer_recreateTable_of_builtIn (by decide) (by decide :
      (connection.noteUse computed).builtIn? computed.text = some (.computed "json_each"))
  have hroom : hasRoom (batchSize 10) = true := by decide
  have hnoRoom : hasRoom (batchSize (UInt64.size - 1)) = false := by decide
  refine ⟨⟨hrecreate haccepted, fun _ => rfl, ?_⟩, ⟨by decide, fun _ => rfl, ?_⟩,
    hrecreate loadable_records.toAccepted, fun _ => rfl, ?_⟩
  · rw [run_prepareTable_of_hasRoom hroom]
    exact ⟨_, (yields_load_of_finish haccepted hnoBatches
      (yields_finish_of_createIndex hindex _)).map Except.ok⟩
  · rw [run_prepareTable_of_hasRoom hroom]
    exact ⟨_, ((yields_start_of_recreate hdrop).bind_error _).map Except.ok⟩
  · rw [run_prepareTable_of_not_hasRoom hnoRoom]
    exact ⟨_, (yields_start loadable_records.toAccepted).bind (.pure _)⟩

end Loading
end IndexBench
