import IndexBench.Configuration
import IndexBench.Proofs.Run.Bracket
import IndexBench.Proofs.Store.Reachable

/-!
# What is reported and what is forced

A report calls an index eligible unless it is marked otherwise, but queries force an
index only if it is marked eligible.  The two agree as long as either both indexes of
a table are marked or neither is.

Main definitions:

- `Connection.record` is what requests were answered with, as far as marks go.
- `Connection.lastMark` is the mark that such a record leaves on an index.
- `Connection.Truthful` says that queries force what is reported to be forced.

Main results:

- Theorem `Connection.mark?_after`: the marks of a connection are those of its record.
- Theorem `Connection.truthful_iff`: a connection is truthful exactly if scans are
  allowed or its two indexes are both marked or both unmarked.
- Theorem `Connection.truthful_after_iff`: the same, by what the requests over a
  connection were answered with.
-/

namespace IndexBench

/-- The order of the other index of a table. -/
def IndexOrder.other : IndexOrder → IndexOrder
  | .valueFirst => .pathFirst
  | .pathFirst => .valueFirst

namespace Store
namespace Connection

/-! ## Marks after requests -/

/-- Requests and whether they succeeded. -/
def record (connection : Connection) : List Request → List (Request × Bool)
  | [] => []
  | request :: requests =>
      (request, (connection.answer request).outcome.isOk) ::
        (connection.answer request).state.record requests

/-- What becomes of the mark of an index when a request succeeds or fails. -/
def markAfter (index : String) (mark : Option Bool) : Request × Bool → Option Bool
  | (.setIndexEligible name eligible, true) => if index = name then some eligible else mark
  | (.recreateTable table, true) => if marksIndexOf table (index, true) then none else mark
  | _ => mark

/-- The mark of an index after a record, if it had none before. -/
def lastMark (index : String) (record : List (Request × Bool)) : Option Bool :=
  record.foldl (markAfter index) none

/-- Marks go by the name of their index. -/
theorem lookup_filter_marks (table : TableName) (index : String)
    (entries : List (String × Bool)) :
    (entries.filter fun entry => !marksIndexOf table entry).lookup index =
      if marksIndexOf table (index, true) then none else entries.lookup index := by
  induction entries with
  | nil => split <;> rfl
  | cons entry entries ih =>
      obtain ⟨name, mark⟩ := entry
      have hname : marksIndexOf table (name, mark) = marksIndexOf table (name, true) := rfl
      by_cases hmarks : marksIndexOf table (name, true) = true
      · rw [List.filter_cons_of_neg (by simp [hname, hmarks]), ih, List.lookup_cons]
        by_cases hindex : index = name
        · simp [hindex, hmarks]
        · rw [beq_eq_false_iff_ne.mpr hindex]
      · rw [List.filter_cons_of_pos (by simp [hname, hmarks]), List.lookup_cons, ih,
          List.lookup_cons]
        by_cases hindex : index = name
        · simp [hindex, hmarks]
        · rw [beq_eq_false_iff_ne.mpr hindex]

/-- Creating a table anew takes the marks off its indexes, if it succeeds. -/
theorem mark?_recreate (connection : Connection) (table : TableName) (index : String) :
    (connection.recreate table).2.mark? index =
      markAfter index (connection.mark? index)
        (.recreateTable table, (connection.recreate table).1.isOk) := by
  unfold recreate
  cases hdrop : connection.drop table with
  | error fault => rfl
  | ok dropped =>
      obtain ⟨-, rfl⟩ := drop_eq_ok hdrop
      simp only
      split
      · rfl
      · exact lookup_filter_marks table index connection.eligibility

/-- A request changes the mark of an index as its outcome says. -/
theorem mark?_answer (connection : Connection) (request : Request) (index : String) :
    (connection.answer request).state.mark? index =
      markAfter index (connection.mark? index)
        (request, (connection.answer request).outcome.isOk) := by
  cases request with
  | setIndexEligible name eligible =>
      simp only [answer]
      split
      · exact mark?_setMark connection name index eligible
      · rfl
  | recreateTable table =>
      have hrecreate := mark?_recreate (connection.noteUse table) table index
      simp only [answer]
      cases houtcome : ((connection.noteUse table).recreate table).1 <;>
        rw [houtcome] at hrecreate <;> exact hrecreate
  | insertRows table rows =>
      simp only [answer, insert]
      split <;> rename_i hinsert <;> split at hinsert <;> cases hinsert <;> rfl
  | createIndex table order =>
      simp only [answer, createIndex]
      split <;> rfl
  | _ => rfl

/-- The marks of a connection are those of its record. -/
theorem mark?_after (connection : Connection) (requests : List Request) (index : String) :
    (connection.after requests).mark? index =
      (connection.record requests).foldl (markAfter index) (connection.mark? index) := by
  induction requests generalizing connection with
  | nil => rfl
  | cons request requests ih =>
      rw [record, List.foldl_cons, ← mark?_answer]
      exact ih (connection.answer request).state

/-! ## What is reported -/

/-- Whether the index of an order is reported to be forced: scans are off, it is
eligible, and the other index is not. -/
def ReportsForced (connection : Connection) (table : TableName) (order : IndexOrder) : Prop :=
  (connection.answer .scanFallback).outcome = .ok (some "off") ∧
    (connection.answer (.indexEligibility (order.indexName table))).outcome = .ok (some "t") ∧
    (connection.answer (.indexEligibility (order.other.indexName table))).outcome = .ok (some "f")

/-- Whether queries on a table force exactly the index that is reported to be forced. -/
def Truthful (connection : Connection) (table : TableName) : Prop :=
  ∀ order : IndexOrder, connection.hint table = some (order.indexName table) ↔
    connection.ReportsForced table order

/-- The indexes of a table have different names. -/
theorem indexName_inj {table : TableName} {order other : IndexOrder} :
    order.indexName table = other.indexName table ↔ order = other := by
  constructor
  · intro h
    have htag := (String.append_right_inj _).mp h
    cases order <;> cases other <;> first | rfl | exact absurd htag (by decide)
  · rintro rfl
    rfl

/-- An index is forced if scans are off and no other is marked eligible. -/
theorem hint_eq_some_iff {connection : Connection} {table : TableName} {order : IndexOrder} :
    connection.hint table = some (order.indexName table) ↔
      connection.scanFallback = false ∧ connection.mark? (order.indexName table) = some true ∧
        connection.mark? (order.other.indexName table) ≠ some true := by
  unfold hint
  simp only [IndexOrder.buildSequence, List.map_cons, List.map_nil, List.filter_cons,
    List.filter_nil, beq_iff_eq]
  cases connection.scanFallback with
  | true => simp
  | false =>
      by_cases hpath : connection.mark? (IndexOrder.pathFirst.indexName table) = some true <;>
        by_cases hvalue : connection.mark? (IndexOrder.valueFirst.indexName table) = some true <;>
          cases order <;> simp [hpath, hvalue, indexName_inj, IndexOrder.other]

/-- An index that is not marked eligible is not forced. -/
theorem hint_eq_none {connection : Connection} {table : TableName}
    (h : ∀ order : IndexOrder, connection.mark? (order.indexName table) ≠ some true) :
    connection.hint table = none := by
  unfold hint
  have hmarks : (IndexOrder.buildSequence.map fun order => order.indexName table).filter
      (fun index => connection.mark? index == some true) = [] := by
    rw [List.filter_eq_nil_iff, List.forall_mem_map]
    intro order _
    rw [beq_iff_eq]
    exact h order
  rw [hmarks]
  split <;> rfl

/-- An index that exists is reported as its mark says, or as eligible if it has none. -/
theorem outcome_indexEligibility {connection : Connection} {index : String}
    (h : connection.database.hasIndexExactly index = true) :
    (connection.answer (.indexEligibility index)).outcome =
      .ok (some (markText (connection.mark? index))) := by
  simp only [answer, h, if_true]

/-- An index that exists is reported to be eligible unless it is marked otherwise. -/
theorem reports_eligible_iff {connection : Connection} {index : String}
    (h : connection.database.hasIndexExactly index = true) :
    (connection.answer (.indexEligibility index)).outcome = .ok (some "t") ↔
      connection.mark? index ≠ some false := by
  rw [outcome_indexEligibility h]
  rcases connection.mark? index with _ | _ | _ <;> simp [markText]

/-- An index that exists is reported to be ineligible if it is marked so. -/
theorem reports_ineligible_iff {connection : Connection} {index : String}
    (h : connection.database.hasIndexExactly index = true) :
    (connection.answer (.indexEligibility index)).outcome = .ok (some "f") ↔
      connection.mark? index = some false := by
  rw [outcome_indexEligibility h]
  rcases connection.mark? index with _ | _ | _ <;> simp [markText]

/-- An index is reported to be forced if scans are off, it is not marked ineligible, and
the other one is. -/
theorem reportsForced_iff {connection : Connection} {table : TableName}
    (hboth : ∀ order : IndexOrder,
      connection.database.hasIndexExactly (order.indexName table) = true) {order : IndexOrder} :
    connection.ReportsForced table order ↔
      connection.scanFallback = false ∧ connection.mark? (order.indexName table) ≠ some false ∧
        connection.mark? (order.other.indexName table) = some false := by
  have hscan : (connection.answer .scanFallback).outcome = .ok (some "off") ↔
      connection.scanFallback = false := by
    cases hfallback : connection.scanFallback <;> simp [answer, hfallback, switchText]
  rw [ReportsForced, hscan, reports_eligible_iff (hboth order),
    reports_ineligible_iff (hboth order.other)]

/-- Where both indexes of a table exist, what is reported is what is forced exactly if
scans are allowed or the two indexes are both marked or both unmarked. -/
theorem truthful_iff {connection : Connection} {table : TableName}
    (hboth : ∀ order : IndexOrder,
      connection.database.hasIndexExactly (order.indexName table) = true) :
    connection.Truthful table ↔
      connection.scanFallback = true ∨
        ((connection.mark? (IndexOrder.valueFirst.indexName table)).isSome ↔
          (connection.mark? (IndexOrder.pathFirst.indexName table)).isSome) := by
  have hforall (P : IndexOrder → Prop) : (∀ order, P order) ↔ P .valueFirst ∧ P .pathFirst := by
    constructor
    · exact fun h => ⟨h .valueFirst, h .pathFirst⟩
    · rintro ⟨hvalue, hpath⟩ (_ | _)
      · exact hvalue
      · exact hpath
  simp only [Truthful, hint_eq_some_iff, reportsForced_iff hboth, hforall, IndexOrder.other]
  cases connection.scanFallback with
  | true => simp
  | false =>
      rcases connection.mark? (IndexOrder.valueFirst.indexName table) with _ | _ | _ <;>
        rcases connection.mark? (IndexOrder.pathFirst.indexName table) with _ | _ | _ <;> simp

/-! ## Sessions -/

/-- The requests of a selection. -/
theorem mem_selection_iff {table : TableName} {selected : IndexOrder} {request : Request} :
    request ∈ Configuration.selection table selected ↔
      request = .setScanFallback false ∨
        ∃ order : IndexOrder, request =
          .setIndexEligible (order.indexName table) (selected.enables order) := by
  constructor
  · intro h
    rcases List.mem_cons.mp h with rfl | h
    · exact .inl rfl
    · rcases List.mem_cons.mp h with rfl | h
      · exact .inr ⟨.valueFirst, rfl⟩
      · exact .inr ⟨.pathFirst, List.mem_singleton.mp h⟩
  · rintro (rfl | ⟨_ | _, rfl⟩) <;> simp [Configuration.selection]

section Selection

variable {connection : Connection} {table : TableName} {selected : IndexOrder}

/-- What one request of a selection leaves of a connection. -/
theorem answer_selection
    (hboth : ∀ order : IndexOrder,
      connection.database.hasIndexExactly (order.indexName table) = true)
    {request : Request} (hrequest : request ∈ Configuration.selection table selected) :
    (connection.answer request).state.database = connection.database ∧
      ((connection.answer request).state.scanFallback = true ↔
        connection.scanFallback = true ∧ .setScanFallback false ≠ request) ∧
      ∀ order : IndexOrder,
        ((connection.answer request).state.mark? (order.indexName table)).isSome ↔
          (connection.mark? (order.indexName table)).isSome ∨
            .setIndexEligible (order.indexName table) (selected.enables order) = request := by
  rcases mem_selection_iff.mp hrequest with rfl | ⟨marked, rfl⟩
  · exact ⟨rfl, by simp [answer], fun order => by simp [answer, mark?]⟩
  · have hanswer : (connection.answer (.setIndexEligible (marked.indexName table)
        (selected.enables marked))).state =
          connection.setMark (marked.indexName table) (selected.enables marked) := by
      simp only [answer, hboth marked, if_true]
    rw [hanswer]
    refine ⟨rfl, by simp [setMark], fun order => ?_⟩
    rw [mark?_setMark]
    by_cases hsame : order = marked
    · simp [hsame]
    · simp [indexName_inj, hsame]

/-- What requests of a selection leave of a connection, whichever of them got through and
however often: the scan switch and the marks are set by those that did. -/
theorem after_selection
    (hboth : ∀ order : IndexOrder,
      connection.database.hasIndexExactly (order.indexName table) = true)
    {through : List Request}
    (hthrough : ∀ request ∈ through, request ∈ Configuration.selection table selected) :
    (connection.after through).database = connection.database ∧
      ((connection.after through).scanFallback = true ↔
        connection.scanFallback = true ∧ .setScanFallback false ∉ through) ∧
      ∀ order : IndexOrder, ((connection.after through).mark? (order.indexName table)).isSome ↔
        (connection.mark? (order.indexName table)).isSome ∨
          .setIndexEligible (order.indexName table) (selected.enables order) ∈ through := by
  induction through generalizing connection with
  | nil => simp [after]
  | cons request through ih =>
      rw [List.forall_mem_cons] at hthrough
      obtain ⟨hdatabase, hscan, hmarks⟩ := answer_selection hboth hthrough.1
      obtain ⟨hdatabase', hscan', hmarks'⟩ :=
        ih (fun order => hdatabase ▸ hboth order) hthrough.2
      refine ⟨hdatabase'.trans hdatabase, hscan'.trans ?_, fun order => (hmarks' order).trans ?_⟩
      · rw [hscan, List.mem_cons, not_or, and_assoc]
      · rw [hmarks, List.mem_cons, or_assoc]

end Selection

/-- After requests over one connection, what is reported of a table with both indexes is
what is forced exactly if scans are allowed or the answers to the requests have left
both or neither of the indexes marked.  A session of whose selection only some requests
got through is truthful exactly if scans were not forbidden, or those requests mark
both or neither of the indexes, counting older marks. -/
theorem truthful_after_iff (database : Database) (refusal : Option StoreFault)
    (requests : List Request) (table : TableName)
    (hboth : ∀ order : IndexOrder, ((opened database refusal).after
      requests).database.hasIndexExactly (order.indexName table) = true) :
    (((opened database refusal).after requests).Truthful table ↔
      ((opened database refusal).after requests).scanFallback = true ∨
        ((lastMark (IndexOrder.valueFirst.indexName table)
            ((opened database refusal).record requests)).isSome ↔
          (lastMark (IndexOrder.pathFirst.indexName table)
            ((opened database refusal).record requests)).isSome)) ∧
    ∀ (selected : IndexOrder) (through : List Request),
      (∀ request ∈ through, request ∈ Configuration.selection table selected) →
      ((((opened database refusal).after requests).after through).Truthful table ↔
        ((opened database refusal).after requests).scanFallback = true ∧
            .setScanFallback false ∉ through ∨
          ((lastMark (IndexOrder.valueFirst.indexName table)
                ((opened database refusal).record requests)).isSome ∨
              .setIndexEligible (IndexOrder.valueFirst.indexName table)
                (selected.enables .valueFirst) ∈ through ↔
            (lastMark (IndexOrder.pathFirst.indexName table)
                ((opened database refusal).record requests)).isSome ∨
              .setIndexEligible (IndexOrder.pathFirst.indexName table)
                (selected.enables .pathFirst) ∈ through)) := by
  have hmark (index : String) : ((opened database refusal).after requests).mark? index =
      lastMark index ((opened database refusal).record requests) := mark?_after _ requests index
  constructor
  · rw [truthful_iff hboth, hmark, hmark]
  · intro selected through hthrough
    obtain ⟨hdatabase, hscan, hmarks⟩ := after_selection hboth hthrough
    rw [truthful_iff fun order => hdatabase ▸ hboth order, hscan, hmarks, hmarks, hmark, hmark]

/-- A complete selection is reported as it is forced. -/
theorem truthful_after_iff_selected :
    let records : TableName := ⟨"records", rfl⟩
    let database : Database :=
      ⟨[⟨"records", [], [⟨"records_idx_pv", .pathFirst⟩, ⟨"records_idx_vp", .valueFirst⟩]⟩]⟩
    let connection := (opened database none).after
      [ .setScanFallback false, .setIndexEligible "records_idx_vp" true,
        .setIndexEligible "records_idx_pv" false ]
    connection.hint records = some "records_idx_vp" ∧ connection.Truthful records := by
  intro records database connection
  have hboth (order : IndexOrder) :
      connection.database.hasIndexExactly (order.indexName records) = true := by
    cases order <;> decide
  exact ⟨by decide, (truthful_after_iff database none _ records hboth).1.mpr (.inr (by decide))⟩

/-- If marking the other index failed, both are reported to be eligible although one of
them is forced. -/
theorem not_truthful_half_marked :
    let records : TableName := ⟨"records", rfl⟩
    let database : Database :=
      ⟨[⟨"records", [], [⟨"records_idx_pv", .pathFirst⟩, ⟨"records_idx_vp", .valueFirst⟩]⟩]⟩
    let connection := (opened database none).after
      [.setScanFallback false, .setIndexEligible "records_idx_vp" true]
    connection.hint records = some "records_idx_vp" ∧
      (∀ order : IndexOrder, connection.database.hasIndexExactly (order.indexName records) ∧
        (connection.answer (.indexEligibility (order.indexName records))).outcome =
          .ok (some "t")) ∧
      ¬connection.Truthful records := by
  intro records database connection
  have hhint : connection.hint records = some "records_idx_vp" := by decide
  have hboth (order : IndexOrder) :
      connection.database.hasIndexExactly (order.indexName records) = true := by
    cases order <;> decide
  have hmark (order : IndexOrder) :
      connection.mark? (order.indexName records) ≠ some false := by
    cases order <;> decide
  clear_value connection
  have heligible (order : IndexOrder) :
      (connection.answer (.indexEligibility (order.indexName records))).outcome =
        .ok (some "t") := (reports_eligible_iff (hboth order)).mpr (hmark order)
  refine ⟨hhint, fun order => ⟨hboth order, heligible order⟩, fun htruthful => ?_⟩
  exact hmark .pathFirst ((reportsForced_iff hboth).mp ((htruthful .valueFirst).mp hhint)).2.2

end Connection
end Store
end IndexBench
