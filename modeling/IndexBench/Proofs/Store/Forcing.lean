import IndexBench.Proofs.Store.Counting
import IndexBench.Proofs.Store.Orderly

/-!
# Whether a forced index exists

An index that queries force was marked when it existed, but its table may have been created
anew since.  That takes the index with it under every spelling of the name, while the mark
goes only under its own.  So a forced index exists exactly if it was built and its table was
not created anew under any spelling since.

Main definitions:

- `Connection.built` says that a record of requests leaves an index on a table.

Main results:

- Theorem `Connection.hasIndex_after`: an index exists exactly if the requests leave it there.
- Theorem `Connection.forced_index_iff_built`: a forced index exists exactly if it was built
  last, and queries that force it count what they select or else fail for want of it.
-/

namespace IndexBench
namespace Store

/-! ## Indexes after requests -/

namespace Connection

/-- What becomes of the index of an order on a table when a request succeeds or fails. -/
def builtAfter (table : TableName) (order : IndexOrder) (built : Bool) : Request × Bool → Bool
  | (.recreateTable name, true) => !sameName name.text table.text && built
  | (.createIndex name other, true) => built || sameName name.text table.text && other == order
  | _ => built

/-- Whether a record of requests leaves the index of an order on a table that had none: it
was built, and the table was not created anew since. -/
def built (table : TableName) (order : IndexOrder) (record : List (Request × Bool)) : Bool :=
  record.foldl (builtAfter table order) false

end Connection

/-- A change leaves, takes or adds an index as the outcome of its request says. -/
theorem Database.Change.hasIndex {database after : Database} (h : database.Schema)
    {request : Request} {ok : Bool} (hchange : database.Change request ok after)
    (table : TableName) (order : IndexOrder) :
    after.hasIndex (order.indexName table) =
      Connection.builtAfter table order (database.hasIndex (order.indexName table))
        (request, ok) := by
  cases hchange with
  | kept hkept =>
      cases ok with
      | false => cases request <;> rfl
      | true => cases request <;> first | rfl | cases hkept rfl
  | @recreated name => exact h.indexed.hasIndex_recreate name.text order table
  | @inserted name rows =>
      rw [Bool.eq_iff_iff, hasIndex_modify (addsIndexes_rows rows)]
      simp [Connection.builtAfter]
  | @indexed name other hfound =>
      rw [Bool.eq_iff_iff, hasIndex_modify (addsIndexes_index _), hfound]
      simp [Connection.builtAfter, sameName_indexName_iff]

namespace Connection

/-- An index exists after requests exactly if they leave it there. -/
theorem hasIndex_after {connection : Connection} (h : connection.database.Schema)
    (requests : List Request) (table : TableName) (order : IndexOrder) :
    (connection.after requests).database.hasIndex (order.indexName table) =
      (connection.record requests).foldl (builtAfter table order)
        (connection.database.hasIndex (order.indexName table)) := by
  induction requests generalizing connection with
  | nil => rfl
  | cons request requests ih =>
      have hchange := change_answer h.creatable request
      rw [record, List.foldl_cons, ← hchange.hasIndex h table order]
      exact ih (h.change hchange)

/-! ## Forced indexes -/

/-- An index that queries on a table force is one of its two, and marked eligible. -/
theorem exists_of_hint_eq_some {connection : Connection} {table : TableName} {index : String}
    (h : connection.hint table = some index) :
    ∃ order : IndexOrder, index = order.indexName table ∧
      connection.mark? (order.indexName table) = some true := by
  unfold hint at h
  split at h
  · cases h
  · split at h
    · rename_i only honly
      obtain rfl := Option.some.inj h
      have hmem := honly ▸ List.mem_singleton_self only
      rw [List.mem_filter, List.mem_map] at hmem
      obtain ⟨⟨order, -, rfl⟩, hmark⟩ := hmem
      exact ⟨order, rfl, eq_of_beq hmark⟩
    · cases h

/-- After requests over one connection an index that queries on a table force is one of its
two.  It exists exactly if it was built and its table was not created anew since under any
spelling, and then it is an index of the table.  If so a query counts what it selects, and
else it fails for want of the index.  It exists in any case if no two names of tables differ
only in case. -/
theorem forced_index_iff_built (refusal : Option StoreFault) {requests : List Request}
    {table : TableName} {index : String}
    (hhint : ((opened .empty refusal).after requests).hint table = some index) :
    ∃ order : IndexOrder, index = order.indexName table ∧
      ((opened .empty refusal).after requests).database.hasIndex index =
        built table order ((opened .empty refusal).record requests) ∧
      (∀ found, ((opened .empty refusal).after requests).database.find? table.text = some found →
        (found.index? index).isSome =
            built table order ((opened .empty refusal).record requests) ∧
          ∀ selector regex, Regex.compile selector.matcher = .ok regex → ∀ shape,
            ((opened .empty refusal).after requests).counts table selector shape =
              if built table order ((opened .empty refusal).record requests) then
                .ok (found.selected regex selector)
              else .error (.store (.noSuchIndex index))) ∧
      (CaseDistinct (requests.filterMap Request.table?) →
        built table order ((opened .empty refusal).record requests) = true) := by
  obtain ⟨order, rfl, hmark⟩ := exists_of_hint_eq_some hhint
  have hreached : ((opened .empty refusal).after requests).database.Reached :=
    reached_after .empty requests
  have hexists : ((opened .empty refusal).after requests).database.hasIndex
      (order.indexName table) = built table order ((opened .empty refusal).record requests) :=
    hasIndex_after .empty requests table order
  refine ⟨order, rfl, hexists, fun found hfound => ?_, fun hdistinct => ?_⟩
  · have hbuilt : (found.index? (order.indexName table)).isSome =
        built table order ((opened .empty refusal).record requests) := by
      rw [← hexists, Bool.eq_iff_iff]
      exact (hreached.schema.hasIndex_iff_of_find? hfound).symm
    refine ⟨hbuilt, fun selector regex hregex shape => ?_⟩
    split
    · rename_i hyes
      have hplan : ((opened .empty refusal).after requests).Plannable table found := by
        intro index hindex
        obtain rfl := Option.some.inj (hhint.symm.trans hindex)
        rw [hbuilt, hyes]
      exact counts_eq_selected hreached hfound hplan hregex shape
    · rename_i hno
      have hmissing := hbuilt.trans (Bool.eq_false_iff.mpr hno)
      exact counts_eq_noSuchIndex hreached hfound hhint hmissing selector shape
  · have hexactly := (orderly_after refusal hdistinct).marked (order.indexName table)
      (by rw [hmark]; rfl)
    obtain ⟨owner, howner, existing, hexisting, hname⟩ := Database.hasIndexExactly_iff.mp hexactly
    rw [← hexists]
    exact Database.hasIndex_iff.mpr
      ⟨owner, howner, existing, hexisting, by rw [hname, sameName_refl]⟩

/-- An index that was built under another spelling of the name is there. -/
theorem forced_index_iff_built_respelled :
    let records : TableName := ⟨"records", rfl⟩
    let respelled : TableName := ⟨"Records", rfl⟩
    let history : List Request :=
      [ .recreateTable records, .createIndex records .pathFirst,
        .setIndexEligible "records_idx_pv" true, .setScanFallback false,
        .recreateTable respelled, .createIndex respelled .pathFirst ]
    ((opened .empty none).after history).hint records = some "records_idx_pv" ∧
      ((opened .empty none).after history).database.hasIndex "records_idx_pv" = true := by
  intro records respelled history
  have hstates : ((opened .empty none).after history).hint records = some "records_idx_pv" ∧
      built records .pathFirst ((opened .empty none).record history) = true := by
    decide +kernel
  obtain ⟨hhint, hbuilt⟩ := hstates
  obtain ⟨order, hindex, hexists, -⟩ := forced_index_iff_built none hhint
  have horder : order = .pathFirst := by
    cases order with
    | valueFirst => exact absurd hindex (by decide)
    | pathFirst => rfl
  rw [horder, hbuilt] at hexists
  exact ⟨hhint, hexists⟩

/-- A table that is created anew under another spelling of its name loses the index that its
queries go on to force. -/
theorem forced_index_missing :
    let records : TableName := ⟨"t", rfl⟩
    let respelled : TableName := ⟨"T", rfl⟩
    let history : List Request :=
      [ .recreateTable records, .createIndex records .pathFirst, .setScanFallback false,
        .setIndexEligible "t_idx_pv" true, .recreateTable respelled ]
    ((opened .empty none).after history).hint records = some "t_idx_pv" ∧
      ((opened .empty none).after history).database.hasIndex "t_idx_pv" = false ∧
      ((opened .empty none).after history).database.find? records.text =
        some ⟨"T", [], []⟩ ∧
      (∃ regex, Regex.compile "^" = .ok regex) ∧
      ((opened .empty none).after history).counts records ⟨"^", 0, 1⟩ .count =
        .error (.store (.noSuchIndex "t_idx_pv")) := by
  intro records respelled history
  have hreached : ((opened .empty none).after history).database.Reached :=
    reached_after .empty history
  have hstate : (opened .empty none).after history =
      ⟨⟨[⟨"T", [], []⟩]⟩, none, false, [("t_idx_pv", true)], []⟩ := by
    decide
  generalize (opened .empty none).after history = connection at hreached hstate ⊢
  have hhint : connection.hint records = some "t_idx_pv" := by
    rw [hstate]
    decide
  have hfound : connection.database.find? records.text = some ⟨"T", [], []⟩ := by
    rw [hstate]
    decide
  exact ⟨hhint, by rw [hstate]; rfl, hfound, ⟨_, rfl⟩,
    counts_eq_noSuchIndex hreached hfound hhint rfl ⟨"^", 0, 1⟩ .count⟩

end Connection
end Store
end IndexBench
