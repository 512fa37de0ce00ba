import IndexBench.Proofs.Store.Forcing
import IndexBench.Proofs.Store.Recreation
import Mathlib.Data.List.Basic
import Mathlib.Data.List.Induction

/-!
# Eligibility by the history of a connection

An index is there if it was built and its table was not created anew since.  It is reported
to be ineligible if the last request that marked it said so, unless a request since then has
cleared its mark.  The latter is the creation of its table, but also that of a table to whose
name only `_idx` is missing from the name of its table: marks go by the start of their names.

Main definitions:

- `Connection.Standing` says that an entry of a record is undone by none behind it.
- `TableName.Clears` says which tables clear the marks of another when they are created anew.
- `Connection.Indexed` and `Connection.Disabled` say by a record that an index exists, and
  that it is marked ineligible.

Main results:

- Theorem `Connection.hasIndexExactly_after_iff`: an index exists as the history says.
- Theorem `Connection.lastMark_eq_false_iff`: a mark is put as the history says.
- Theorem `Connection.eligibility_after_iff`: what is reported of an index, by the history.
-/

namespace IndexBench

/-- Whether creating a table of a name anew clears the marks on the indexes of a table: it is
the same table, or the name of the table is that name with `_idx` behind it or starts with
that name and `_idx_`. -/
def TableName.Clears (name table : TableName) : Prop :=
  name = table ∨ table.text = name.text ++ "_idx" ∨
    (name.text ++ "_idx_").toList <+: table.text.toList

namespace Store

/-- Of table names that do not differ only in case, some do not either. -/
theorem CaseDistinct.subset {names fewer : List TableName} (h : CaseDistinct names)
    (hfewer : fewer ⊆ names) : CaseDistinct fewer :=
  fun a ha b hb => h a (hfewer ha) b (hfewer hb)

namespace Connection

/-! ## Records -/

/-- A record has the requests and nothing else. -/
theorem fst_mem_of_mem_record {connection : Connection} {requests : List Request}
    {entry : Request × Bool} (h : entry ∈ connection.record requests) : entry.1 ∈ requests := by
  induction requests generalizing connection with
  | nil => cases h
  | cons request requests ih =>
      rcases List.mem_cons.mp h with rfl | hlater
      · exact .head _
      · exact .tail _ (ih hlater)

/-- Whether a record has an entry behind which nothing undoes it. -/
def Standing (undoes : Request × Bool → Prop) (entry : Request × Bool)
    (record : List (Request × Bool)) : Prop :=
  ∃ earlier later, record = earlier ++ entry :: later ∧ ∀ other ∈ later, ¬undoes other

/-- No entry stands in an empty record. -/
theorem not_standing_nil (undoes : Request × Bool → Prop) (entry : Request × Bool) :
    ¬Standing undoes entry [] := by
  rintro ⟨earlier, later, hrecord, -⟩
  exact List.append_ne_nil_of_right_ne_nil _ (List.cons_ne_nil _ _) hrecord.symm

/-- An entry stands if it is the last one, or if it stood and the last one does not undo
it. -/
theorem standing_concat_iff {undoes : Request × Bool → Prop} {entry last : Request × Bool}
    {record : List (Request × Bool)} :
    Standing undoes entry (record ++ [last]) ↔
      last = entry ∨ Standing undoes entry record ∧ ¬undoes last := by
  constructor
  · rintro ⟨earlier, later, hrecord, hlater⟩
    rcases List.eq_nil_or_concat' later with rfl | ⟨later, other, rfl⟩
    · exact .inl (List.singleton_inj.mp (List.append_inj' hrecord rfl).2)
    · rw [← List.cons_append, ← List.append_assoc] at hrecord
      obtain ⟨hearlier, hlast⟩ := List.append_inj' hrecord rfl
      obtain rfl := List.singleton_inj.mp hlast
      rw [List.forall_mem_append] at hlater
      exact .inr ⟨⟨earlier, later, hearlier, hlater.1⟩, hlater.2 last (.head _)⟩
  · rintro (rfl | ⟨⟨earlier, later, rfl, hlater⟩, hlast⟩)
    · exact ⟨record, [], rfl, List.forall_mem_nil _⟩
    · refine ⟨earlier, later ++ [last], by rw [List.append_assoc, List.cons_append], ?_⟩
      exact List.forall_mem_append.mpr ⟨hlater, List.forall_mem_singleton.mpr hlast⟩

/-! ## Indexes -/

/-- Whether the index of an order was built on a table that was not created anew since. -/
def Indexed (table : TableName) (order : IndexOrder) (record : List (Request × Bool)) : Prop :=
  Standing (fun later => later = (.recreateTable table, true)) (.createIndex table order, true)
    record

/-- A record leaves an index on a table exactly if it was built on it and the table was not
created anew since, if no other table is named alike up to case. -/
theorem built_iff_indexed {table : TableName} (order : IndexOrder)
    {record : List (Request × Bool)}
    (h : ∀ entry ∈ record, ∀ name, entry.1.table? = some name →
      sameName name.text table.text = true → name = table) :
    built table order record = true ↔ Indexed table order record := by
  induction record using List.reverseRecOn with
  | nil => exact iff_of_false Bool.false_ne_true (not_standing_nil _ _)
  | append_singleton record last ih =>
      rw [List.forall_mem_append] at h
      have hlast := h.2 last (.head _)
      rw [Indexed, standing_concat_iff, ← Indexed, ← ih h.1, built, List.foldl_append]
      change builtAfter table order (built table order record) last = true ↔ _
      generalize built table order record = before
      have hsame (name : TableName) (hname : last.1.table? = some name) :
          sameName name.text table.text = true ↔ name = table :=
        ⟨hlast name hname, fun heq => by rw [heq, sameName_refl]⟩
      obtain ⟨request, ok⟩ := last
      cases ok with
      | false => cases request <;> simp [builtAfter]
      | true =>
          cases request with
          | recreateTable name => simp [builtAfter, ← hsame name rfl, and_comm]
          | createIndex name other => simp [builtAfter, hsame name rfl, or_comm]
          | _ => simp [builtAfter]

variable {requests : List Request} {table : TableName}

/-- After requests about tables of which no two names differ only in case, an index exists as
the history says. -/
theorem hasIndexExactly_after_iff (refusal : Option StoreFault) (order : IndexOrder)
    (h : CaseDistinct (table :: requests.filterMap Request.table?)) :
    ((opened .empty refusal).after requests).database.hasIndexExactly
        (order.indexName table) = true ↔
      Indexed table order ((opened .empty refusal).record requests) := by
  have hbuilt : ((opened .empty refusal).after requests).database.hasIndex
      (order.indexName table) = built table order ((opened .empty refusal).record requests) :=
    hasIndex_after .empty requests table order
  rw [← built_iff_indexed order, ← hbuilt, Database.hasIndexExactly_iff, Database.hasIndex_iff]
  · refine ⟨fun ⟨owner, howner, index, hindex, hname⟩ => ⟨owner, howner, index, hindex, ?_⟩,
      fun ⟨owner, howner, index, hindex, hname⟩ => ⟨owner, howner, index, hindex, ?_⟩⟩
    · rw [hname, sameName_refl]
    -- the index is named after a table of the requests, which is this one
    · have horderly := orderly_after refusal (h.subset (List.subset_cons_self _ _))
      obtain ⟨name, hnames, other, hother, -⟩ := horderly.indexed owner howner index hindex
      rw [hother, sameName_indexName_iff] at hname
      rw [hother, hname.2, h name (List.mem_cons_of_mem _ hnames) table (.head _) hname.1]
  · intro entry hentry name hname hsame
    have hmem := List.mem_filterMap.mpr ⟨entry.1, fst_mem_of_mem_record hentry, hname⟩
    exact h name (List.mem_cons_of_mem _ hmem) table (.head _) hsame

/-! ## Marks -/

/-- Whether the last request that marked the index of an order marked it ineligible, and no
table was created anew since that clears the mark. -/
def Disabled (table : TableName) (order : IndexOrder) (record : List (Request × Bool)) : Prop :=
  Standing (fun later =>
      (∃ eligible, later = (.setIndexEligible (order.indexName table) eligible, true)) ∨
        ∃ name : TableName, later = (.recreateTable name, true) ∧ name.Clears table)
    (.setIndexEligible (order.indexName table) false, true) record

/-- Marks on the indexes of a table go by the names of the tables that clear them. -/
theorem marksIndexOf_iff_clears (name table : TableName) (order : IndexOrder) (mark : Bool) :
    marksIndexOf name (order.indexName table, mark) = true ↔ name.Clears table := by
  by_cases hname : name = table
  · subst hname
    exact iff_of_true (marksIndexOf_indexName name order mark) (.inl rfl)
  · have htext : name.text ≠ table.text := by
      intro heq
      cases name
      cases table
      cases heq
      exact hname rfl
    have hsplit : name.text ++ "_idx_" = name.text ++ "_idx" ++ "_" := by
      rw [String.append_assoc]
      rfl
    have hwhole : (name.text ++ "_idx_").toList = (table.text ++ "_").toList ↔
        table.text = name.text ++ "_idx" := by
      rw [String.toList_inj, hsplit, String.append_left_inj, eq_comm]
    rw [marksIndexOf_indexName_iff htext, TableName.Clears, or_iff_right hname, ← hwhole,
      String.toList_append, String.toList_append]
    exact List.prefix_concat_iff

/-- A record leaves an index marked ineligible exactly if it was marked so last and the mark
was not cleared since. -/
theorem lastMark_eq_false_iff (table : TableName) (order : IndexOrder)
    (record : List (Request × Bool)) :
    lastMark (order.indexName table) record = some false ↔ Disabled table order record := by
  induction record using List.reverseRecOn with
  | nil => exact iff_of_false (by simp [lastMark]) (not_standing_nil _ _)
  | append_singleton record last ih =>
      rw [Disabled, standing_concat_iff, ← Disabled, ← ih, lastMark, List.foldl_append]
      change markAfter (order.indexName table) (lastMark (order.indexName table) record) last =
        some false ↔ _
      generalize lastMark (order.indexName table) record = before
      obtain ⟨request, ok⟩ := last
      cases ok with
      | false => cases request <;> simp [markAfter]
      | true =>
          cases request with
          | recreateTable name =>
              by_cases hclears : name.Clears table
              · have hmarks := (marksIndexOf_iff_clears name table order true).mpr hclears
                simp [markAfter, hmarks, hclears]
              · have hmarks := mt (marksIndexOf_iff_clears name table order true).mp hclears
                simp [markAfter, hmarks, hclears]
          | setIndexEligible name eligible =>
              by_cases hname : order.indexName table = name
              · simp [markAfter, hname]
              · simp [markAfter, hname, Ne.symm hname]
          | _ => simp [markAfter]

/-! ## Reports -/

/-- After requests about tables of which no two names differ only in case, an index is reported
as the history says: not at all exactly if it is not there, to be ineligible exactly if it was
marked so last and the mark was not cleared since, and to be eligible in every other case.
What is not there cannot be marked, and the attempt changes nothing. -/
theorem eligibility_after_iff (refusal : Option StoreFault) (order : IndexOrder)
    (h : CaseDistinct (table :: requests.filterMap Request.table?)) :
    let connection := (opened .empty refusal).after requests
    let record := (opened .empty refusal).record requests
    let reported := (connection.answer (.indexEligibility (order.indexName table))).outcome
    (reported = .ok none ↔ ¬Indexed table order record) ∧
      (Indexed table order record →
        (reported = .ok (some "f") ↔ Disabled table order record) ∧
        (reported = .ok (some "t") ↔ ¬Disabled table order record)) ∧
      ∀ index, (∀ owner other, index = IndexOrder.indexName other owner →
          ¬Indexed owner other record) →
        ∀ eligible, connection.answer (.setIndexEligible index eligible) =
          ⟨.error (.unknownIndex index), [], connection⟩ := by
  intro connection record reported
  have hexists := hasIndexExactly_after_iff refusal order h
  have hnames := h.subset (List.subset_cons_self _ _)
  refine ⟨?_, fun hindexed => ?_, fun index hmissing eligible => ?_⟩
  · refine Iff.trans ?_ (not_congr hexists)
    change reported = .ok none ↔ ¬connection.database.hasIndexExactly (order.indexName table) = true
    by_cases hindex : connection.database.hasIndexExactly (order.indexName table) = true
    · simp [reported, outcome_indexEligibility hindex, hindex]
    · simp [reported, answer, hindex]
  · have hindex := hexists.mpr hindexed
    have hmark : connection.mark? (order.indexName table) =
        lastMark (order.indexName table) record := mark?_after _ requests _
    rw [reports_ineligible_iff hindex, reports_eligible_iff hindex, ne_eq, hmark,
      lastMark_eq_false_iff]
    exact ⟨Iff.rfl, Iff.rfl⟩
  · have hindex : connection.database.hasIndexExactly index = false := by
      refine Bool.eq_false_iff.mpr fun hindex => ?_
      obtain ⟨found, hfound, existing, hexisting, hname⟩ :=
        Database.hasIndexExactly_iff.mp hindex
      obtain ⟨owner, howner, other, hother, -⟩ :=
        (orderly_after refusal hnames).indexed found hfound existing hexisting
      have howners : CaseDistinct (owner :: requests.filterMap Request.table?) :=
        hnames.subset (List.cons_subset.mpr ⟨howner, List.Subset.refl _⟩)
      rw [← hname, hother, hasIndexExactly_after_iff refusal other howners] at hindex
      exact hmissing owner other (hname.symm.trans hother) hindex
    simp only [answer, hindex, Bool.false_eq_true, if_false]

/-- An index stays marked when a table of an unrelated name is created anew. -/
theorem eligibility_after_iff_unrelated :
    let records : TableName := ⟨"records", rfl⟩
    let archive : TableName := ⟨"archive", rfl⟩
    let history : List Request :=
      [ .recreateTable records, .createIndex records .pathFirst,
        .setIndexEligible "records_idx_pv" false, .recreateTable archive ]
    (((opened .empty none).after history).answer (.indexEligibility "records_idx_pv")).outcome =
      .ok (some "f") := by
  intro records archive history
  have hrecord : (opened .empty none).record history = history.map (·, true) := by
    decide +kernel
  have hdistinct : CaseDistinct (records :: history.filterMap Request.table?) := by
    decide
  have hindexed : Indexed records .pathFirst ((opened .empty none).record history) := by
    rw [hrecord]
    exact ⟨[(.recreateTable records, true)], _, rfl, by decide⟩
  have hapart : ¬archive.Clears records := by
    rintro (heq | heq | hstart)
    · exact absurd (congrArg TableName.text heq) (by decide)
    · exact absurd heq (by decide)
    · exact absurd hstart (by decide)
  have hdisabled : Disabled records .pathFirst ((opened .empty none).record history) := by
    rw [hrecord]
    refine ⟨[(.recreateTable records, true), (.createIndex records .pathFirst, true)],
      [(.recreateTable archive, true)], rfl, List.forall_mem_singleton.mpr ?_⟩
    rintro (⟨eligible, hset⟩ | ⟨name, hname, hclears⟩)
    · cases hset
    · cases hname
      exact hapart hclears
  exact (((eligibility_after_iff none .pathFirst hdistinct).2.1 hindexed).1).mpr hdisabled

/-- An index that was marked ineligible last, on a table that was not created anew since, is
reported to be eligible once a table is created anew to whose name only `_idx` is missing from
that of its table, although the names differ by more than case and none of them starts with
the other and `_idx_`. -/
theorem eligibility_reset_by_shorter_name :
    let shorter : TableName := ⟨"t", rfl⟩
    let longer : TableName := ⟨"t_idx", rfl⟩
    let history : List Request :=
      [ .recreateTable shorter, .recreateTable longer, .createIndex longer .pathFirst,
        .setIndexEligible "t_idx_idx_pv" false, .recreateTable shorter ]
    let names := history.filterMap Request.table?
    let record := (opened .empty none).record history
    CaseDistinct names ∧
      (∀ a ∈ names, ∀ b ∈ names,
        ¬(lowerName a.text ++ "_idx_").toList <+: (lowerName b.text).toList) ∧
      Indexed longer .pathFirst record ∧
      Standing (fun later =>
          (∃ eligible, later = (.setIndexEligible "t_idx_idx_pv" eligible, true)) ∨
            later = (.recreateTable longer, true))
        (.setIndexEligible "t_idx_idx_pv" false, true) record ∧
      (((opened .empty none).after history).answer (.indexEligibility "t_idx_idx_pv")).outcome =
        .ok (some "t") := by
  intro shorter longer history names record
  have hrecord : record = history.map (·, true) := by decide
  have hdistinct : CaseDistinct names := by decide
  have hindexed : Indexed longer .pathFirst record := by
    rw [hrecord]
    exact ⟨[(.recreateTable shorter, true), (.recreateTable longer, true)], _, rfl,
      by decide⟩
  refine ⟨hdistinct, by decide, hindexed, ?_, ?_⟩
  · rw [hrecord]
    refine ⟨[(.recreateTable shorter, true), (.recreateTable longer, true),
      (.createIndex longer .pathFirst, true)], [(.recreateTable shorter, true)], rfl,
      List.forall_mem_singleton.mpr ?_⟩
    rintro (⟨eligible, hset⟩ | hname)
    · cases hset
    · exact absurd hname (by decide)
  · have hnames : CaseDistinct (longer :: names) := by decide
    have hexists := (hasIndexExactly_after_iff none .pathFirst hnames).mpr hindexed
    have hmark : ((opened .empty none).after history).mark? "t_idx_idx_pv" = none := by
      rw [mark?_after]
      change record.foldl (markAfter "t_idx_idx_pv") none = none
      rw [hrecord]
      decide
    refine (outcome_indexEligibility hexists).trans ?_
    change Except.ok (some (markText (((opened .empty none).after history).mark?
      "t_idx_idx_pv"))) = _
    rw [hmark]
    rfl

end Connection
end Store
end IndexBench
