import IndexBench.Proofs.Store.Enforcement
import IndexBench.Proofs.Store.Schema

/-!
# What creating a table anew does to other tables

A table that is created anew loses its rows, its indexes and the marks that go by its name.
Other tables keep their rows and indexes.  They keep their marks too, unless they are named
like the indexes of the table, up to what follows the start that marks go by.

Main results:

- Theorem `Connection.marksIndexOf_indexName_iff`: the tables whose marks go by the name of
  another table.
- Theorem `Connection.recreate_other_iff`: creating a table anew leaves another one as it was
  exactly if it fails, or the other is not named like an index, or no index of the other is
  forced or reported to be ineligible.
-/

namespace IndexBench
namespace Store
namespace Connection

/-! ## Marks that go by a name -/

/-- The marks on the indexes of another table go by the name of a table if the other is named
like an index of the table up to the ending. -/
theorem marksIndexOf_indexName_iff {table other : TableName} (hne : table.text ≠ other.text)
    (order : IndexOrder) (mark : Bool) :
    marksIndexOf table (order.indexName other, mark) = true ↔
      (table.text ++ "_idx_").toList <+: (other.text ++ "_").toList := by
  rw [ne_eq, ← String.toList_inj] at hne
  simp only [marksIndexOf, List.isPrefixOf_iff_prefix, IndexOrder.indexName, String.toList_append]
  generalize table.text.toList = start at hne ⊢
  generalize other.text.toList = longer at hne ⊢
  have hstart : "_idx_".toList = ['_', 'i', 'd', 'x', '_'] := rfl
  rw [hstart]
  constructor
  · rintro ⟨rest, hrest⟩
    rw [List.append_assoc, List.append_assoc, List.append_eq_append_iff] at hrest
    -- by a few characters more the start cannot be met again, as its last two differ
    rcases hrest with ⟨more, rfl, hover⟩ | ⟨more, rfl, hover⟩
    · rcases more with _ | ⟨a, _ | ⟨b, _ | ⟨c, _ | ⟨d, more⟩⟩⟩⟩
      · exact absurd (List.append_nil start).symm hne
      · simp at hover
      · simp at hover
      · simp at hover
      -- the more characters are at least the start without its last one
      simp only [List.cons_append, List.cons.injEq] at hover
      obtain ⟨rfl, rfl, rfl, rfl, hover⟩ := hover
      cases more with
      | nil => simp
      | cons e more =>
          obtain rfl := (List.cons.inj hover).1
          simp
    · rcases more with _ | ⟨a, _ | ⟨b, _ | ⟨c, more⟩⟩⟩
      · exact absurd (List.append_nil longer) hne
      · simp at hover
      · simp at hover
      -- the ending is too short for the start with three more characters before it
      have hlength := congrArg List.length hover
      have htag : order.tag.toList.length = 2 := by cases order <;> rfl
      simp only [List.length_append, List.length_cons, List.length_nil, htag] at hlength
      omega
  · intro h
    refine h.trans ?_
    simp

/-- Queries force alike where scans are allowed alike and the same marks are put. -/
theorem hint_congr {connection other : Connection} {table : TableName}
    (hscan : other.scanFallback = connection.scanFallback)
    (hmarks : ∀ order : IndexOrder,
      other.mark? (order.indexName table) = connection.mark? (order.indexName table)) :
    other.hint table = connection.hint table := by
  simp only [hint, hscan, IndexOrder.buildSequence, List.map_cons, List.map_nil,
    List.filter_cons, List.filter_nil, hmarks]

/-- Creating a table anew leaves the scan switch. -/
theorem scanFallback_recreate (connection : Connection) (table : TableName) :
    (connection.answer (.recreateTable table)).state.scanFallback = connection.scanFallback := by
  simp only [answer, recreate]
  split
  · rfl
  · rename_i dropped hdrop
    obtain ⟨-, rfl⟩ := drop_eq_ok hdrop
    split <;> rfl

/-! ## Other tables -/

section Other

variable {connection : Connection} {table other : TableName}

/-- Creating a table anew leaves the rows and the indexes of every table of another name. -/
theorem change_recreate_of_ne {database after : Database} {ok : Bool}
    (hindexed : database.IndexedFor fun _ => True)
    (hchange : database.Change (.recreateTable table) ok after)
    (hother : sameName table.text other.text = false) :
    after.find? other.text = database.find? other.text ∧
      ∀ order : IndexOrder, after.hasIndexExactly (order.indexName other) =
        database.hasIndexExactly (order.indexName other) := by
  cases hchange with
  | kept => exact ⟨rfl, fun _ => rfl⟩
  | recreated =>
      refine ⟨?_, hindexed.hasIndexExactly_recreate hother⟩
      rw [Database.find?_recreate, hother, if_neg Bool.false_ne_true]

/-- An index that has no mark is forced by no query and reported to be eligible, which is as
it was exactly if the index was neither forced nor reported to be ineligible. -/
theorem unmarked_iff {unmarked : Connection}
    (hindexes : ∀ order : IndexOrder, unmarked.database.hasIndexExactly (order.indexName other) =
      connection.database.hasIndexExactly (order.indexName other))
    (hmarks : ∀ order : IndexOrder, unmarked.mark? (order.indexName other) = none) :
    (unmarked.hint other = connection.hint other ∧ ∀ order : IndexOrder,
        (unmarked.answer (.indexEligibility (order.indexName other))).outcome =
          (connection.answer (.indexEligibility (order.indexName other))).outcome) ↔
      connection.hint other = none ∧ ∀ order : IndexOrder,
        (connection.answer (.indexEligibility (order.indexName other))).outcome ≠
          .ok (some "f") := by
  have hhint : unmarked.hint other = none :=
    hint_eq_none fun order hmark => by rw [hmarks] at hmark; cases hmark
  rw [hhint, eq_comm (a := none)]
  refine and_congr_right fun _ => forall_congr' fun order => ?_
  simp only [answer, hindexes, hmarks]
  cases connection.database.hasIndexExactly (order.indexName other) with
  | false => simp
  | true => rcases connection.mark? (order.indexName other) with _ | _ | _ <;> simp [markText]

/-- Creating a table anew leaves the rows and the indexes of every table of another name.  It
leaves what queries on the other table force and what its indexes are reported to be exactly
if it fails, or the other table is not named like an index up to the ending, or no index of
the other is forced or reported to be ineligible. -/
theorem recreate_other_iff (hreached : connection.database.Reached)
    (hother : sameName table.text other.text = false) :
    (connection.answer (.recreateTable table)).state.database.find? other.text =
        connection.database.find? other.text ∧
      (∀ order : IndexOrder, (connection.answer
          (.recreateTable table)).state.database.hasIndexExactly (order.indexName other) =
        connection.database.hasIndexExactly (order.indexName other)) ∧
      (((connection.answer (.recreateTable table)).state.hint other = connection.hint other ∧
          ∀ order : IndexOrder, ((connection.answer (.recreateTable table)).state.answer
              (.indexEligibility (order.indexName other))).outcome =
            (connection.answer (.indexEligibility (order.indexName other))).outcome) ↔
        (connection.answer (.recreateTable table)).outcome.isOk = false ∨
          ¬(table.text ++ "_idx_").toList <+: (other.text ++ "_").toList ∨
          connection.hint other = none ∧ ∀ order : IndexOrder,
            (connection.answer (.indexEligibility (order.indexName other))).outcome ≠
              .ok (some "f")) := by
  have hschema := hreached.schema
  obtain ⟨hfound, hindexes⟩ := change_recreate_of_ne hschema.indexed
    (change_answer hschema.creatable (.recreateTable table)) hother
  refine ⟨hfound, hindexes, ?_⟩
  have hscan := scanFallback_recreate connection table
  have hmarks (order : IndexOrder) :=
    mark?_answer connection (.recreateTable table) (order.indexName other)
  have hne : table.text ≠ other.text := fun heq => by
    rw [heq, sameName_refl] at hother
    cases hother
  generalize (connection.answer (.recreateTable table)).state = after at hindexes hscan hmarks ⊢
  generalize (connection.answer (.recreateTable table)).outcome.isOk = ok at hmarks ⊢
  -- where the marks of the other table stay, so does all that goes by them
  have hkept (h : ∀ order : IndexOrder,
      after.mark? (order.indexName other) = connection.mark? (order.indexName other)) :
      after.hint other = connection.hint other ∧ ∀ order : IndexOrder,
        (after.answer (.indexEligibility (order.indexName other))).outcome =
          (connection.answer (.indexEligibility (order.indexName other))).outcome :=
    ⟨hint_congr hscan h, fun order => by simp only [answer, hindexes, h]⟩
  cases ok with
  | false => exact iff_of_true (hkept hmarks) (.inl rfl)
  | true =>
      by_cases hnamed : (table.text ++ "_idx_").toList <+: (other.text ++ "_").toList
      · have hnone (order : IndexOrder) : after.mark? (order.indexName other) = none := by
          rw [hmarks, markAfter, if_pos ((marksIndexOf_indexName_iff hne order true).mpr hnamed)]
        refine (unmarked_iff hindexes hnone).trans ⟨fun h => .inr (.inr h), fun h => ?_⟩
        rcases h with h | h | h
        · cases h
        · exact absurd hnamed h
        · exact h
      · refine iff_of_true (hkept fun order => ?_) (.inr (.inl hnamed))
        have hother := mt (marksIndexOf_indexName_iff hne order true).mp hnamed
        rw [hmarks, markAfter, if_neg hother]

end Other

/-- A table of an unrelated name keeps what is reported of it. -/
theorem recreate_other_iff_unrelated :
    let records : TableName := ⟨"records", rfl⟩
    let archive : TableName := ⟨"archive", rfl⟩
    let history : List Request :=
      [ .recreateTable records, .recreateTable archive, .createIndex archive .pathFirst,
        .setIndexEligible "archive_idx_pv" false ]
    let recreated := ((opened .empty none).after history).answer (.recreateTable records)
    recreated.outcome.isOk = true ∧
      (recreated.state.answer (.indexEligibility "archive_idx_pv")).outcome = .ok (some "f") := by
  intro records archive history
  have hreached : ((opened .empty none).after history).database.Reached :=
    reached_after .empty history
  have hstates : (opened .empty none).after history =
        ⟨⟨[⟨"records", [], []⟩, ⟨"archive", [], [⟨"archive_idx_pv", .pathFirst⟩]⟩]⟩, none, true,
          [("archive_idx_pv", false)], []⟩ ∧
      (((opened .empty none).after history).answer (.recreateTable records)).outcome.isOk =
        true := by
    decide +kernel
  generalize (opened .empty none).after history = connection at hreached hstates ⊢
  obtain ⟨hconnection, hok⟩ := hstates
  have hbefore : (connection.answer (.indexEligibility "archive_idx_pv")).outcome =
      .ok (some "f") := by
    rw [hconnection]
    rfl
  have hframe := @recreate_other_iff connection records archive hreached (by decide)
  have hreport := (hframe.2.2.mpr (.inr (.inl (by decide)))).2 .pathFirst
  exact ⟨hok, hreport.trans hbefore⟩

/-- An index of a table whose name starts like the indexes of the one created anew is reported
to be eligible again, although the tables differ by more than case and the other is not named
like an index. -/
theorem recreate_resets_prefixed :
    let records : TableName := ⟨"t", rfl⟩
    let prefixed : TableName := ⟨"t_idx", rfl⟩
    let connection := (opened .empty none).after
      [ .recreateTable records, .recreateTable prefixed, .createIndex prefixed .pathFirst,
        .setIndexEligible "t_idx_idx_pv" false ]
    sameName records.text prefixed.text = false ∧
      (∀ order : IndexOrder, sameName prefixed.text (order.indexName records) = false) ∧
      (connection.answer (.recreateTable records)).outcome.isOk = true ∧
      (connection.answer (.indexEligibility "t_idx_idx_pv")).outcome = .ok (some "f") ∧
      ((connection.answer (.recreateTable records)).state.answer
        (.indexEligibility "t_idx_idx_pv")).outcome = .ok (some "t") := by
  intro records prefixed connection
  have hnames (order : IndexOrder) : sameName prefixed.text (order.indexName records) = false := by
    cases order <;> decide
  have hstates : connection =
        ⟨⟨[⟨"t", [], []⟩, ⟨"t_idx", [], [⟨"t_idx_idx_pv", .pathFirst⟩]⟩]⟩, none, true,
          [("t_idx_idx_pv", false)], []⟩ ∧
      (connection.answer (.recreateTable records)).outcome.isOk = true ∧
      (connection.answer (.recreateTable records)).state =
        ⟨⟨[⟨"t_idx", [], [⟨"t_idx_idx_pv", .pathFirst⟩]⟩, ⟨"t", [], []⟩]⟩, none, true, [],
          []⟩ := by
    decide
  obtain ⟨hconnection, hok, hrecreated⟩ := hstates
  rw [hrecreated]
  refine ⟨by decide, hnames, hok, ?_, rfl⟩
  rw [hconnection]
  rfl

end Connection
end Store
end IndexBench
