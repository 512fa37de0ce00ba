import IndexBench.Dataset
import IndexBench.Proofs.Record.Runs
import Mathlib.Data.List.Forall2

/-!
# The batches of a dataset

A dataset is read in batches of a given number of rows, of which only the last may be
shorter.  The batches are the rows in their order.  Where a record is no row, only the whole
batches before it are read, and the failure is that of the record.

Main definitions:

- `Dataset.ReadAs` says which rows records are read as.
- `Dataset.Batched` says that batches are rows cut up in their order.

Main results:

- Theorem `Dataset.Reader.batches_of_readAs`: records that are rows are read in batches.
- Theorem `Dataset.Reader.batches_of_bad`: of records up to the first that is no row, the
  whole batches are read.
-/

namespace IndexBench

/-! ## Records that are left -/

namespace Cursor

/-- A reader without records is at the end. -/
theorem next_of_records_eq_nil {c : Cursor} (h : c.records = []) : c.next = none := by
  cases hnext : c.next with
  | none => rfl
  | some read =>
      rw [records_of_next_eq_some hnext] at h
      cases h

/-- A reader whose records start with one reads it next, and the others after it. -/
theorem next_of_records_eq_cons {c : Cursor} {record : RawRecord} {later : List RawRecord}
    (h : c.records = record :: later) :
    ∃ c', c.next = some (record, c') ∧ c'.records = later := by
  cases hnext : c.next with
  | none =>
      rw [records_of_next_eq_none hnext] at h
      cases h
  | some read =>
      obtain ⟨first, c'⟩ := read
      rw [records_of_next_eq_some hnext] at h
      obtain ⟨rfl, rfl⟩ := List.cons.inj h
      exact ⟨c', rfl, rfl⟩

/-- A record takes at least one byte. -/
theorem length_records_le (c : Cursor) : c.records.length ≤ c.rest.length := by
  induction c using records.induct with
  | case1 c hnext =>
      rw [records_of_next_eq_none hnext]
      exact Nat.zero_le _
  | case2 c record c' hnext _ ih =>
      have hless := next_rest_lt hnext
      rw [records_of_next_eq_some hnext, List.length_cons]
      omega

end Cursor

namespace Dataset

/-- Whether records are read as rows, one by one. -/
def ReadAs (records : List RawRecord) (rows : List Row) : Prop :=
  List.Forall₂ (fun record row => Row.ofRecord record = .ok row) records rows

/-- Records are all rows, or there is a first one that is not. -/
theorem readAs_or_bad (records : List RawRecord) :
    (∃ rows, ReadAs records rows) ∨ ∃ good bad later rows failure,
      records = good ++ bad :: later ∧ ReadAs good rows ∧ Row.ofRecord bad = .error failure := by
  induction records with
  | nil => exact .inl ⟨[], .nil⟩
  | cons record records ih =>
      cases hrecord : Row.ofRecord record with
      | error failure => exact .inr ⟨[], record, records, [], failure, rfl, .nil, hrecord⟩
      | ok row =>
          rcases ih with ⟨rows, hrows⟩ | ⟨good, bad, later, rows, failure, rfl, hgood, hbad⟩
          · exact .inl ⟨row :: rows, .cons hrecord hrows⟩
          · exact .inr ⟨record :: good, bad, later, row :: rows, failure, rfl,
              .cons hrecord hgood, hbad⟩

/-- Whether batches are rows cut up in their order: every batch has `max` rows, but for a last
one that may have fewer, and none is empty. -/
inductive Batched (max : Nat) : List Row → List (List Row) → Prop where
  | none : Batched max [] []
  | rest {rows : List Row} (hne : rows ≠ []) (hshort : rows.length < max) :
      Batched max rows [rows]
  | full {rows : List Row} {batches : List (List Row)} (hfull : max ≤ rows.length)
      (h : Batched max (rows.drop max) batches) : Batched max rows (rows.take max :: batches)

/-- Batches put together again are the rows. -/
theorem Batched.flatten_eq {max : Nat} {rows : List Row} {batches : List (List Row)}
    (h : Batched max rows batches) : batches.flatten = rows := by
  induction h with
  | none => rfl
  | rest hne hshort => exact List.append_nil _
  | full hfull _ ih => rw [List.flatten_cons, ih, List.take_append_drop]

/-- There are no batches of no rows. -/
theorem Batched.eq_nil {max : Nat} {batches : List (List Row)} (h : Batched max [] batches)
    (hmax : 0 < max) : batches = [] := by
  cases h with
  | none => rfl
  | rest hne => exact absurd rfl hne
  | full hfull => exact absurd (Nat.lt_of_lt_of_le hmax hfull) (Nat.lt_irrefl 0)

/-- There are no more batches than rows. -/
theorem Batched.length_le {max : Nat} {rows : List Row} {batches : List (List Row)}
    (h : Batched max rows batches) (hmax : 0 < max) : batches.length ≤ rows.length := by
  induction h with
  | none => exact Nat.le_refl 0
  | rest hne => exact List.length_pos_iff.mpr hne
  | full hfull _ ih =>
      rw [List.length_drop] at ih
      rw [List.length_cons]
      omega

/-- The whole batches of rows start with the first, if the rows fill one. -/
theorem Batched.whole {max : Nat} {rows : List Row} {batches : List (List Row)}
    (hmax : 0 < max) (hfull : max ≤ rows.length)
    (h : Batched max ((rows.drop max).take ((rows.drop max).length / max * max)) batches) :
    Batched max (rows.take (rows.length / max * max)) (rows.take max :: batches) := by
  have hcount : rows.length / max * max = (rows.drop max).length / max * max + max := by
    rw [List.length_drop, Nat.div_eq_sub_div hmax hfull, Nat.add_mul, Nat.one_mul]
  have hfirst : (rows.take (rows.length / max * max)).take max = rows.take max := by
    rw [List.take_take, hcount, Nat.min_eq_left (Nat.le_add_left _ _)]
  rw [← hfirst]
  refine .full ?_ ?_
  · rw [List.length_take, hcount]
    exact Nat.le_min.mpr ⟨Nat.le_add_left _ _, hfull⟩
  · rwa [List.drop_take, hcount, Nat.add_sub_cancel]

/-! ## One batch -/

/-- Where the next records are rows, a batch is as many of them as are asked for. -/
theorem readBatch_of_readAs {max : Nat} {c : Cursor} {rows : List Row}
    (h : ReadAs (c.records.take max) rows) :
    (readBatch max c).1 = ⟨rows, none⟩ ∧
      (readBatch max c).2.records = c.records.drop max := by
  induction max generalizing c rows with
  | zero =>
      cases h
      exact ⟨rfl, rfl⟩
  | succ max ih =>
      cases hrecords : c.records with
      | nil =>
          rw [hrecords] at h
          cases h
          rw [readBatch, Cursor.next_of_records_eq_nil hrecords]
          exact ⟨rfl, hrecords⟩
      | cons record later =>
          obtain ⟨c', hnext, rfl⟩ := Cursor.next_of_records_eq_cons hrecords
          rw [hrecords, List.take_succ_cons] at h
          cases h with
          | @cons _ row _ rows hrow hrows =>
              obtain ⟨hbatch, hleft⟩ := ih hrows
              simp only [readBatch, hnext, hrow, hbatch, hleft, List.drop_succ_cons, and_self]

/-- A batch ends at the first record that is no row, with its failure. -/
theorem readBatch_of_bad {max : Nat} {c : Cursor} {good later : List RawRecord}
    {bad : RawRecord} {rows : List Row} {failure : Failure}
    (hrecords : c.records = good ++ bad :: later) (hgood : ReadAs good rows)
    (hbad : Row.ofRecord bad = .error failure) (hmax : good.length < max) :
    (readBatch max c).1 = ⟨rows, some failure⟩ := by
  induction good generalizing c rows max with
  | nil =>
      obtain ⟨c', hnext, -⟩ := Cursor.next_of_records_eq_cons hrecords
      obtain ⟨max, rfl⟩ := Nat.exists_eq_succ_of_ne_zero (Nat.ne_of_gt hmax)
      cases hgood
      simp only [readBatch, hnext, hbad]
  | cons record good ih =>
      obtain ⟨c', hnext, hleft⟩ := Cursor.next_of_records_eq_cons hrecords
      obtain ⟨max, rfl⟩ := Nat.exists_eq_succ_of_ne_zero (Nat.ne_of_gt (Nat.zero_lt_of_lt hmax))
      cases hgood with
      | @cons _ row _ rows hrow hrows =>
          have hbatch := ih hleft hrows (Nat.lt_of_succ_lt_succ hmax)
          simp only [readBatch, hnext, hrow, hbatch]

namespace Reader

/-! ## All batches -/

variable {max : Nat}

/-- A reader over bytes reads what its cursor leads to. -/
theorem nextBatch_eq (c : Cursor) (max : Nat) :
    nextBatch ⟨c, none⟩ max = ((readBatch max c).1, ⟨(readBatch max c).2, none⟩) :=
  rfl

/-- A batch with rows comes before those that are read after it. -/
theorem batchesWithin_succ {fuel : Nat} {c : Cursor} {rows : List Row}
    (h : (readBatch max c).1 = ⟨rows, none⟩) (hne : rows ≠ []) :
    batchesWithin max (fuel + 1) ⟨c, none⟩ =
      (rows :: (batchesWithin max fuel ⟨(readBatch max c).2, none⟩).1,
        (batchesWithin max fuel ⟨(readBatch max c).2, none⟩).2) := by
  rw [batchesWithin, nextBatch_eq, h]
  cases rows with
  | nil => exact absurd rfl hne
  | cons row rows => rfl

/-- Records that are rows are read in batches, in no more rounds than there are records. -/
theorem batchesWithin_of_readAs (hmax : 0 < max) {fuel : Nat} {c : Cursor} {rows : List Row}
    (hfuel : c.records.length < fuel) (h : ReadAs c.records rows) :
    ∃ batches, batchesWithin max fuel ⟨c, none⟩ = (batches, none) ∧ Batched max rows batches := by
  induction fuel generalizing c rows with
  | zero => omega
  | succ fuel ih =>
      obtain ⟨hbatch, hleft⟩ := readBatch_of_readAs (List.forall₂_take max h)
      have hlength : c.records.length = rows.length := List.Forall₂.length_eq h
      by_cases hne : rows = []
      · subst hne
        rw [List.take_nil] at hbatch
        rw [batchesWithin, nextBatch_eq, hbatch]
        exact ⟨[], rfl, .none⟩
      have hpos := List.length_pos_iff.mpr hne
      have hlater := List.forall₂_drop max h
      rw [← hleft] at hlater
      obtain ⟨batches, hbatches, hcut⟩ := ih (by rw [hleft, List.length_drop]; omega) hlater
      have htake : rows.take max ≠ [] := by
        rw [← List.length_pos_iff, List.length_take]
        omega
      rw [batchesWithin_succ hbatch htake, hbatches]
      refine ⟨rows.take max :: batches, rfl, ?_⟩
      by_cases hfull : max ≤ rows.length
      · exact .full hfull hcut
      -- the rows do not fill the batch, so there are no later ones
      · rw [Nat.not_le] at hfull
        rw [List.drop_of_length_le hfull.le] at hcut
        rw [List.take_of_length_le hfull.le, hcut.eq_nil hmax]
        exact .rest hne hfull

/-- Up to a record that is no row the whole batches are read, and the failure is that of the
record. -/
theorem batchesWithin_of_bad (hmax : 0 < max) {fuel : Nat} {c : Cursor}
    {good later : List RawRecord} {bad : RawRecord} {rows : List Row} {failure : Failure}
    (hfuel : c.records.length < fuel) (hrecords : c.records = good ++ bad :: later)
    (hgood : ReadAs good rows) (hbad : Row.ofRecord bad = .error failure) :
    ∃ batches, batchesWithin max fuel ⟨c, none⟩ = (batches, some failure) ∧
      Batched max (rows.take (rows.length / max * max)) batches := by
  induction fuel generalizing c good rows with
  | zero => omega
  | succ fuel ih =>
      have hlength : good.length = rows.length := List.Forall₂.length_eq hgood
      by_cases hshort : good.length < max
      · rw [batchesWithin, nextBatch_eq, readBatch_of_bad hrecords hgood hbad hshort]
        refine ⟨[], rfl, ?_⟩
        rw [← hlength, Nat.div_eq_of_lt hshort, Nat.zero_mul, List.take_zero]
        exact .none
      · rw [Nat.not_lt] at hshort
        have htake : c.records.take max = good.take max := by
          rw [hrecords, List.take_append_of_le_length hshort]
        have hdrop : c.records.drop max = good.drop max ++ bad :: later := by
          rw [hrecords, List.drop_append_of_le_length hshort]
        have hread : ReadAs (c.records.take max) (rows.take max) :=
          htake ▸ List.forall₂_take max hgood
        obtain ⟨hbatch, hleft⟩ := readBatch_of_readAs hread
        have hrecordsLength := congrArg List.length hrecords
        rw [List.length_append, List.length_cons] at hrecordsLength
        obtain ⟨batches, hbatches, hcut⟩ := ih (by rw [hleft, List.length_drop]; omega)
          (hleft.trans hdrop) (List.forall₂_drop max hgood)
        have htake : rows.take max ≠ [] := by
          rw [← List.length_pos_iff, List.length_take]
          omega
        rw [batchesWithin_succ hbatch htake, hbatches]
        exact ⟨rows.take max :: batches, rfl, hcut.whole hmax (hlength ▸ hshort)⟩

/-- Records that are rows are read in batches. -/
theorem batches_of_readAs (hmax : 0 < max) {bytes : List UInt8} {rows : List Row}
    (h : ReadAs (Cursor.ofBytes bytes).records rows) :
    ∃ batches, (ofBytes bytes).batches max = (batches, none) ∧ Batched max rows batches :=
  batchesWithin_of_readAs hmax (Nat.lt_succ_of_le (Cursor.length_records_le _)) h

/-- Of records up to the first that is no row, the whole batches are read, and the failure is
that of the record. -/
theorem batches_of_bad (hmax : 0 < max) {bytes : List UInt8} {good later : List RawRecord}
    {bad : RawRecord} {rows : List Row} {failure : Failure}
    (hrecords : (Cursor.ofBytes bytes).records = good ++ bad :: later)
    (hgood : ReadAs good rows) (hbad : Row.ofRecord bad = .error failure) :
    ∃ batches, (ofBytes bytes).batches max = (batches, some failure) ∧
      Batched max (rows.take (rows.length / max * max)) batches :=
  batchesWithin_of_bad hmax (Nat.lt_succ_of_le (Cursor.length_records_le _)) hrecords hgood hbad

end Reader
end Dataset
end IndexBench
