import IndexBench.Proofs.Dataset.Batches

/-!
# A dataset as a stream

However a dataset is cut up into reads, what they bring is the outcomes of its records in
their order: a row for a record that is one, and the failure of a record that is none.  The
rows of a read stay when a failure ends it, and the next read begins at the record behind
the bad one.  A read takes a number of records off the front of those that are left, and
reads in a row take records in a row.

Main definitions:

- `Dataset.Batch.outcomes` is what a read brings, its rows and then its failure.
- `Dataset.Batch.Takes` says which records a read takes.
- `Dataset.Reader.reads` and `Dataset.Reader.after` are the batches and the reader that
  reads of given sizes lead to.

Main results:

- Theorem `Dataset.readBatch_takes`: a read takes records off the front of those left.
- Theorem `Dataset.Reader.reads_passed`: reads of any sizes bring the outcomes of the records
  that they take.
- Theorem `Dataset.Reader.stream_exact`: reads of at least one row each bring, until one of
  them brings nothing, the outcomes of all records.
-/

namespace IndexBench
namespace Dataset

/-! ## One read -/

/-- What a read brings: its rows, and then the failure that ended it. -/
def Batch.outcomes (batch : Batch) : List (Except Failure Row) :=
  batch.rows.map .ok ++ batch.failure.toList.map .error

/-- The batch of a single outcome. -/
def Batch.single : Except Failure Row → Batch
  | .ok row => ⟨[row], none⟩
  | .error failure => ⟨[], some failure⟩

/-- A batch that brings nothing is empty. -/
theorem Batch.outcomes_eq_nil_iff {batch : Batch} :
    batch.outcomes = [] ↔ batch = ⟨[], none⟩ := by
  obtain ⟨rows, failure⟩ := batch
  cases rows <;> cases failure <;> simp [outcomes]

/-- Whether a read of up to `max` rows takes records off the front of `records` and leaves the
others: it brings their outcomes, and it ends early only at a failure or at the end. -/
structure Batch.Takes (batch : Batch) (max : Nat) (records left : List RawRecord) : Prop where
  passed : ∃ passed, records = passed ++ left ∧ batch.outcomes = passed.map Row.ofRecord
  rows_le : batch.rows.length ≤ max
  left_eq_nil : batch.rows.length < max → batch.failure = none → left = []

/-- A read of at least one row that brings nothing is at the end. -/
theorem Batch.Takes.at_end {max : Nat} {records left : List RawRecord}
    (h : Batch.Takes ⟨[], none⟩ max records left) (hmax : 0 < max) :
    records = [] ∧ left = [] := by
  obtain ⟨passed, hrecords, houtcomes⟩ := h.passed
  have hleft := h.left_eq_nil hmax rfl
  obtain rfl : passed = [] := List.map_eq_nil_iff.mp houtcomes.symm
  exact ⟨hrecords.trans hleft, hleft⟩

/-- A read takes records off the front of those left. -/
theorem readBatch_takes (max : Nat) (c : Cursor) :
    (readBatch max c).1.Takes max c.records (readBatch max c).2.records := by
  induction max generalizing c with
  | zero => exact ⟨⟨[], rfl, rfl⟩, Nat.le_refl 0, fun h => absurd h (Nat.lt_irrefl 0)⟩
  | succ max ih =>
      rw [readBatch]
      cases hnext : c.next with
      | none =>
          have hnone := Cursor.records_of_next_eq_none hnext
          exact ⟨⟨[], rfl, rfl⟩, Nat.zero_le _, fun _ _ => hnone⟩
      | some read =>
          obtain ⟨record, c'⟩ := read
          rw [Cursor.records_of_next_eq_some hnext]
          cases hrecord : Row.ofRecord record with
          | error failure =>
              simp only [hrecord]
              refine ⟨⟨[record], rfl, ?_⟩, Nat.zero_le _, fun _ h => by cases h⟩
              rw [List.map_singleton, hrecord]
              rfl
          | ok row =>
              simp only [hrecord]
              obtain ⟨⟨passed, hrecords, houtcomes⟩, hle, hend⟩ := ih c'
              refine ⟨⟨record :: passed, by rw [List.cons_append, ← hrecords], ?_⟩,
                Nat.succ_le_succ hle, fun hlt => hend (Nat.lt_of_succ_lt_succ hlt)⟩
              rw [List.map_cons, hrecord, ← houtcomes]
              rfl

/-- At the end there is nothing to read, and reading leaves the reader as it is. -/
theorem readBatch_of_records_eq_nil {c : Cursor} (h : c.records = []) (max : Nat) :
    readBatch max c = (⟨[], none⟩, c) := by
  cases max with
  | zero => rfl
  | succ max => rw [readBatch, Cursor.next_of_records_eq_nil h]

/-- A read of one row brings the outcome of the next record. -/
theorem readBatch_one {c : Cursor} {record : RawRecord} {later : List RawRecord}
    (h : c.records = record :: later) :
    (readBatch 1 c).1 = .single (Row.ofRecord record) ∧ (readBatch 1 c).2.records = later := by
  obtain ⟨c', hnext, hlater⟩ := Cursor.next_of_records_eq_cons h
  rw [readBatch, hnext]
  cases hrecord : Row.ofRecord record with
  | error failure => simp only [hrecord]; exact ⟨rfl, hlater⟩
  | ok row => simp only [hrecord]; exact ⟨rfl, hlater⟩

namespace Reader

/-! ## Reads in a row -/

/-- The batches that reads of given sizes bring. -/
def reads (reader : Reader) : List Nat → List Batch
  | [] => []
  | max :: limits => (reader.nextBatch max).1 :: (reader.nextBatch max).2.reads limits

/-- The reader that reads of given sizes leave. -/
def after (reader : Reader) : List Nat → Reader
  | [] => reader
  | max :: limits => (reader.nextBatch max).2.after limits

/-- A reader whose source can be read keeps it. -/
theorem broken_after (c : Cursor) (limits : List Nat) :
    (after ⟨c, none⟩ limits).broken = none := by
  induction limits generalizing c with
  | nil => rfl
  | cons max limits ih => exact ih (readBatch max c).2

/-- Reads of any sizes bring the outcomes of the records that they take. -/
theorem reads_passed (c : Cursor) (limits : List Nat) :
    ∃ passed, c.records = passed ++ (after ⟨c, none⟩ limits).cursor.records ∧
      (reads ⟨c, none⟩ limits).flatMap Batch.outcomes = passed.map Row.ofRecord := by
  induction limits generalizing c with
  | nil => exact ⟨[], rfl, rfl⟩
  | cons max limits ih =>
      obtain ⟨first, hfirst, houtcomes⟩ := (readBatch_takes max c).passed
      obtain ⟨second, hsecond, houtcomes'⟩ := ih (readBatch max c).2
      refine ⟨first ++ second, ?_, ?_⟩
      · rw [hfirst, hsecond, List.append_assoc]
        rfl
      · rw [List.map_append, ← houtcomes, ← houtcomes']
        rfl

/-- Behind a read of at least one row that brings nothing no record is left. -/
theorem records_after_of_empty {c : Cursor} {limits : List Nat} (hpos : ∀ max ∈ limits, 0 < max)
    (h : ⟨[], none⟩ ∈ reads ⟨c, none⟩ limits) : (after ⟨c, none⟩ limits).cursor.records = [] := by
  induction limits generalizing c with
  | nil => cases h
  | cons max limits ih =>
      obtain ⟨hmax, hlimits⟩ := List.forall_mem_cons.mp hpos
      rcases List.mem_cons.mp h with hfirst | hlater
      · have htakes := readBatch_takes max c
        rw [show (readBatch max c).1 = ⟨[], none⟩ from hfirst.symm] at htakes
        obtain ⟨passed, hleft, -⟩ := reads_passed (readBatch max c).2 limits
        rw [(htakes.at_end hmax).2] at hleft
        exact (List.append_eq_nil_iff.mp hleft.symm).2
      · exact ih hlimits hlater

/-- More reads of at least one row than there are records do not all bring something. -/
theorem empty_mem_reads {c : Cursor} {limits : List Nat} (hpos : ∀ max ∈ limits, 0 < max)
    (h : c.records.length < limits.length) : ⟨[], none⟩ ∈ reads ⟨c, none⟩ limits := by
  induction limits generalizing c with
  | nil => cases h
  | cons max limits ih =>
      by_cases hfirst : (readBatch max c).1 = ⟨[], none⟩
      · exact List.mem_cons.mpr (.inl hfirst.symm)
      -- the read brings an outcome, so it takes a record
      · obtain ⟨passed, hrecords, houtcomes⟩ := (readBatch_takes max c).passed
        have hne : passed ≠ [] := by
          rintro rfl
          exact hfirst (Batch.outcomes_eq_nil_iff.mp houtcomes)
        have hpassed := List.length_pos_iff.mpr hne
        rw [hrecords, List.length_append, List.length_cons] at h
        have hless : (readBatch max c).2.records.length < limits.length := by omega
        exact .tail _ (ih (List.forall_mem_cons.mp hpos).2 hless)

/-- Reads of one row each bring the outcomes of the records one by one. -/
theorem reads_one {c : Cursor} {records : List RawRecord} (h : c.records = records) :
    reads ⟨c, none⟩ (List.replicate records.length 1) =
      records.map fun record => .single (Row.ofRecord record) := by
  induction records generalizing c with
  | nil => rfl
  | cons record later ih =>
      obtain ⟨hbatch, hlater⟩ := readBatch_one h
      rw [List.length_cons, List.replicate_succ, reads, nextBatch_eq, hbatch, ih hlater]
      rfl

/-- Reading in batches loses, repeats and moves nothing.  What reads of any sizes bring is the
outcomes of the records in their order, as far as they are taken, and reads of one row each
bring them one by one.  Each read takes records off the front of those that are left, also
behind a failure; a read of no rows takes none, and at the end every read brings nothing.
Reads of at least one row each get to such a read, with no more of them than there are
records, and have then brought the outcomes of all records. -/
theorem stream_exact (bytes : List UInt8) (limits : List Nat) :
    let reader := ofBytes bytes
    let records := (Cursor.ofBytes bytes).records
    let stream := (reader.reads limits).flatMap Batch.outcomes
    let left := reader.after limits
    (∃ passed, records = passed ++ left.cursor.records ∧ stream = passed.map Row.ofRecord) ∧
      reader.reads (List.replicate records.length 1) =
        records.map (fun record => .single (Row.ofRecord record)) ∧
      (∀ max, (left.nextBatch max).1.Takes max left.cursor.records
        (left.nextBatch max).2.cursor.records) ∧
      left.nextBatch 0 = (⟨[], none⟩, left) ∧
      (left.cursor.records = [] → ∀ max, left.nextBatch max = (⟨[], none⟩, left)) ∧
      ((∀ max ∈ limits, 0 < max) →
        (records.length < limits.length → ⟨[], none⟩ ∈ reader.reads limits) ∧
        (⟨[], none⟩ ∈ reader.reads limits →
          stream = records.map Row.ofRecord ∧ left.cursor.records = [])) := by
  intro reader records stream left
  have hpassed := reads_passed (Cursor.ofBytes bytes) limits
  have hleft : left = ⟨left.cursor, none⟩ :=
    congrArg (Reader.mk left.cursor) (broken_after (Cursor.ofBytes bytes) limits)
  refine ⟨hpassed, reads_one rfl, fun max => ?_, ?_, fun hend max => ?_,
    fun hpos => ⟨empty_mem_reads hpos, fun hempty => ?_⟩⟩
  · rw [hleft]
    exact readBatch_takes max left.cursor
  · rw [hleft]
    rfl
  · rw [hleft, nextBatch_eq, readBatch_of_records_eq_nil hend]
  · obtain ⟨passed, hrecords, hstream⟩ := hpassed
    have hend := records_after_of_empty hpos hempty
    rw [hend, List.append_nil] at hrecords
    exact ⟨hstream.trans (congrArg _ hrecords.symm), hend⟩

/-- A bad record ends the read that it is in, and the next one goes on behind it. -/
theorem stream_exact_bad :
    let reader := ofBytes "a;1\nb;x\nc;3\nd;4\n".toUTF8.data.toList
    (reader.reads [5, 1, 2, 1]).flatMap Batch.outcomes =
      (reader.reads [1, 1, 1, 1, 1]).flatMap Batch.outcomes := by
  intro reader
  obtain ⟨-, -, -, -, -, hfirst⟩ :=
    stream_exact "a;1\nb;x\nc;3\nd;4\n".toUTF8.data.toList [5, 1, 2, 1]
  obtain ⟨-, -, -, -, -, hsecond⟩ :=
    stream_exact "a;1\nb;x\nc;3\nd;4\n".toUTF8.data.toList [1, 1, 1, 1, 1]
  rw [((hfirst (by decide)).2 (by decide)).1,
    ((hsecond (by decide)).2 (by decide)).1]

end Reader
end Dataset
end IndexBench
