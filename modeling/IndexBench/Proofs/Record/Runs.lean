import IndexBench.Record.Cursor
import Mathlib.Data.List.TakeWhile

/-!
# Records as runs of bytes

The records of an input are its runs of bytes between terminators, as far as they are not
empty.  A record stands after what was consumed with the one before it: everything up to
and including the byte that ends that one.

Main definitions:

- `Record.withoutMark` is an input without a byte order mark at its start.
- `Record.runs` is the runs of bytes between terminators that are not empty.
- `Record.Consumed` says what was consumed with the first records of an input.
- `Cursor.Stands` says that a reader has consumed a part of an input.

Main results:

- Theorem `Cursor.next_eq_some`: what a reader passes on its way over a record.
- Theorem `Cursor.map_fields_records`: the records of an input are its runs in order.
- Theorem `Cursor.getElem?_records_eq_some_iff`: a record is located by what was consumed with
  the ones before it.
-/

namespace IndexBench
namespace Record

/-- An input without a byte order mark at its start. -/
def withoutMark (bytes : List UInt8) : List UInt8 :=
  if bytes.take 3 = byteOrderMark then bytes.drop 3 else bytes

/-- The runs of bytes between terminators that are not empty. -/
def runs (bytes : List UInt8) : List (List UInt8) :=
  (bytes.splitOnP isTerminator).filter fun run => !run.isEmpty

/-- What was consumed of an input with its first records: nothing with none of them, and
else everything up to and including the byte that ends the last of them. -/
inductive Consumed (bytes : List UInt8) : Nat → List UInt8 → Prop where
  | nothing : Consumed bytes 0 []
  | through {start rest : List UInt8} {last terminator : UInt8} {count : Nat}
      (hbytes : bytes = start ++ [last, terminator] ++ rest)
      (hlast : isTerminator last = false) (hterminator : isTerminator terminator = true)
      (hrest : runs rest = (runs (withoutMark bytes)).drop (count + 1)) :
      Consumed bytes (count + 1) (start ++ [last, terminator])

/-! ## Runs -/

/-- There is no run in no bytes. -/
@[simp]
theorem runs_nil : runs [] = [] :=
  rfl

/-- Runs end at a terminator. -/
theorem runs_append_cons {terminator : UInt8} (h : isTerminator terminator = true)
    (bytes rest : List UInt8) : runs (bytes ++ terminator :: rest) = runs bytes ++ runs rest := by
  rw [runs, List.splitOnP_append_cons bytes rest h, List.filter_append]
  rfl

/-- Terminators before a run do not matter. -/
theorem runs_append_of_terminators {blanks : List UInt8}
    (h : ∀ b ∈ blanks, isTerminator b = true) (rest : List UInt8) :
    runs (blanks ++ rest) = runs rest := by
  induction blanks with
  | nil => rfl
  | cons b blanks ih =>
      obtain ⟨hb, hblanks⟩ := List.forall_mem_cons.mp h
      exact (runs_append_cons hb [] (blanks ++ rest)).trans (ih hblanks)

/-- Bytes without a terminator are one run. -/
theorem runs_eq_singleton {run : List UInt8} (hne : run ≠ [])
    (h : ∀ b ∈ run, isTerminator b = false) : runs run = [run] := by
  rw [runs, List.splitOnP_eq_singleton h]
  cases run with
  | nil => exact absurd rfl hne
  | cons b run => rfl

/-- A terminator ends the run before it. -/
theorem runs_run_append_cons {run : List UInt8} (hne : run ≠ [])
    (h : ∀ b ∈ run, isTerminator b = false) {terminator : UInt8}
    (hterminator : isTerminator terminator = true) (rest : List UInt8) :
    runs (run ++ terminator :: rest) = run :: runs rest := by
  rw [runs_append_cons hterminator, runs_eq_singleton hne h]
  rfl

/-- What is left behind bytes that are no terminators starts with one. -/
theorem isTerminator_of_dropWhile_eq_cons {bytes rest : List UInt8} {b : UInt8}
    (h : bytes.dropWhile (fun b => !isTerminator b) = b :: rest) : isTerminator b = true := by
  have hhead := List.head_dropWhile_not (fun b => !isTerminator b)
    (show bytes.dropWhile (fun b => !isTerminator b) ≠ [] by simp [h])
  simpa [h] using hhead

/-- A byte that is no terminator is in a run. -/
theorem runs_cons_ne_nil {b : UInt8} (hb : isTerminator b = false) (rest : List UInt8) :
    runs (b :: rest) ≠ [] := by
  have hcut := List.takeWhile_append_dropWhile (p := fun b => !isTerminator b) (l := b :: rest)
  have hrun : ∀ c ∈ (b :: rest).takeWhile fun b => !isTerminator b, isTerminator c = false :=
    fun c hc => by simpa using List.mem_takeWhile_imp hc
  have hne : ((b :: rest).takeWhile fun b => !isTerminator b) ≠ [] := by simp [hb]
  rw [← hcut]
  cases hafter : (b :: rest).dropWhile fun b => !isTerminator b with
  | nil => simp [runs_eq_singleton hne hrun]
  | cons terminator after =>
      simp [runs_run_append_cons hne hrun (isTerminator_of_dropWhile_eq_cons hafter)]

/-- A byte that is no terminator is in a run, whatever stands before it. -/
theorem runs_concat_ne_nil {last : UInt8} (hlast : isTerminator last = false)
    (start : List UInt8) : runs (start ++ [last]) ≠ [] := by
  induction start with
  | nil => exact runs_cons_ne_nil hlast []
  | cons b start ih =>
      by_cases hb : isTerminator b = true
      · have hskip : runs (b :: (start ++ [last])) = runs (start ++ [last]) :=
          runs_append_cons hb [] (start ++ [last])
        rwa [List.cons_append, hskip]
      · exact runs_cons_ne_nil (by simpa using hb) _

/-- Behind a byte that ends a run there are fewer runs. -/
theorem length_runs_lt {last terminator : UInt8} (hlast : isTerminator last = false)
    (hterminator : isTerminator terminator = true) (start rest : List UInt8) :
    (runs rest).length < (runs (start ++ [last, terminator] ++ rest)).length := by
  have hended : start ++ [last, terminator] ++ rest = start ++ [last] ++ terminator :: rest := by
    simp only [List.append_assoc, List.cons_append, List.nil_append]
  have hpiece := List.length_pos_iff.mpr (runs_concat_ne_nil hlast start)
  rw [hended, runs_append_cons hterminator, List.length_append]
  omega

/-- What was consumed with one record more is no longer than what was consumed without. -/
theorem Consumed.length_le {bytes before longer : List UInt8} {count : Nat}
    (h : Consumed bytes count before) (hlonger : Consumed bytes count longer) :
    longer.length ≤ before.length := by
  cases h with
  | nothing => cases hlonger; exact Nat.le_refl _
  | @through start rest last terminator count hbytes hlast hterminator hrest =>
      cases hlonger with
      | @through start' rest' last' terminator' _ hbytes' hlast' hterminator' hrest' =>
      by_contra hlt
      rw [Nat.not_le] at hlt
      obtain ⟨between, hbetween⟩ : ∃ between, start ++ [last, terminator] ++ between =
          start' ++ [last', terminator'] :=
        List.prefix_of_prefix_length_le ⟨rest, hbytes.symm⟩ ⟨rest', hbytes'.symm⟩ hlt.le
      have hrest_eq : rest = between ++ rest' := by
        rw [hbytes, ← hbetween, List.append_assoc _ between] at hbytes'
        exact List.append_cancel_left hbytes'
      -- a byte is not both the terminator of the one and the last of the run of the other
      have hdistinct : terminator ≠ last' := by
        rintro rfl
        rw [hterminator] at hlast'
        cases hlast'
      obtain ⟨later, hlater⟩ : ∃ later, between = later ++ [last', terminator'] := by
        rw [show start ++ [last, terminator] ++ between =
            start ++ [last] ++ terminator :: between by simp, List.append_eq_append_iff] at hbetween
        rcases hbetween with ⟨excess, hstart, hexcess⟩ | ⟨excess, hstart, hexcess⟩
        · cases excess with
          | nil => exact absurd (List.cons.inj hexcess).1 hdistinct
          | cons b later => exact ⟨later, (List.cons.inj hexcess).2⟩
        · have hlengths := congrArg List.length hstart
          simp only [List.length_append, List.length_cons, List.length_nil] at hlengths hlt
          obtain rfl : excess = [] := List.length_eq_zero_iff.mp (by omega)
          exact absurd (List.cons.inj hexcess).1.symm hdistinct
      have hfewer := length_runs_lt hlast' hterminator' later rest'
      rw [← hlater, ← hrest_eq, hrest, hrest'] at hfewer
      exact absurd hfewer (Nat.lt_irrefl _)

/-- There is one part of an input that was consumed with its first records. -/
theorem Consumed.unique {bytes before other : List UInt8} {count : Nat}
    (h : Consumed bytes count before) (hother : Consumed bytes count other) : before = other := by
  have hstart : ∀ {part}, Consumed bytes count part → part <+: bytes := by
    rintro part (_ | ⟨hbytes, -, -, -⟩)
    · exact List.nil_prefix
    · exact ⟨_, hbytes.symm⟩
  exact (List.prefix_of_prefix_length_le (hstart h) (hstart hother)
    (hother.length_le h)).eq_of_length_le (h.length_le hother)

end Record

/-- The line feeds of bytes in a row are those of each of them. -/
theorem lineFeeds_append (bytes rest : List UInt8) :
    lineFeeds (bytes ++ rest) = lineFeeds bytes + lineFeeds rest :=
  List.count_append

namespace Cursor

open Record

/-! ## Reading one record -/

/-- The bytes before any were read are the input without its mark. -/
@[simp]
theorem body_ofBytes (bytes : List UInt8) : (ofBytes bytes).body = withoutMark bytes := by
  simp only [body, ofBytes, withoutMark, Bool.not_false, Bool.true_and, beq_iff_eq]

/-- Once the reading has started, nothing is dropped. -/
theorem body_of_started {c : Cursor} (h : c.started = true) : c.body = c.rest := by
  simp only [body, h, Bool.not_true, Bool.false_and, Bool.false_eq_true, if_false]

/-- A mark that is dropped has no line feed. -/
theorem exists_rest_eq (c : Cursor) :
    ∃ mark, c.rest = mark ++ c.body ∧ lineFeeds mark = 0 := by
  by_cases hmark : (!c.started && c.rest.take 3 == byteOrderMark) = true
  · refine ⟨byteOrderMark, ?_, by decide⟩
    rw [body, if_pos hmark]
    rw [Bool.and_eq_true, beq_iff_eq] at hmark
    rw [← hmark.2, List.take_append_drop]
  · refine ⟨[], ?_, rfl⟩
    rw [body, if_neg hmark, List.nil_append]

/-- Where there is nothing to read there is no run. -/
theorem runs_body_of_next_eq_none {c : Cursor} (h : c.next = none) : runs c.body = [] := by
  have hall : c.body.dropWhile isTerminator = [] := by
    cases hstart : c.body.dropWhile isTerminator with
    | nil => rfl
    | cons b start => simp [next, hstart] at h
  rw [List.dropWhile_eq_nil_iff] at hall
  have hruns := runs_append_of_terminators hall []
  rwa [List.append_nil] at hruns

/-- A reader gets over a record by passing terminators, a run, and the byte that ends it
unless the input ends there. -/
theorem next_eq_some {c c' : Cursor} {record : RawRecord} (h : c.next = some (record, c')) :
    ∃ blanks run ended, (∀ b ∈ blanks, isTerminator b = true) ∧ run ≠ [] ∧
      (∀ b ∈ run, isTerminator b = false) ∧
      (ended = [] ∧ c'.rest = [] ∨ ∃ b, ended = [b] ∧ isTerminator b = true) ∧
      c.body = blanks ++ run ++ ended ++ c'.rest ∧
      record = ⟨c.count, c.line, c.offset, splitFields run⟩ ∧
      c' = ⟨c'.rest, true, c.line + lineFeeds (blanks ++ run ++ ended),
        c.offset + (c.rest.length - c'.rest.length), c.count + 1⟩ := by
  unfold next at h
  simp only at h
  split at h
  · cases h
  rename_i hstart
  obtain ⟨hrecord, hcursor⟩ := Prod.mk.inj (Option.some.inj h)
  generalize hrest : c.body.dropWhile isTerminator = start at *
  -- what ends the run is a terminator, as the run goes on as far as there is none
  obtain ⟨ended, after, hended, hdrop, hcut⟩ : ∃ ended after,
      (ended = [] ∧ after = [] ∨ ∃ b, ended = [b] ∧ isTerminator b = true) ∧
        start.dropWhile (fun b => !isTerminator b) = ended ++ after ∧
        (start.dropWhile fun b => !isTerminator b).drop 1 = after := by
    cases hdrop : start.dropWhile fun b => !isTerminator b with
    | nil => exact ⟨[], [], .inl ⟨rfl, rfl⟩, rfl, rfl⟩
    | cons b after =>
        exact ⟨[b], after, .inr ⟨b, rfl, isTerminator_of_dropWhile_eq_cons hdrop⟩, rfl, rfl⟩
  have hbody : c.body = c.body.takeWhile isTerminator ++
      start.takeWhile (fun b => !isTerminator b) ++ ended ++ after := by
    rw [List.append_assoc, ← hdrop, List.append_assoc, List.takeWhile_append_dropWhile, ← hrest,
      List.takeWhile_append_dropWhile]
  rw [hcut] at hcursor
  have hpassed : c.body.take (c.body.length - after.length) = c.body.takeWhile isTerminator ++
      start.takeWhile (fun b => !isTerminator b) ++ ended := by
    generalize c.body.takeWhile isTerminator ++ start.takeWhile (fun b => !isTerminator b) ++
      ended = passed at hbody
    rw [hbody, List.length_append, Nat.add_sub_cancel, List.take_left]
  rw [hpassed] at hcursor
  subst hcursor
  refine ⟨c.body.takeWhile isTerminator, start.takeWhile fun b => !isTerminator b, ended,
    fun b hb => List.mem_takeWhile_imp hb, ?_, fun b hb => ?_, hended, hbody, hrecord.symm, rfl⟩
  · cases start with
    | nil => exact absurd rfl hstart
    | cons b start =>
        have hhead := List.head_dropWhile_not isTerminator
          (show c.body.dropWhile isTerminator ≠ [] by simp [hrest])
        simp only [hrest, List.head_cons] at hhead
        simp [hhead]
  · simpa using List.mem_takeWhile_imp hb

/-! ## Reading all records -/

/-- Where there is nothing to read there are no records. -/
theorem records_of_next_eq_none {c : Cursor} (h : c.next = none) : c.records = [] := by
  rw [records]
  split
  · rfl
  · rename_i hnext
    rw [h] at hnext
    cases hnext

/-- The records are the next one and those after it. -/
theorem records_of_next_eq_some {c c' : Cursor} {record : RawRecord}
    (h : c.next = some (record, c')) : c.records = record :: c'.records := by
  rw [records]
  split
  · rename_i hnext
    rw [h] at hnext
    cases hnext
  · rename_i hnext
    rw [h] at hnext
    cases hnext
    rfl

/-- A record is a run, and the runs after it are left. -/
theorem exists_run_of_next {c c' : Cursor} {record : RawRecord}
    (h : c.next = some (record, c')) :
    ∃ run, runs c.body = run :: runs c'.body ∧ record.fields = splitFields run := by
  obtain ⟨blanks, run, ended, hblanks, hne, hrun, hended, hbody, rfl, hcursor⟩ := next_eq_some h
  have hstarted : c'.body = c'.rest := body_of_started (by rw [hcursor])
  refine ⟨run, ?_, rfl⟩
  rw [hbody, hstarted, List.append_assoc, List.append_assoc,
    runs_append_of_terminators hblanks]
  rcases hended with ⟨rfl, hrest⟩ | ⟨b, rfl, hb⟩
  · rw [hrest, List.nil_append, List.append_nil, runs_eq_singleton hne hrun, runs_nil]
  · exact runs_run_append_cons hne hrun hb c'.rest

/-- The records of an input are its runs in order. -/
theorem map_fields_records (c : Cursor) :
    c.records.map RawRecord.fields = (runs c.body).map splitFields := by
  induction c using records.induct with
  | case1 c hnext => rw [records_of_next_eq_none hnext, runs_body_of_next_eq_none hnext]; rfl
  | case2 c record c' hnext _ ih =>
      obtain ⟨run, hruns, hfields⟩ := exists_run_of_next hnext
      rw [records_of_next_eq_some hnext, hruns, List.map_cons, List.map_cons, hfields, ih]

/-- Whether a reader has consumed a part of an input and stands behind it. -/
structure Stands (bytes before : List UInt8) (c : Cursor) : Prop where
  bytes_eq : bytes = before ++ c.rest
  line_eq : c.line = 1 + lineFeeds before
  offset_eq : c.offset = before.length
  runs_eq : runs c.body = (runs (withoutMark bytes)).drop c.count
  consumed : runs c.body ≠ [] → Consumed bytes c.count before

/-- At first a reader stands before the input. -/
theorem stands_ofBytes (bytes : List UInt8) : (ofBytes bytes).Stands bytes [] where
  bytes_eq := rfl
  line_eq := rfl
  offset_eq := rfl
  runs_eq := by rw [body_ofBytes]; rfl
  consumed _ := .nothing

/-- Over a record a reader gets to stand behind the byte that ends it. -/
theorem Stands.next {c c' : Cursor} {bytes before : List UInt8} {record : RawRecord}
    (h : c.Stands bytes before) (hnext : c.next = some (record, c')) :
    ∃ passed, c'.Stands bytes (before ++ passed) := by
  obtain ⟨run, hruns, -⟩ := exists_run_of_next hnext
  obtain ⟨blanks, run, ended, hblanks, hne, hrun, hended, hbody, -, hcursor⟩ :=
    next_eq_some hnext
  obtain ⟨mark, hmark, hfeeds⟩ := c.exists_rest_eq
  have hbytes : bytes = before ++ (mark ++ blanks ++ run ++ ended) ++ c'.rest := by
    rw [h.bytes_eq, hmark, hbody]
    simp only [List.append_assoc]
  have hcount : c'.count = c.count + 1 := by rw [hcursor]
  have hlater : runs c'.body = (runs (withoutMark bytes)).drop (c.count + 1) := by
    rw [← List.tail_drop, ← h.runs_eq, hruns, List.tail_cons]
  have hstarted : c'.body = c'.rest := body_of_started (by rw [hcursor])
  refine ⟨mark ++ blanks ++ run ++ ended, hbytes, ?_, ?_, hcount ▸ hlater, fun hmore => ?_⟩
  · have hline : c'.line = c.line + lineFeeds (blanks ++ run ++ ended) := by rw [hcursor]
    simp only [hline, h.line_eq, lineFeeds_append, hfeeds]
    omega
  · have hoffset : c'.offset = c.offset + (c.rest.length - c'.rest.length) := by rw [hcursor]
    rw [hoffset, h.offset_eq, hmark, hbody]
    simp only [List.length_append]
    omega
  -- a run is left, so what ends this one is a terminator
  · rcases hended with ⟨-, hrest⟩ | ⟨terminator, rfl, hterminator⟩
    · rw [hstarted, hrest] at hmore
      exact absurd runs_nil hmore
    obtain ⟨start, last, rfl⟩ : ∃ start last, run = start ++ [last] :=
      ⟨_, _, (List.dropLast_concat_getLast hne).symm⟩
    have hpassed : before ++ (mark ++ blanks ++ (start ++ [last]) ++ [terminator]) =
        before ++ mark ++ blanks ++ start ++ [last, terminator] := by
      simp only [List.append_assoc, List.cons_append, List.nil_append]
    rw [hpassed] at hbytes ⊢
    rw [hcount]
    exact .through hbytes (hrun last (by simp)) hterminator (hstarted ▸ hlater)

/-- Behind what a reader has consumed, each record is located by what was consumed with the
ones before it. -/
theorem Stands.getElem?_records {c : Cursor} {bytes before : List UInt8}
    (h : c.Stands bytes before) {k : Nat} {record : RawRecord}
    (hk : c.records[k]? = some record) :
    ∃ consumed, Consumed bytes (c.count + k) consumed ∧ record.number = c.count + k ∧
      record.line = 1 + lineFeeds consumed ∧ record.offset = consumed.length := by
  induction c using records.induct generalizing before k with
  | case1 c hnext =>
      rw [records_of_next_eq_none hnext] at hk
      cases hk
  | case2 c first c' hnext _ ih =>
      rw [records_of_next_eq_some hnext] at hk
      obtain ⟨passed, hstands⟩ := h.next hnext
      cases k with
      | zero =>
          obtain rfl := Option.some.inj hk
          obtain ⟨run, hruns, -⟩ := exists_run_of_next hnext
          obtain ⟨_, _, _, -, -, -, -, -, rfl, -⟩ := next_eq_some hnext
          exact ⟨before, h.consumed (by simp [hruns]), rfl, h.line_eq, h.offset_eq⟩
      | succ k =>
          obtain ⟨_, _, _, -, -, -, -, -, -, hcursor⟩ := next_eq_some hnext
          have hcount : c'.count + k = c.count + (k + 1) := by
            rw [hcursor, Nat.add_assoc, Nat.add_comm 1]
          rw [← hcount]
          exact ih hstands hk

/-- A record is located by what was consumed with the ones before it. -/
theorem getElem?_records {bytes : List UInt8} {k : Nat} {record : RawRecord}
    (hk : (ofBytes bytes).records[k]? = some record) :
    ∃ consumed, Consumed bytes k consumed ∧ record.number = k ∧
      record.line = 1 + lineFeeds consumed ∧ record.offset = consumed.length := by
  have hplace := (stands_ofBytes bytes).getElem?_records hk
  rwa [show (ofBytes bytes).count + k = k from Nat.zero_add k] at hplace

/-- The record of a number is the run of this number, located by what was consumed with the
ones before it. -/
theorem getElem?_records_eq_some_iff {bytes : List UInt8} {k : Nat} {record : RawRecord} :
    (ofBytes bytes).records[k]? = some record ↔
      ∃ run before, (runs (withoutMark bytes))[k]? = some run ∧ Consumed bytes k before ∧
        record = ⟨k, 1 + lineFeeds before, before.length, splitFields run⟩ := by
  have hfields := congrArg (·[k]?) (map_fields_records (ofBytes bytes))
  simp only [body_ofBytes, List.getElem?_map] at hfields
  constructor
  · intro hk
    obtain ⟨before, hbefore, hnumber, hline, hoffset⟩ := getElem?_records hk
    rw [hk, Option.map_some] at hfields
    obtain ⟨run, hrun, hsplit⟩ := Option.map_eq_some_iff.mp hfields.symm
    refine ⟨run, before, hrun, hbefore, ?_⟩
    rw [← hnumber, ← hline, ← hoffset, hsplit]
  · rintro ⟨run, before, hrun, hbefore, rfl⟩
    rw [hrun, Option.map_some] at hfields
    obtain ⟨record, hk, hsplit⟩ := Option.map_eq_some_iff.mp hfields
    obtain ⟨before', hbefore', hnumber, hline, hoffset⟩ := getElem?_records hk
    obtain rfl := hbefore.unique hbefore'
    rw [hk, ← hnumber, ← hline, ← hoffset, ← hsplit]

end Cursor
end IndexBench
