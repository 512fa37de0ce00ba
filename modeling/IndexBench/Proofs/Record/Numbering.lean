import IndexBench.Proofs.Catalog.Format
import IndexBench.Proofs.Dataset.Stream
import IndexBench.Proofs.Record.Cut
import Mathlib.Data.List.Induction

/-!
# Lines and the numbers that are reported for them

A failure reports a line that is counted up to the byte that ends the record before.  Blank
lines behind that record are not counted, and neither is the line feed of its line if a
carriage return stands before it.  The number is that of the line of the offending record
exactly if the line before it is not blank and ends in a line feed alone.

Main definitions:

- `Record.TextLine` is a line of a text, and `Record.Lined` says that a text consists of lines.
- `Record.uncounted` is the number of lines before a record that are not counted.
- `Record.OnLine` says on which line of a text a record stands.

Main results:

- Theorem `Record.onLine_of_getElem?`: each record stands on a line, and its number falls short
  by the lines that are not counted.
- Theorem `Record.format_line_exact`: the numbers that catalogs and datasets report.
-/

namespace IndexBench
namespace Record

/-! ## Lines -/

/-- Bytes that are no terminators have no line feed among them. -/
theorem lineFeeds_eq_zero {bytes : List UInt8} (h : ∀ b ∈ bytes, isTerminator b = false) :
    lineFeeds bytes = 0 :=
  List.count_eq_zero.mpr fun hfeed => by cases h _ hfeed

/-- A line of a text that has an end: a line feed, with or without a carriage return before
it. -/
structure TextLine where
  content : List UInt8
  /-- Whether a carriage return stands before the line feed. -/
  returned : Bool
  deriving DecidableEq, Repr

namespace TextLine

/-- The byte that ends the content of a line. -/
def ending (line : TextLine) : UInt8 :=
  if line.returned then 13 else lineFeed

/-- What comes behind the byte that ends the content of a line. -/
def left (line : TextLine) : List UInt8 :=
  if line.returned then [lineFeed] else []

/-- The bytes of a line. -/
def bytes (line : TextLine) : List UInt8 :=
  line.content ++ line.ending :: line.left

/-- A byte that ends a line is a terminator. -/
@[simp]
theorem isTerminator_ending (line : TextLine) : isTerminator line.ending = true := by
  cases h : line.returned <;> simp [ending, h, isTerminator]

/-- What comes behind the byte that ends the content of a line is terminators. -/
theorem isTerminator_of_mem_left {line : TextLine} {b : UInt8} (h : b ∈ line.left) :
    isTerminator b = true := by
  cases hreturned : line.returned <;> simp_all [left, isTerminator]

/-- A record may begin behind a line. -/
theorem ended_bytes (line : TextLine) : Ended line.bytes := by
  have hcontent : Ended (line.content ++ [line.ending]) :=
    .concat line.isTerminator_ending line.content
  have hleft : Ended line.left := .of_forall fun b hb => isTerminator_of_mem_left hb
  have hbytes : line.bytes = line.content ++ [line.ending] ++ line.left := by
    rw [bytes, List.append_assoc, List.singleton_append]
  rw [hbytes]
  exact hcontent.append hleft

/-- The runs of a line are its content, if it is not blank. -/
theorem runs_bytes {line : TextLine} (h : ∀ b ∈ line.content, isTerminator b = false) :
    runs line.bytes = [line.content].filter fun run => !run.isEmpty := by
  have hleft : runs line.left = [] := by
    rw [← List.append_nil line.left,
      runs_append_of_terminators (fun b hb => isTerminator_of_mem_left hb), runs_nil]
  rw [bytes, runs_append_cons line.isTerminator_ending, hleft, List.append_nil, runs,
    List.splitOnP_eq_singleton h]

/-- The byte that ends the content of a line is a line feed unless it is returned. -/
theorem lineFeeds_ending (line : TextLine) :
    lineFeeds [line.ending] + (if line.returned then 1 else 0) = 1 := by
  cases hreturned : line.returned <;> simp [ending, hreturned, lineFeeds, lineFeed]

/-- A line has one line feed. -/
theorem lineFeeds_bytes {line : TextLine} (h : ∀ b ∈ line.content, isTerminator b = false) :
    lineFeeds line.bytes = 1 := by
  have hcontent : lineFeeds line.content = 0 := lineFeeds_eq_zero h
  rw [bytes, lineFeeds_append, hcontent]
  cases hreturned : line.returned <;> simp [ending, left, hreturned, lineFeeds, lineFeed]

end TextLine

/-- Whether an input, without its mark, is lines in a row and a last one without an end, which
may have nothing on it. -/
structure Lined (bytes : List UInt8) (lines : List TextLine) (last : List UInt8) : Prop where
  body_eq : withoutMark bytes = lines.flatMap TextLine.bytes ++ last
  plain : ∀ line ∈ lines, ∀ b ∈ line.content, isTerminator b = false
  plain_last : ∀ b ∈ last, isTerminator b = false

/-- What stands on the lines of a text, the last one included. -/
def contents (lines : List TextLine) (last : List UInt8) : List (List UInt8) :=
  lines.map TextLine.content ++ [last]

/-- The number of lines that are not counted for a record behind them, the nearest first: blank
ones, and that of the record before if only a carriage return of its end is consumed with it. -/
def uncounted : List TextLine → Nat
  | [] => 0
  | line :: earlier =>
      if line.content = [] then uncounted earlier + 1 else if line.returned then 1 else 0

/-- No lines are passed over exactly if there are none, or the nearest is not blank and ends in
a line feed alone. -/
theorem uncounted_eq_zero_iff {earlier : List TextLine} :
    uncounted earlier = 0 ↔
      ∀ line ∈ earlier.head?, line.content ≠ [] ∧ line.returned = false := by
  cases earlier with
  | nil => simp [uncounted]
  | cons line earlier =>
      by_cases hblank : line.content = [] <;> cases hreturned : line.returned <;>
        simp [uncounted, hblank, hreturned]

/-- Lines in a row end in a terminator. -/
theorem ended_flatMap_bytes (lines : List TextLine) : Ended (lines.flatMap TextLine.bytes) := by
  induction lines with
  | nil => exact .nothing
  | cons line lines ih => exact line.ended_bytes.append ih

/-- Lines in a row have one line feed each. -/
theorem lineFeeds_flatMap_bytes {lines : List TextLine}
    (h : ∀ line ∈ lines, ∀ b ∈ line.content, isTerminator b = false) :
    lineFeeds (lines.flatMap TextLine.bytes) = lines.length := by
  induction lines with
  | nil => rfl
  | cons line lines ih =>
      obtain ⟨hline, hlines⟩ := List.forall_mem_cons.mp h
      rw [List.flatMap_cons, lineFeeds_append, TextLine.lineFeeds_bytes hline, ih hlines,
        List.length_cons, Nat.add_comm]

/-- The runs of lines in a row are what stands on those that are not blank. -/
theorem runs_flatMap_bytes {lines : List TextLine}
    (h : ∀ line ∈ lines, ∀ b ∈ line.content, isTerminator b = false) :
    runs (lines.flatMap TextLine.bytes) =
      (lines.map TextLine.content).filter fun run => !run.isEmpty := by
  induction lines with
  | nil => rfl
  | cons line lines ih =>
      obtain ⟨hline, hlines⟩ := List.forall_mem_cons.mp h
      rw [List.flatMap_cons, line.ended_bytes.runs_append, TextLine.runs_bytes hline, ih hlines,
        ← List.filter_append]
      rfl

namespace Lined

variable {bytes : List UInt8} {lines : List TextLine} {last : List UInt8}

/-- The runs of a text are what stands on its lines that are not blank. -/
theorem runs_eq (h : Lined bytes lines last) :
    runs (withoutMark bytes) = (contents lines last).filter fun run => !run.isEmpty := by
  have hlast : runs last = [last].filter fun run => !run.isEmpty := by
    rw [runs, List.splitOnP_eq_singleton h.plain_last]
  rw [h.body_eq, (ended_flatMap_bytes lines).runs_append, runs_flatMap_bytes h.plain, hlast,
    ← List.filter_append, contents]

end Lined

/-- With the record on a line its content is consumed, and the first byte of its end. -/
theorem consumed_line {bytes mark front back : List UInt8} {line : TextLine}
    (hbytes : bytes = mark ++ withoutMark bytes)
    (hbody : withoutMark bytes = front ++ (line.bytes ++ back)) (hfront : Ended front)
    (hline : ∀ b ∈ line.content, isTerminator b = false) (hne : line.content ≠ []) :
    Consumed bytes ((runs front).length + 1) (mark ++ front ++ line.content ++ [line.ending]) := by
  obtain ⟨start, final, hcontent⟩ : ∃ start final, line.content = start ++ [final] :=
    ⟨_, _, (List.dropLast_concat_getLast hne).symm⟩
  have hconsumed : mark ++ front ++ line.content ++ [line.ending] =
      mark ++ front ++ start ++ [final, line.ending] := by
    rw [hcontent]
    simp only [List.append_assoc, List.cons_append, List.nil_append]
  have hsplit : bytes = mark ++ front ++ start ++ [final, line.ending] ++ (line.left ++ back) := by
    rw [← hconsumed]
    refine hbytes.trans ?_
    rw [hbody, TextLine.bytes]
    simp only [List.append_assoc, List.cons_append, List.nil_append]
  have hkept : runs line.bytes = [line.content] := by
    rw [TextLine.runs_bytes hline]
    simp [hne]
  have hrest : runs (line.left ++ back) =
      (runs (withoutMark bytes)).drop ((runs front).length + 1) := by
    rw [hbody, hfront.runs_append, line.ended_bytes.runs_append, hkept, ← List.append_assoc,
      List.drop_left' (by simp),
      runs_append_of_terminators fun b hb => TextLine.isTerminator_of_mem_left hb]
  have hfinal : isTerminator final = false := hline final (by simp [hcontent])
  rw [hconsumed]
  exact .through hsplit hfinal line.isTerminator_ending hrest

/-- What was consumed with the records on some lines counts these lines, but for those that are
not counted behind them. -/
theorem exists_consumed {bytes back : List UInt8} {front : List TextLine}
    (hbody : withoutMark bytes = front.flatMap TextLine.bytes ++ back)
    (hplain : ∀ line ∈ front, ∀ b ∈ line.content, isTerminator b = false) :
    ∃ before, Consumed bytes (runs (front.flatMap TextLine.bytes)).length before ∧
      lineFeeds before + uncounted front.reverse = front.length := by
  induction front using List.reverseRecOn generalizing back with
  | nil => exact ⟨[], .nothing, rfl⟩
  | append_singleton earlier line ih =>
      obtain ⟨hearlier, hline⟩ := List.forall_mem_append.mp hplain
      rw [List.forall_mem_singleton] at hline
      have hruns : (runs ((earlier ++ [line]).flatMap TextLine.bytes)).length =
          (runs (earlier.flatMap TextLine.bytes)).length + (runs line.bytes).length := by
        rw [List.flatMap_append, List.flatMap_singleton, (ended_flatMap_bytes earlier).runs_append,
          List.length_append]
      rw [List.flatMap_append, List.flatMap_singleton, List.append_assoc] at hbody
      rw [hruns, TextLine.runs_bytes hline, List.reverse_append, List.reverse_singleton,
        List.singleton_append, List.length_append, List.length_singleton, uncounted]
      by_cases hblank : line.content = []
      · obtain ⟨before, hconsumed, hcount⟩ := ih hbody hearlier
        refine ⟨before, by simpa [hblank] using hconsumed, ?_⟩
        rw [if_pos hblank]
        omega
      · obtain ⟨mark, hmark, hfeeds⟩ := (Cursor.ofBytes bytes).exists_rest_eq
        rw [Cursor.body_ofBytes] at hmark
        have hconsumed : Consumed bytes _ _ :=
          consumed_line hmark hbody (ended_flatMap_bytes earlier) hline hblank
        refine ⟨_, by simpa [hblank] using hconsumed, ?_⟩
        have hending := line.lineFeeds_ending
        rw [if_neg hblank, lineFeeds_append, lineFeeds_append, lineFeeds_append, hfeeds,
          lineFeeds_eq_zero hline, lineFeeds_flatMap_bytes hearlier]
        omega

/-! ## Records on lines -/

/-- Whether the record of a number stands on the line of an index: there are as many lines that
are not blank before it, and it is what stands on this one. -/
structure OnLine (lines : List TextLine) (last : List UInt8) (record : RawRecord)
    (index : Nat) : Prop where
  exists_content : ∃ content, (contents lines last)[index]? = some content ∧ content ≠ [] ∧
    record.fields = splitFields content
  number_eq : (((contents lines last).take index).filter fun run => !run.isEmpty).length =
    record.number

/-- An entry that is kept by a filter stands in the list behind those that are kept before
it. -/
theorem exists_getElem?_of_filter {α : Type} {p : α → Bool} {xs : List α} {k : Nat} {x : α}
    (h : (xs.filter p)[k]? = some x) :
    ∃ i, xs[i]? = some x ∧ p x = true ∧ ((xs.take i).filter p).length = k := by
  induction xs generalizing k with
  | nil => cases h
  | cons first xs ih =>
      by_cases hfirst : p first = true
      · rw [List.filter_cons_of_pos hfirst] at h
        cases k with
        | zero =>
            obtain rfl := Option.some.inj h
            exact ⟨0, rfl, hfirst, rfl⟩
        | succ k =>
            obtain ⟨i, hi, hx, hcount⟩ := ih h
            exact ⟨i + 1, hi, hx, by simp [hfirst, hcount]⟩
      · rw [List.filter_cons_of_neg hfirst] at h
        obtain ⟨i, hi, hx, hcount⟩ := ih h
        exact ⟨i + 1, hi, hx, by simp [hfirst, hcount]⟩

/-- The record of a number stands on a line, and the number that it reports falls short of that
line by the lines that are not counted before it. -/
theorem Lined.exists_onLine {bytes : List UInt8} {lines : List TextLine} {last : List UInt8}
    (h : Lined bytes lines last) {k : Nat} {record : RawRecord}
    (hk : (Cursor.ofBytes bytes).records[k]? = some record) :
    ∃ index, OnLine lines last record index ∧
      record.line + uncounted (lines.take index).reverse = index + 1 := by
  obtain ⟨run, before, hrun, hbefore, rfl⟩ := Cursor.getElem?_records_eq_some_iff.mp hk
  rw [h.runs_eq] at hrun
  obtain ⟨index, hindex, hne, hcount⟩ := exists_getElem?_of_filter hrun
  have hle : index ≤ lines.length := by
    have hlt := (List.getElem?_eq_some_iff.mp hindex).1
    rw [contents, List.length_append, List.length_map, List.length_singleton] at hlt
    omega
  have htake : (contents lines last).take index = (lines.take index).map TextLine.content := by
    rw [contents, List.take_append_of_le_length (by simpa using hle), List.map_take]
  have hplain : ∀ line ∈ lines.take index, ∀ b ∈ line.content, isTerminator b = false :=
    fun line hline => h.plain line (List.mem_of_mem_take hline)
  have hbody : withoutMark bytes = (lines.take index).flatMap TextLine.bytes ++
      ((lines.drop index).flatMap TextLine.bytes ++ last) := by
    rw [h.body_eq, ← List.append_assoc, ← List.flatMap_append, List.take_append_drop]
  obtain ⟨before', hbefore', hfeeds⟩ := exists_consumed hbody hplain
  rw [runs_flatMap_bytes hplain, ← htake, hcount] at hbefore'
  obtain rfl := hbefore.unique hbefore'
  refine ⟨index, ⟨⟨run, hindex, by simpa using hne, rfl⟩, hcount⟩, ?_⟩
  rw [List.length_take, Nat.min_eq_left hle] at hfeeds
  simp only
  omega

/-- The number that is reported is that of the line exactly if no lines are passed over. -/
theorem line_eq_iff {line index : Nat} {lines : List TextLine}
    (h : line + uncounted (lines.take index).reverse = index + 1) :
    line = index + 1 ↔ ∀ before ∈ (lines.take index).getLast?,
      before.content ≠ [] ∧ before.returned = false := by
  rw [← List.head?_reverse, ← uncounted_eq_zero_iff]
  omega

end Record

/-! ## Failures of records -/

/-- A record of a catalog with a fault of form reports its own line. -/
theorem RangeQuery.line_of_ofRecord {record : RawRecord} {line : Nat} {fault : FormatFault}
    (h : RangeQuery.ofRecord record = .error (.format line fault)) : line = record.line := by
  cases RangeQuery.ofRecord_eq_error_iff.mp h <;> rfl

/-- A record of a dataset with a fault of form reports its own line. -/
theorem Row.line_of_ofRecord {record : RawRecord} {line : Nat} {fault : FormatFault}
    (h : Row.ofRecord record = .error (.format line fault)) : line = record.line := by
  have hnumber {text : String} {f : Int64 → Except Failure Row}
      (hvalue : readNumber record.line "value" text >>= f = .error (.format line fault))
      (hf : ∀ value failure, f value ≠ .error failure) : line = record.line := by
    rcases bind_eq_error_iff.mp hvalue with hread | ⟨value, -, hlater⟩
    · obtain ⟨-, _, -, hfailure⟩ := readNumber_eq_error_iff.mp hread
      cases hfailure
      rfl
    · exact absurd hlater (hf value _)
  unfold Row.ofRecord at h
  split at h
  · cases h
  · exact hnumber h fun _ _ => nofun
  · exact hnumber h fun _ _ => nofun
  · cases h
    rfl

namespace Dataset.Reader

/-- A failure that ends one of several reads is that of the record behind those that were taken
before. -/
theorem exists_record_of_failure {c : Cursor} {limits : List Nat} {earlier later : List Batch}
    {batch : Batch} {failure : Failure} (h : reads ⟨c, none⟩ limits = earlier ++ batch :: later)
    (hfailure : batch.failure = some failure) :
    ∃ record, c.records[(earlier.flatMap Batch.outcomes).length + batch.rows.length]? =
      some record ∧ Row.ofRecord record = .error failure := by
  obtain ⟨passed, hrecords, houtcomes⟩ := reads_passed c limits
  have hbatch : batch.outcomes = batch.rows.map .ok ++ [.error failure] := by
    rw [Batch.outcomes, hfailure]
    rfl
  have hfailed : (passed.map Row.ofRecord)[(earlier.flatMap Batch.outcomes).length +
      batch.rows.length]? = some (.error failure) := by
    rw [← houtcomes, h, List.flatMap_append, List.flatMap_cons, hbatch,
      List.getElem?_append_right (Nat.le_add_right _ _), Nat.add_sub_cancel_left]
    simp
  rw [List.getElem?_map] at hfailed
  obtain ⟨record, hrecord, hfailed⟩ := Option.map_eq_some_iff.mp hfailed
  refine ⟨record, ?_, hfailed⟩
  rw [hrecords, List.getElem?_append_left (List.getElem?_eq_some_iff.mp hrecord).1, hrecord]

end Dataset.Reader

/-! ## The numbers that are reported -/

namespace Record

/-- Which number is reported for a record: it falls short of its line by the lines that are not
counted, and so it is that line exactly if the one before it is not blank and ends in a line
feed alone, or there is none. -/
def Reports (lines : List TextLine) (last : List UInt8) (record : RawRecord) (line : Nat) :
    Prop :=
  ∃ index, OnLine lines last record index ∧
    line + uncounted (lines.take index).reverse = index + 1 ∧
    (line = index + 1 ↔ ∀ before ∈ (lines.take index).getLast?,
      before.content ≠ [] ∧ before.returned = false)

/-- A record reports its place in the lines of a text. -/
theorem Lined.reports {bytes : List UInt8} {lines : List TextLine} {last : List UInt8}
    (h : Lined bytes lines last) {k : Nat} {record : RawRecord}
    (hk : (Cursor.ofBytes bytes).records[k]? = some record) :
    Reports lines last record record.line := by
  obtain ⟨index, hline, hcount⟩ := h.exists_onLine hk
  exact ⟨index, hline, hcount, line_eq_iff hcount⟩

/-- A fault of form in a catalog reports the line of the first record that is no query, and one
in a dataset, however it is read in batches, that of the record behind those taken before, each
short of the lines that are not counted. -/
theorem format_line_exact {bytes : List UInt8} {lines : List TextLine} {last : List UInt8}
    (h : Lined bytes lines last) :
    let records := (Cursor.ofBytes bytes).records
    (∀ line fault, Catalog.read bytes = .error (.format line fault) →
      ∃ (k : Nat) (record : RawRecord), records[k]? = some record ∧
        (∀ earlier ∈ records.take k, ∃ query, RangeQuery.ofRecord earlier = .ok query) ∧
        RangeQuery.ofRecord record = .error (.format line fault) ∧
        Reports lines last record line) ∧
    ∀ limits earlier batch later line fault,
      (Dataset.Reader.ofBytes bytes).reads limits = earlier ++ batch :: later →
      batch.failure = some (.format line fault) →
      ∃ record : RawRecord,
        records[(earlier.flatMap Dataset.Batch.outcomes).length + batch.rows.length]? =
          some record ∧
        Row.ofRecord record = .error (.format line fault) ∧ Reports lines last record line := by
  intro records
  constructor
  · intro line fault hread
    obtain ⟨k, record, hk, hfailed, hearlier⟩ := mapM_eq_error_iff.mp hread
    obtain rfl := RangeQuery.line_of_ofRecord hfailed
    exact ⟨k, record, hk, hearlier, hfailed, h.reports hk⟩
  · intro limits earlier batch later line fault hreads hfailure
    obtain ⟨record, hk, hfailed⟩ := Dataset.Reader.exists_record_of_failure hreads hfailure
    obtain rfl := Row.line_of_ofRecord hfailed
    exact ⟨record, hk, hfailed, h.reports hk⟩

/-- In a catalog with a blank line and a dataset with a carriage return, the numbers that are
reported fall short by one. -/
theorem format_line_exact_short :
    (∃ record : RawRecord, RangeQuery.ofRecord record = .error (.format 2 (.catalogFields 1)) ∧
      Reports [⟨"/x;1;5".toUTF8.data.toList, false⟩, ⟨[], false⟩] "bad".toUTF8.data.toList
        record 2) ∧
    ∃ record : RawRecord, Row.ofRecord record = .error (.format 1 (.datasetFields 1)) ∧
      Reports [⟨"/x;1".toUTF8.data.toList, true⟩, ⟨"bad".toUTF8.data.toList, true⟩] []
        record 1 := by
  let catalog := "/x;1;5\n\nbad".toUTF8.data.toList
  let dataset := "/x;1\r\nbad\r\n".toUTF8.data.toList
  have hcatalog : Lined catalog [⟨"/x;1;5".toUTF8.data.toList, false⟩, ⟨[], false⟩]
      "bad".toUTF8.data.toList :=
    ⟨by decide +kernel, by decide +kernel, by decide +kernel⟩
  have hdataset : Lined dataset [⟨"/x;1".toUTF8.data.toList, true⟩,
      ⟨"bad".toUTF8.data.toList, true⟩] [] :=
    ⟨by decide +kernel, by decide +kernel, by decide +kernel⟩
  have hread : Catalog.read catalog = .error (.format 2 (.catalogFields 1)) := by decide +kernel
  have hreads : (Dataset.Reader.ofBytes dataset).reads [10] =
      [] ++ ⟨[⟨"/x", 1, ""⟩], some (.format 1 (.datasetFields 1))⟩ :: [] := by decide
  obtain ⟨-, record, -, -, hrecord, hreports⟩ := (format_line_exact hcatalog).1 _ _ hread
  obtain ⟨record', -, hrecord', hreports'⟩ :=
    (format_line_exact hdataset).2 _ _ _ _ _ _ hreads rfl
  exact ⟨⟨record, hrecord, hreports⟩, record', hrecord', hreports'⟩

/-- The record on the third line of a text, behind a blank one, reports the second. -/
theorem format_line_short_of_blank :
    let lines : List TextLine := [⟨"/x;1;5".toUTF8.data.toList, false⟩, ⟨[], false⟩]
    let bad := "bad".toUTF8.data.toList
    let text := "/x;1;5\n\nbad".toUTF8.data.toList
    Lined text lines bad ∧ Catalog.read text = .error (.format 2 (.catalogFields 1)) ∧
      (Cursor.ofBytes text).records.map RawRecord.fields =
        [["/x", "1", "5"].map fun field => field.toUTF8.data.toList, [bad]] ∧
      (contents lines bad)[2]? = some bad :=
  ⟨⟨by decide +kernel, by decide +kernel, by decide +kernel⟩, by decide +kernel,
    by decide +kernel, by decide +kernel⟩

end Record
end IndexBench
