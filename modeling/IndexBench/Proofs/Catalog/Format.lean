import IndexBench.Catalog
import IndexBench.Proofs.Readings
import IndexBench.Proofs.Record.Fields
import IndexBench.Proofs.Record.Runs
import IndexBench.Proofs.Text.Numeral

/-!
# The format of catalogs

A catalog is read exactly if each of its records is a pattern and two numbers with semicolons
between them.  Otherwise nothing of it is read, and the failure is that of the first record
of another form: the first of its fields that is no text, else their number, else the first
bound that is no number.

Main definitions:

- `Catalog.Describes` says which query a record describes.
- `Catalog.Offends` says which failure a record that describes none amounts to.

Main results:

- Theorems `RangeQuery.ofRecord_eq_ok_iff` and `RangeQuery.ofRecord_eq_error_iff`: what
  reading one record comes to.
- Theorem `Catalog.read_exact`: a catalog is read as the queries that its records describe,
  or fails with the first record that describes none.
-/

namespace IndexBench

/-! ## Numbers in fields -/

variable {line : Nat} {what text : String}

/-- A field is read as the number of 64 bits that it denotes. -/
theorem readNumber_eq_ok_iff {value : Int64} :
    readNumber line what text = .ok value ↔ Integer.Denotes text.toList value.toInt := by
  rw [← Integer.parse_eq_ok_iff, readNumber]
  cases Integer.parse text <;> simp

/-- Reading a number fails exactly where the field denotes none of 64 bits. -/
theorem readNumber_eq_error_iff {failure : Failure} :
    readNumber line what text = .error failure ↔
      (∀ value : Int64, ¬Integer.Denotes text.toList value.toInt) ∧
        ∃ fault, Integer.parse text = .error fault ∧
          failure = .format line (.number what text fault) := by
  simp only [← Integer.parse_eq_ok_iff, readNumber]
  cases Integer.parse text <;> simp [eq_comm]

/-! ## One record -/

namespace RangeQuery

variable {record : RawRecord}

/-- Whether fields are the pattern of a query and texts that denote its bounds. -/
def OfFields (fields : List (List UInt8)) (query : RangeQuery) : Prop :=
  ∃ low high : String, fields = [query.pattern, low, high].map Utf8.encode ∧
    Integer.Denotes low.toList query.low.toInt ∧ Integer.Denotes high.toList query.high.toInt

/-- A record is read as the query that its fields are of. -/
theorem ofRecord_eq_ok_iff {query : RangeQuery} :
    ofRecord record = .ok query ↔ OfFields record.fields query := by
  simp only [OfFields, ← RawRecord.decode_eq_ok_iff]
  unfold ofRecord
  split
  · rename_i fault hdecode
    simp [hdecode]
  · rename_i pattern low high hdecode
    rw [hdecode]
    simp only [bind_eq_ok_iff, readNumber_eq_ok_iff]
    constructor
    · rintro ⟨lowValue, hlow, highValue, hhigh, ⟨⟩⟩
      exact ⟨low, high, rfl, hlow, hhigh⟩
    · rintro ⟨low', high', htexts, hlow, hhigh⟩
      simp only [Except.ok.injEq, List.cons.injEq, and_true] at htexts
      obtain ⟨rfl, rfl, rfl⟩ := htexts
      exact ⟨_, hlow, _, hhigh, rfl⟩
  · rename_i fields hfields hdecode
    rw [hdecode]
    constructor
    · intro h
      cases h
    · rintro ⟨low, high, htexts, -, -⟩
      exact absurd (Except.ok.inj htexts) (hfields _ _ _)

/-- What is wrong with a record that is read as no query, in the order of the checks: a field
is no text, their number is not three, the low bound or the high one is no number. -/
inductive Offends (record : RawRecord) : Failure → Prop where
  | notText {texts : List String} {field : List UInt8} {rest : List (List UInt8)}
      (hfields : record.fields = texts.map Utf8.encode ++ field :: rest)
      (hfield : ∀ text, Utf8.encode text ≠ field) :
      Offends record (.record (.notText record.number record.line record.offset texts.length
        (Utf8.validLength field)))
  | count {texts : List String} (hfields : record.fields = texts.map Utf8.encode)
      (hcount : texts.length ≠ 3) :
      Offends record (.format record.line (.catalogFields texts.length))
  | low {pattern low high : String} {fault : NumberFault}
      (hfields : record.fields = [pattern, low, high].map Utf8.encode)
      (hlow : ∀ value : Int64, ¬Integer.Denotes low.toList value.toInt)
      (hfault : Integer.parse low = .error fault) :
      Offends record (.format record.line (.number "low bound" low fault))
  | high {pattern low high : String} {value : Int64} {fault : NumberFault}
      (hfields : record.fields = [pattern, low, high].map Utf8.encode)
      (hlow : Integer.Denotes low.toList value.toInt)
      (hhigh : ∀ value : Int64, ¬Integer.Denotes high.toList value.toInt)
      (hfault : Integer.parse high = .error fault) :
      Offends record (.format record.line (.number "high bound" high fault))

/-- Reading a record fails with what is wrong with it. -/
theorem ofRecord_eq_error_iff {failure : Failure} :
    ofRecord record = .error failure ↔ Offends record failure := by
  constructor
  · intro h
    unfold ofRecord at h
    split at h
    · rename_i fault hdecode
      obtain ⟨texts, field, rest, hfields, hfield, rfl⟩ :=
        RawRecord.decode_eq_error_iff.mp hdecode
      obtain rfl := Except.error.inj h
      exact .notText hfields hfield
    · rename_i pattern low high hdecode
      have hfields := RawRecord.decode_eq_ok_iff.mp hdecode
      simp only [bind_eq_error_iff, readNumber_eq_ok_iff, readNumber_eq_error_iff] at h
      rcases h with ⟨hlow, fault, hfault, rfl⟩ |
        ⟨value, hlow, ⟨hhigh, fault, hfault, rfl⟩ | ⟨other, -, hpure⟩⟩
      · exact .low hfields hlow hfault
      · exact .high hfields hlow hhigh hfault
      · cases hpure
    · rename_i texts htexts hdecode
      obtain rfl := Except.error.inj h
      refine .count (RawRecord.decode_eq_ok_iff.mp hdecode) fun hcount => ?_
      obtain ⟨pattern, low, high, rfl⟩ := List.length_eq_three.mp hcount
      exact htexts pattern low high rfl
  · intro h
    cases h with
    | notText hfields hfield =>
        have hdecode := RawRecord.decode_eq_error_iff.mpr ⟨_, _, _, hfields, hfield, rfl⟩
        rw [ofRecord, hdecode]
    | @count texts hfields hcount =>
        rw [ofRecord, RawRecord.decode_eq_ok_iff.mpr hfields]
        split
        · contradiction
        · rename_i htexts
          exact absurd (by rw [Except.ok.inj htexts]; rfl) hcount
        · rename_i htexts
          rw [Except.ok.inj htexts]
    | low hfields hlow hfault =>
        rw [ofRecord, RawRecord.decode_eq_ok_iff.mpr hfields]
        exact bind_eq_error_iff.mpr (.inl (readNumber_eq_error_iff.mpr ⟨hlow, _, hfault, rfl⟩))
    | @high pattern low high value fault hfields hlow hhigh hfault =>
        have hfailed : readNumber record.line "high bound" high = _ :=
          readNumber_eq_error_iff.mpr ⟨hhigh, fault, hfault, rfl⟩
        rw [ofRecord, RawRecord.decode_eq_ok_iff.mpr hfields]
        exact bind_eq_error_iff.mpr (.inr ⟨_, readNumber_eq_ok_iff.mpr hlow,
          bind_eq_error_iff.mpr (.inl hfailed)⟩)

end RangeQuery

/-! ## Whole catalogs -/

namespace Catalog

open Record

/-- Whether a record is the text of a query: its pattern without a semicolon, then texts that
denote its bounds. -/
def Describes (run : List UInt8) (query : RangeQuery) : Prop :=
  ∃ low high : String, run = Utf8.encode (query.pattern ++ ";" ++ low ++ ";" ++ high) ∧
    ';' ∉ query.pattern.toList ∧ Integer.Denotes low.toList query.low.toInt ∧
      Integer.Denotes high.toList query.high.toInt

/-- A record is the text of a query exactly if its fields are of this query. -/
theorem describes_iff {run : List UInt8} {query : RangeQuery} :
    Describes run query ↔ RangeQuery.OfFields (splitFields run) query := by
  refine exists₂_congr fun low high => ?_
  rw [splitFields_eq_three_iff]
  constructor
  · rintro ⟨hrun, hpattern, hlow, hhigh⟩
    exact ⟨⟨hrun, hpattern, hlow.semicolon_notMem, hhigh.semicolon_notMem⟩, hlow, hhigh⟩
  · rintro ⟨⟨hrun, hpattern, -⟩, hlow, hhigh⟩
    exact ⟨hrun, hpattern, hlow, hhigh⟩

/-- The records are read as queries exactly if the runs of bytes are the texts of them. -/
theorem read_eq_ok_iff {bytes : List UInt8} {queries : Catalog} :
    read bytes = .ok queries ↔ List.Forall₂ Describes (runs (withoutMark bytes)) queries := by
  calc read bytes = .ok queries
    _ ↔ List.Forall₂ (fun record query => RangeQuery.OfFields record.fields query)
          (Cursor.ofBytes bytes).records queries := by
        simp only [read, mapM_eq_ok_iff, RangeQuery.ofRecord_eq_ok_iff]
    _ ↔ List.Forall₂ (fun run query => RangeQuery.OfFields (splitFields run) query)
          (runs (withoutMark bytes)) queries := by
        rw [← List.forall₂_map_left_iff, Cursor.map_fields_records, List.forall₂_map_left_iff,
          Cursor.body_ofBytes]
    _ ↔ List.Forall₂ Describes (runs (withoutMark bytes)) queries := by
        simp only [← describes_iff]

/-- Reading fails exactly with what is wrong with the first record that describes no query. -/
theorem read_eq_error_iff {bytes : List UInt8} {failure : Failure} :
    read bytes = .error failure ↔ ∃ (k : Nat) (run before : List UInt8),
      (runs (withoutMark bytes))[k]? = some run ∧
        (∀ earlier ∈ (runs (withoutMark bytes)).take k, ∃ query, Describes earlier query) ∧
        Consumed bytes k before ∧
        RangeQuery.Offends ⟨k, 1 + lineFeeds before, before.length, run.splitOn fieldSeparator⟩
          failure := by
  have hearlier (k : Nat) :
      (∀ record ∈ (Cursor.ofBytes bytes).records.take k, ∃ query,
        RangeQuery.OfFields record.fields query) ↔
      ∀ run ∈ (runs (withoutMark bytes)).take k, ∃ query, Describes run query := by
    have hfields := congrArg (List.take k) (Cursor.map_fields_records (Cursor.ofBytes bytes))
    rw [Cursor.body_ofBytes, ← List.map_take, ← List.map_take] at hfields
    have hread := List.forall_mem_map (f := RawRecord.fields)
      (l := (Cursor.ofBytes bytes).records.take k)
      (P := fun fields => ∃ query, RangeQuery.OfFields fields query)
    rw [← hread, hfields, List.forall_mem_map]
    simp only [describes_iff]
  simp only [read, mapM_eq_error_iff, RangeQuery.ofRecord_eq_ok_iff, hearlier,
    RangeQuery.ofRecord_eq_error_iff, ← splitFields_eq_splitOn]
  constructor
  · rintro ⟨k, record, hk, hoffends, hbefore⟩
    obtain ⟨run, before, hrun, hconsumed, rfl⟩ := Cursor.getElem?_records_eq_some_iff.mp hk
    exact ⟨k, run, before, hrun, hbefore, hconsumed, hoffends⟩
  · rintro ⟨k, run, before, hrun, hbefore, hconsumed, hoffends⟩
    exact ⟨k, _, Cursor.getElem?_records_eq_some_iff.mpr ⟨run, before, hrun, hconsumed, rfl⟩,
      hoffends, hbefore⟩

/-- A catalog is read exactly as the queries that its records describe, in their order.  Where
one describes none, reading fails with what is wrong with the first of them, which is located
by what was consumed with those before it. -/
theorem read_exact (bytes : List UInt8) :
    (∀ queries : Catalog, read bytes = .ok queries ↔
      List.Forall₂ Describes (runs (withoutMark bytes)) queries) ∧
    ∀ failure : Failure, read bytes = .error failure ↔
      ∃ (k : Nat) (run before : List UInt8), (runs (withoutMark bytes))[k]? = some run ∧
        (∀ earlier ∈ (runs (withoutMark bytes)).take k, ∃ query, Describes earlier query) ∧
        Consumed bytes k before ∧
        RangeQuery.Offends ⟨k, 1 + lineFeeds before, before.length, run.splitOn fieldSeparator⟩
          failure :=
  ⟨fun _ => read_eq_ok_iff, fun _ => read_eq_error_iff⟩

end Catalog
end IndexBench
