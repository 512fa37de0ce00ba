import IndexBench.Proofs.Catalog.Format
import IndexBench.Proofs.Record.Lines

/-!
# Catalogs written down and read back

The text of a catalog has one record for each query, ended by a line feed, a carriage return
or both, with blank lines anywhere.  Patterns without semicolons and line ends are found again
in it, and so are bounds of every size.

Main definitions:

- `LineEnd` is what can end a line.
- `Catalog.LaidOut` says that a text is a layout of queries.

Main results:

- Theorem `Catalog.runs_encode_of_laidOut`: the runs of a layout are the records of its queries.
- Theorem `Catalog.read_of_laidOut`: queries are read back from every layout of them.
-/

namespace IndexBench

/-! ## The byte order mark -/

namespace Record

/-- A text starts with the bytes of a byte order mark exactly if its first character is one. -/
theorem byteOrderMark_isPrefix_encode_iff {text : String} :
    byteOrderMark <+: Utf8.encode text ↔ text.toList.head? = some '\uFEFF' := by
  rw [Utf8.encode_eq_flatMap]
  cases text.toList with
  | nil => decide
  | cons c cs =>
      have hvalue : c.val.toNat = c.toNat := rfl
      have hsame : c = '\uFEFF' ↔ c.toNat = 0xFEFF := Char.toNat_inj.symm
      have hmark : byteOrderMark = [0xEF, 0xBB, 0xBF].map UInt8.ofNat := rfl
      have hbyte {m n : Nat} (hm : m < 256) (hn : n < 256) :
          UInt8.ofNat m = UInt8.ofNat n ↔ m = n := Utf8.ofNat_eq_iff hm hn
      rw [List.flatMap_cons, List.head?_cons, Option.some.injEq]
      constructor
      · intro h
        rw [hsame]
        unfold String.utf8EncodeChar at h
        simp only [hvalue, hmark, List.map_cons] at h
        -- only the form of three bytes has a first byte that is that of the mark
        split at h
        · rw [List.cons_append, List.cons_prefix_cons, hbyte (by omega) (by omega)] at h
          omega
        · split at h
          · rw [List.cons_append, List.cons_prefix_cons, hbyte (by omega) (by omega)] at h
            omega
          · split at h
            · simp only [List.cons_append, List.cons_prefix_cons] at h
              rw [hbyte (by omega) (by omega), hbyte (by omega) (by omega),
                hbyte (by omega) (by omega)] at h
              omega
            · rw [List.cons_append, List.cons_prefix_cons, hbyte (by omega) (by omega)] at h
              omega
      · rintro rfl
        exact List.prefix_append_of_prefix (by decide)

/-- Nothing is dropped from a text that does not start with a byte order mark. -/
theorem withoutMark_encode {text : String} (h : text.toList.head? ≠ some '\uFEFF') :
    withoutMark (Utf8.encode text) = Utf8.encode text :=
  if_neg fun htake => h (byteOrderMark_isPrefix_encode_iff.mp
    (List.prefix_iff_eq_take.mpr htake.symm))

end Record

/-! ## One query -/

namespace RangeQuery

variable {query : RangeQuery}

/-- Whether the pattern of a query has no semicolons and no line ends. -/
def Plain (query : RangeQuery) : Prop :=
  ∀ c ∈ query.pattern.toList, c ≠ ';' ∧ c ≠ '\n' ∧ c ≠ '\r'

instance (query : RangeQuery) : Decidable query.Plain :=
  List.decidableBAll (fun c => c ≠ ';' ∧ c ≠ '\n' ∧ c ≠ '\r') query.pattern.toList

/-- What is no digit, no sign and no semicolon is in the record of a query only if it is in its
pattern. -/
theorem notMem_render {c : Char} (hnumber : ¬(c.isDigit = true ∨ c = '+' ∨ c = '-'))
    (hseparator : c ≠ ';') (hpattern : c ∉ query.pattern.toList) : c ∉ query.render.toList := by
  have hsemicolon : c ∉ ";".toList := by simpa using hseparator
  have hbound (value : Int64) : c ∉ (Integer.render value).toList :=
    mt Integer.isDigit_or_sign_of_mem_render hnumber
  simp only [render, String.toList_append, List.mem_append, not_or]
  exact ⟨⟨⟨⟨hpattern, hsemicolon⟩, hbound query.low⟩, hsemicolon⟩, hbound query.high⟩

/-- The record of a query is a line. -/
theorem Plain.isLine (h : query.Plain) : Record.IsLine query.render := by
  refine ⟨fun hempty => ?_,
    notMem_render (by decide) (by decide) fun hc => (h _ hc).2.1 rfl,
    notMem_render (by decide) (by decide) fun hc => (h _ hc).2.2 rfl⟩
  have hlength := congrArg (fun text => text.toList.length) hempty
  simp [render] at hlength

/-- The record of a query describes it. -/
theorem Plain.describes (h : query.Plain) :
    Catalog.Describes (Utf8.encode query.render) query :=
  ⟨Integer.render query.low, Integer.render query.high, rfl, fun hc => (h _ hc).1 rfl,
    Integer.parse_eq_ok_iff.mp (Integer.parse_render query.low),
    Integer.parse_eq_ok_iff.mp (Integer.parse_render query.high)⟩

end RangeQuery

/-! ## Layouts -/

/-- What can end a line. -/
inductive LineEnd where
  | feed
  | carriage
  | both
  deriving DecidableEq, Repr

namespace LineEnd

/-- The characters that end a line. -/
def text : LineEnd → String
  | feed => "\n"
  | carriage => "\r"
  | both => "\r\n"

/-- The bytes that end a line are terminators, and there is at least one of them. -/
theorem exists_encode_text_eq (ending : LineEnd) :
    ∃ first rest, Utf8.encode ending.text = first :: rest ∧ isTerminator first = true ∧
      ∀ b ∈ rest, isTerminator b = true := by
  cases ending with
  | feed => exact ⟨10, [], rfl, rfl, List.forall_mem_nil _⟩
  | carriage => exact ⟨13, [], rfl, rfl, List.forall_mem_nil _⟩
  | both => exact ⟨13, [10], rfl, rfl, List.forall_mem_singleton.mpr rfl⟩

end LineEnd

namespace Catalog

open Record

/-- Whether a text is a layout of queries: their records in order, each on a line of its own,
and blank lines anywhere.  The last record may go on to the end of the text. -/
inductive LaidOut : Catalog → String → Prop where
  | nothing : LaidOut [] ""
  | blank {queries : Catalog} {rest : String} (ending : LineEnd) (hrest : LaidOut queries rest) :
      LaidOut queries (ending.text ++ rest)
  | record {queries : Catalog} {rest : String} (query : RangeQuery) (ending : LineEnd)
      (hrest : LaidOut queries rest) :
      LaidOut (query :: queries) (query.render ++ ending.text ++ rest)
  | last (query : RangeQuery) : LaidOut [query] query.render

variable {queries : Catalog} {text : String}

/-- The runs of a layout are the records of its queries. -/
theorem runs_encode_of_laidOut (hlaid : LaidOut queries text)
    (hplain : ∀ query ∈ queries, query.Plain) :
    runs (Utf8.encode text) = queries.map fun query => Utf8.encode query.render := by
  induction hlaid with
  | nothing => rfl
  | @blank queries rest ending hrest ih =>
      obtain ⟨first, more, hending, hfirst, hmore⟩ := ending.exists_encode_text_eq
      have hblanks : ∀ b ∈ first :: more, isTerminator b = true :=
        List.forall_mem_cons.mpr ⟨hfirst, hmore⟩
      rw [Utf8.encode_append, hending, runs_append_of_terminators hblanks, ih hplain]
  | @record queries rest query ending hrest ih =>
      obtain ⟨hquery, hlater⟩ := List.forall_mem_cons.mp hplain
      obtain ⟨first, more, hending, hfirst, hmore⟩ := ending.exists_encode_text_eq
      rw [Utf8.encode_append, Utf8.encode_append, hending, List.append_assoc, List.cons_append,
        runs_run_append_cons hquery.isLine.run.1 hquery.isLine.run.2 hfirst,
        runs_append_of_terminators hmore, ih hlater, List.map_cons]
  | last query =>
      have hquery := (hplain query (List.mem_singleton_self query)).isLine.run
      rw [runs_eq_singleton hquery.1 hquery.2, List.map_singleton]

/-- A layout starts with a byte order mark only if the first pattern does. -/
theorem head?_of_laidOut (hlaid : LaidOut queries text)
    (hmark : text.toList.head? = some '\uFEFF') :
    ∃ query ∈ queries.head?, query.pattern.toList.head? = some '\uFEFF' := by
  have hrecord (query : RangeQuery) (rest : String)
      (h : (query.render ++ rest).toList.head? = some '\uFEFF') :
      query.pattern.toList.head? = some '\uFEFF' := by
    simp only [RangeQuery.render, String.toList_append, List.append_assoc, List.head?_append] at h
    cases hpattern : query.pattern.toList.head? with
    | none => simp [hpattern] at h
    | some c => simpa [hpattern] using h
  cases hlaid with
  | nothing => cases hmark
  | blank ending hrest => cases ending <;> simp [LineEnd.text] at hmark
  | record query ending hrest =>
      rw [String.append_assoc] at hmark
      exact ⟨query, rfl, hrecord query _ hmark⟩
  | last query => exact ⟨query, rfl, hrecord query "" (by simpa using hmark)⟩

/-- Queries are read back from every layout of them, if their patterns have no semicolons and no
line ends and the first pattern does not start with a byte order mark. -/
theorem read_of_laidOut (hlaid : LaidOut queries text) (hplain : ∀ query ∈ queries, query.Plain)
    (hmark : ∀ query ∈ queries.head?, query.pattern.toList.head? ≠ some '\uFEFF') :
    read (Utf8.encode text) = .ok queries := by
  have hstart : text.toList.head? ≠ some '\uFEFF' := fun hfirst =>
    have ⟨query, hquery, hpattern⟩ := head?_of_laidOut hlaid hfirst
    hmark query hquery hpattern
  rw [read_eq_ok_iff, withoutMark_encode hstart, runs_encode_of_laidOut hlaid hplain,
    List.forall₂_map_left_iff, List.forall₂_same]
  exact fun query hquery => (hplain query hquery).describes

/-- Blank lines, both limits of bounds, quotes, an empty pattern and an open end are read. -/
theorem read_of_laidOut_mixed :
    read (Utf8.encode "\r\n/a \"b\";-9223372036854775808;9223372036854775807\r\n;5;-4") =
      .ok [⟨"/a \"b\"", Int64.minValue, Int64.maxValue⟩, ⟨"", 5, -4⟩] := by
  obtain ⟨text, hlaid, htext⟩ : ∃ text,
      LaidOut [⟨"/a \"b\"", Int64.minValue, Int64.maxValue⟩, ⟨"", 5, -4⟩] text ∧
        text = "\r\n/a \"b\";-9223372036854775808;9223372036854775807\r\n;5;-4" :=
    ⟨_, .blank .both (.record _ .carriage (.blank .feed (.last _))), by decide +kernel⟩
  rw [← htext]
  exact read_of_laidOut hlaid (by decide) (by decide)

end Catalog
end IndexBench
