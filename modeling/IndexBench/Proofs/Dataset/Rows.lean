import IndexBench.Proofs.Catalog.Format
import IndexBench.Proofs.Dataset.Batches
import IndexBench.Proofs.Record.Lines

/-!
# The text of rows

Rows without semicolons and line ends in their texts can be written down, one record a line,
and are read back as they were.

Main definitions:

- `Row.render` is the record of a row, and `Dataset.render` the text of rows.
- `Row.Plain` says that a row can be written down.

Main results:

- Theorem `Dataset.readAs_render`: rows that are written down are read back.
-/

namespace IndexBench

/-! ## One row -/

namespace Row

/-- The text of a row, which is also its record in a dataset. -/
def render (row : Row) : String :=
  row.path ++ ";" ++ Integer.render row.value ++ ";" ++ row.revision

/-- Whether the path and the revision of a row have no semicolons and no line ends. -/
def Plain (row : Row) : Prop :=
  ∀ c ∈ row.path.toList ++ row.revision.toList, c ≠ ';' ∧ c ≠ '\n' ∧ c ≠ '\r'

instance (row : Row) : Decidable row.Plain :=
  List.decidableBAll (fun c => c ≠ ';' ∧ c ≠ '\n' ∧ c ≠ '\r')
    (row.path.toList ++ row.revision.toList)

variable {row : Row}

/-- What is no digit, no sign and no semicolon is in the record of a row only if it is in its
path or its revision. -/
theorem notMem_render {c : Char} (hnumber : ¬(c.isDigit = true ∨ c = '+' ∨ c = '-'))
    (hseparator : c ≠ ';') (hpath : c ∉ row.path.toList) (hrevision : c ∉ row.revision.toList) :
    c ∉ row.render.toList := by
  have hsemicolon : c ∉ ";".toList := by simpa using hseparator
  simp only [render, String.toList_append, List.mem_append, not_or]
  exact ⟨⟨⟨⟨hpath, hsemicolon⟩, mt Integer.isDigit_or_sign_of_mem_render hnumber⟩, hsemicolon⟩,
    hrevision⟩

/-- The record of a row is a line. -/
theorem Plain.isLine (h : row.Plain) : Record.IsLine row.render := by
  refine ⟨fun hempty => ?_,
    notMem_render (by decide) (by decide) (fun hc => (h _ (List.mem_append_left _ hc)).2.1 rfl)
      fun hc => (h _ (List.mem_append_right _ hc)).2.1 rfl,
    notMem_render (by decide) (by decide) (fun hc => (h _ (List.mem_append_left _ hc)).2.2 rfl)
      fun hc => (h _ (List.mem_append_right _ hc)).2.2 rfl⟩
  have hlength := congrArg (fun text => text.toList.length) hempty
  simp [render] at hlength

/-- The fields of the record of a row are its path, its value and its revision. -/
theorem Plain.splitFields_encode (h : row.Plain) :
    splitFields (Utf8.encode row.render) =
      [row.path, Integer.render row.value, row.revision].map Utf8.encode :=
  splitFields_eq_three_iff.mpr ⟨rfl, fun hc => (h _ (List.mem_append_left _ hc)).1 rfl,
    fun hc => absurd (Integer.isDigit_or_sign_of_mem_render hc) (by decide),
    fun hc => (h _ (List.mem_append_right _ hc)).1 rfl⟩

/-- A record of a path, a number and a revision is read as their row. -/
theorem ofRecord_of_fields {record : RawRecord}
    (h : record.fields = [row.path, Integer.render row.value, row.revision].map Utf8.encode) :
    ofRecord record = .ok row := by
  rw [ofRecord, RawRecord.decode_eq_ok_iff.mpr h]
  simp only [readNumber, Integer.parse_render]
  rfl

end Row

/-! ## All rows -/

namespace Dataset

/-- The text of rows, one record a line. -/
def render (rows : List Row) : String :=
  Record.ofLines (rows.map Row.render)

/-- Rows that are written down are read back, if the first path does not start like a byte
order mark. -/
theorem readAs_render {rows : List Row} (hplain : ∀ row ∈ rows, row.Plain)
    (hmark : ∀ row ∈ rows.head?, ¬byteOrderMark <+: Utf8.encode row.path) :
    ReadAs (Cursor.ofBytes (Utf8.encode (render rows))).records rows := by
  have hbody : Record.withoutMark (Utf8.encode (render rows)) = Utf8.encode (render rows) := by
    cases rows with
    | nil => rfl
    | cons row rows =>
        have hrendered : render (row :: rows) = row.path ++ ";" ++
            (Integer.render row.value ++ ";" ++ row.revision ++ "\n" ++ render rows) := by
          simp only [render, List.map_cons, Record.ofLines, Row.render, String.append_assoc]
        rw [hrendered]
        exact Record.withoutMark_encode_append (hmark row rfl)
  have hlines : ∀ line ∈ rows.map Row.render, Record.IsLine line := by
    intro line hline
    obtain ⟨row, hrow, rfl⟩ := List.mem_map.mp hline
    exact (hplain row hrow).isLine
  have hfields : (Cursor.ofBytes (Utf8.encode (render rows))).records.map RawRecord.fields =
      rows.map fun row =>
        [row.path, Integer.render row.value, row.revision].map Utf8.encode := by
    rw [Cursor.map_fields_records, Cursor.body_ofBytes, hbody, render, Record.runs_ofLines hlines,
      List.map_map, List.map_map]
    exact List.map_congr_left fun row hrow => (hplain row hrow).splitFields_encode
  have hrecords : List.Forall₂ (fun fields (row : Row) =>
      fields = [row.path, Integer.render row.value, row.revision].map Utf8.encode)
      ((Cursor.ofBytes (Utf8.encode (render rows))).records.map RawRecord.fields) rows := by
    rw [hfields, List.forall₂_map_left_iff, List.forall₂_same]
    exact fun _ _ => rfl
  exact (List.forall₂_map_left_iff.mp hrecords).imp fun _ _ => Row.ofRecord_of_fields

end Dataset
end IndexBench
