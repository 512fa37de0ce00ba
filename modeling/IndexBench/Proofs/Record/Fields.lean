import IndexBench.Proofs.Text.Encoding
import IndexBench.Record.Cursor

/-!
# The fields of a record

A record is cut at its semicolons, and its fields are read as text one by one, up to the
first that is none.  So a record has a row of texts for its fields exactly if it is the
encoding of these texts with semicolons between them.

Main results:

- Theorem `splitFields_eq_iff`: the fields of a record are those without semicolons that it
  is put together from.
- Theorems `RawRecord.decode_eq_ok_iff` and `RawRecord.decode_eq_error_iff`: the fields of a
  record are read as the texts that they encode, or the first that encodes none is named.
-/

namespace IndexBench

/-! ## Cutting records -/

/-- Fields are what stands between separators. -/
theorem splitFields_eq_splitOn (bytes : List UInt8) :
    splitFields bytes = bytes.splitOn fieldSeparator := by
  induction bytes with
  | nil => rfl
  | cons b rest ih =>
      have hcons : (b :: rest).splitOn fieldSeparator =
          if b = fieldSeparator then [] :: rest.splitOn fieldSeparator
          else (rest.splitOn fieldSeparator).modifyHead (List.cons b) := by
        simp only [List.splitOn, List.splitOnP_cons_eq_if_modifyHead, beq_iff_eq]
      rw [hcons, splitFields, ih]
      cases hrest : rest.splitOn fieldSeparator with
      | nil => exact absurd (ih.trans hrest) (splitFields_ne_nil rest)
      | cons field fields => rfl

/-- No field has a separator. -/
theorem separator_notMem_of_mem_splitFields {bytes field : List UInt8}
    (h : field ∈ splitFields bytes) : fieldSeparator ∉ field := by
  induction bytes generalizing field with
  | nil =>
      rw [splitFields, List.mem_singleton] at h
      rw [h]
      exact List.not_mem_nil
  | cons b rest ih =>
      rw [splitFields] at h
      split at h
      · rcases List.mem_cons.mp h with rfl | h
        · exact List.not_mem_nil
        · exact ih h
      · rename_i hb
        cases hrest : splitFields rest with
        | nil => exact absurd hrest (splitFields_ne_nil rest)
        | cons first fields =>
            rw [hrest] at h ih
            rcases List.mem_cons.mp h with rfl | h
            · rw [List.mem_cons, not_or]
              exact ⟨Ne.symm hb, ih List.mem_cons_self⟩
            · exact ih (List.mem_cons_of_mem _ h)

/-- The fields of a record are those without separators that it is put together from. -/
theorem splitFields_eq_iff {bytes : List UInt8} {fields : List (List UInt8)}
    (hfields : fields ≠ []) :
    splitFields bytes = fields ↔
      [fieldSeparator].intercalate fields = bytes ∧ ∀ field ∈ fields, fieldSeparator ∉ field := by
  constructor
  · rintro rfl
    exact ⟨intercalate_splitFields bytes, fun _ => separator_notMem_of_mem_splitFields⟩
  · rintro ⟨rfl, hseparators⟩
    rw [splitFields_eq_splitOn, List.splitOn_intercalate fieldSeparator hseparators hfields]

/-! ## Reading fields -/

/-- A semicolon occurs in a text if its byte does in the encoding. -/
theorem separator_mem_encode_iff {text : String} :
    fieldSeparator ∈ Utf8.encode text ↔ ';' ∈ text.toList :=
  Utf8.mem_encode_iff (by decide : ';'.toNat < 128)

/-- A record has three texts for its fields if it is put together from them and they have no
semicolons. -/
theorem splitFields_eq_three_iff {bytes : List UInt8} {a b c : String} :
    splitFields bytes = [a, b, c].map Utf8.encode ↔
      bytes = Utf8.encode (a ++ ";" ++ b ++ ";" ++ c) ∧
        ';' ∉ a.toList ∧ ';' ∉ b.toList ∧ ';' ∉ c.toList := by
  have hjoined : [fieldSeparator].intercalate ([a, b, c].map Utf8.encode) =
      Utf8.encode (a ++ ";" ++ b ++ ";" ++ c) := by
    have hseparator : Utf8.encode ";" = [fieldSeparator] := by decide
    simp [List.intercalate, hseparator]
  rw [splitFields_eq_iff (by simp), hjoined, eq_comm]
  simp [separator_mem_encode_iff]

namespace RawRecord

variable {record : RawRecord}

/-- Fields are read as texts exactly if they encode these. -/
theorem decodeFields_eq_ok_iff {i : Nat} {fields : List (List UInt8)} {texts : List String} :
    record.decodeFields i fields = .ok texts ↔ fields = texts.map Utf8.encode := by
  induction fields generalizing i texts with
  | nil =>
      rw [decodeFields, Except.ok.injEq]
      cases texts with
      | nil => simp
      | cons text texts => simp
  | cons field fields ih =>
      rw [decodeFields]
      cases hdecode : Utf8.decode field with
      | none =>
          have hnone := Utf8.decode_eq_none_iff.mp hdecode
          constructor
          · intro h
            cases h
          · intro h
            obtain ⟨text, texts, rfl, hfield, -⟩ := List.map_eq_cons_iff.mp h.symm
            exact absurd hfield (hnone text)
      | some text =>
          obtain rfl := Utf8.decode_eq_some_iff.mp hdecode
          cases texts with
          | nil => cases record.decodeFields (i + 1) fields <;> simp [Except.map]
          | cons first texts =>
              rw [List.map_cons, List.cons.injEq, Utf8.encode_inj, ← ih (i := i + 1)]
              cases record.decodeFields (i + 1) fields <;> simp [Except.map]

/-- Reading fields fails at the first that encodes no text. -/
theorem decodeFields_eq_error_iff {i : Nat} {fields : List (List UInt8)} {fault : RecordFault} :
    record.decodeFields i fields = .error fault ↔
      ∃ (texts : List String) (field : List UInt8) (rest : List (List UInt8)),
        fields = texts.map Utf8.encode ++ field :: rest ∧ (∀ text, Utf8.encode text ≠ field) ∧
          fault = .notText record.number record.line record.offset (i + texts.length)
            (Utf8.validLength field) := by
  induction fields generalizing i with
  | nil => simp [decodeFields]
  | cons field fields ih =>
      rw [decodeFields]
      cases hdecode : Utf8.decode field with
      | none =>
          have hnone := Utf8.decode_eq_none_iff.mp hdecode
          constructor
          · intro h
            cases h
            exact ⟨[], field, fields, rfl, hnone, rfl⟩
          · rintro ⟨texts, bad, rest, hfields, -, rfl⟩
            cases texts with
            | nil =>
                obtain ⟨rfl, -⟩ := List.cons.inj hfields
                rfl
            | cons text texts => exact absurd (List.cons.inj hfields).1.symm (hnone text)
      | some text =>
          obtain rfl := Utf8.decode_eq_some_iff.mp hdecode
          have hmap : (record.decodeFields (i + 1) fields).map (text :: ·) = .error fault ↔
              record.decodeFields (i + 1) fields = .error fault := by
            cases record.decodeFields (i + 1) fields <;> simp [Except.map]
          simp only [hmap, ih]
          constructor
          · rintro ⟨texts, bad, rest, rfl, hbad, rfl⟩
            refine ⟨text :: texts, bad, rest, rfl, hbad, ?_⟩
            rw [List.length_cons, Nat.add_assoc, Nat.add_comm 1]
          · rintro ⟨texts, bad, rest, hfields, hbad, rfl⟩
            cases texts with
            | nil => exact absurd (List.cons.inj hfields).1 (hbad text)
            | cons first texts =>
                refine ⟨texts, bad, rest, (List.cons.inj hfields).2, hbad, ?_⟩
                rw [List.length_cons, Nat.add_assoc, Nat.add_comm 1]

/-- A record is read as texts exactly if its fields encode these. -/
theorem decode_eq_ok_iff {texts : List String} :
    record.decode = .ok texts ↔ record.fields = texts.map Utf8.encode :=
  decodeFields_eq_ok_iff

/-- Reading a record fails at its first field that encodes no text. -/
theorem decode_eq_error_iff {fault : RecordFault} :
    record.decode = .error fault ↔
      ∃ (texts : List String) (field : List UInt8) (rest : List (List UInt8)),
        record.fields = texts.map Utf8.encode ++ field :: rest ∧
          (∀ text, Utf8.encode text ≠ field) ∧
          fault = .notText record.number record.line record.offset texts.length
            (Utf8.validLength field) := by
  rw [decode, decodeFields_eq_error_iff]
  simp only [Nat.zero_add]

end RawRecord
end IndexBench
