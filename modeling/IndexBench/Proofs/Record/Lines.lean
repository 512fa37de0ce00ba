import IndexBench.Proofs.Text.Encoding
import IndexBench.Proofs.Record.Runs

/-!
# Records on lines of their own

A text that has each record on a line of its own has exactly these records, if none of them
is empty or has a line end in it.

Main definitions:

- `Record.ofLines` is a text of lines, and `Record.IsLine` says what can be one.

Main results:

- Theorem `Record.runs_ofLines`: the runs of a text of lines are the lines.
- Theorem `Record.withoutMark_encode_append`: a text has a byte order mark at its start only if
  what stands before its first semicolon has.
-/

namespace IndexBench
namespace Record

/-- The text of lines, each ended by a line feed. -/
def ofLines : List String → String
  | [] => ""
  | line :: lines => line ++ "\n" ++ ofLines lines

/-- Whether a text can be a record: it is not empty and has no line end in it. -/
def IsLine (text : String) : Prop :=
  text ≠ "" ∧ '\n' ∉ text.toList ∧ '\r' ∉ text.toList

/-- The bytes of a line are a run. -/
theorem IsLine.run {line : String} (h : IsLine line) :
    Utf8.encode line ≠ [] ∧ ∀ b ∈ Utf8.encode line, isTerminator b = false := by
  obtain ⟨hne, hfeed, hreturn⟩ := h
  refine ⟨fun hnil => hne (Utf8.encode_inj.mp (hnil.trans Utf8.encode_empty.symm)),
    fun b hb => ?_⟩
  rw [isTerminator, Bool.or_eq_false_iff, beq_eq_false_iff_ne, beq_eq_false_iff_ne]
  constructor
  · rintro rfl
    exact hfeed ((Utf8.mem_encode_iff (by decide : '\n'.toNat < 128)).mp hb)
  · rintro rfl
    exact hreturn ((Utf8.mem_encode_iff (by decide : '\r'.toNat < 128)).mp hb)

/-- The runs of a text of lines are the lines. -/
theorem runs_ofLines {lines : List String} (h : ∀ line ∈ lines, IsLine line) :
    runs (Utf8.encode (ofLines lines)) = lines.map Utf8.encode := by
  induction lines with
  | nil => rfl
  | cons line lines ih =>
      obtain ⟨hline, hlines⟩ := List.forall_mem_cons.mp h
      have hbytes : Utf8.encode (ofLines (line :: lines)) =
          Utf8.encode line ++ lineFeed :: Utf8.encode (ofLines lines) := by
        rw [ofLines, Utf8.encode_append, Utf8.encode_append, List.append_assoc]
        rfl
      rw [hbytes, runs_run_append_cons hline.run.1 hline.run.2 rfl, ih hlines, List.map_cons]

/-- A text has a byte order mark at its start only if what stands before its first semicolon
has. -/
theorem withoutMark_encode_append {text rest : String}
    (h : ¬byteOrderMark <+: Utf8.encode text) :
    withoutMark (Utf8.encode (text ++ ";" ++ rest)) = Utf8.encode (text ++ ";" ++ rest) := by
  have hbytes : Utf8.encode (text ++ ";" ++ rest) =
      Utf8.encode text ++ fieldSeparator :: Utf8.encode rest := by
    rw [Utf8.encode_append, Utf8.encode_append, List.append_assoc]
    rfl
  refine if_neg fun hmark => h ?_
  have hstart := List.take_append_drop 3 (Utf8.encode (text ++ ";" ++ rest))
  rw [hmark, hbytes, List.append_eq_append_iff] at hstart
  rcases hstart with ⟨more, htext, -⟩ | ⟨more, hshort, hmore⟩
  · exact ⟨more, htext.symm⟩
  -- the semicolon is not in the mark, so nothing of the mark stands behind the text
  · cases more with
    | nil => exact ⟨[], by rw [hshort, List.append_nil, List.append_nil]⟩
    | cons b more =>
        obtain rfl := (List.cons.inj hmore).1
        have hmem : fieldSeparator ∈ byteOrderMark := by rw [hshort]; simp
        exact absurd hmem (by decide)

end Record
end IndexBench
