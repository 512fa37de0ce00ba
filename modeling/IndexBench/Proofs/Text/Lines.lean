import IndexBench.Text.Fixed
import IndexBench.Text.Split

/-!
# Lines of text

A report is a row of lines, each with its end, and its numbers are decimal.  As long as
no line contains a line end, the lines are found again in the text, and so are the
numbers.

Main definitions:

- `Text.ofLines` is the text of lines, and `Text.lines` reads them back.
- `Natural.value?` reads a number of any size.

Main results:

- Theorem `Text.lines_ofLines`: lines read back as they were written.
- Theorem `Natural.value?_render`: numbers read back as they were written.
- Theorem `Fixed.newline_notMem_render`: a fraction takes no line end.
-/

namespace IndexBench

/-! ## Splitting -/

namespace Text

/-- A text without the separator is its only part. -/
theorem splitOn_of_notMem {separator : Char} {cs : List Char} (h : separator ∉ cs) :
    splitOn separator cs = [cs] := by
  induction cs with
  | nil => rfl
  | cons c cs ih =>
      obtain ⟨hc, hcs⟩ := not_or.mp (mt List.mem_cons.mpr h)
      rw [splitOn, if_neg (Ne.symm hc), ih hcs]

/-- What stands before the first separator is the first part. -/
theorem splitOn_append_cons {separator : Char} {cs : List Char} (h : separator ∉ cs)
    (rest : List Char) :
    splitOn separator (cs ++ separator :: rest) = cs :: splitOn separator rest := by
  induction cs with
  | nil => rw [List.nil_append, splitOn, if_pos rfl]
  | cons c cs ih =>
      obtain ⟨hc, hcs⟩ := not_or.mp (mt List.mem_cons.mpr h)
      rw [List.cons_append, splitOn, if_neg (Ne.symm hc), ih hcs]

/-- The lines of a text: what stands between its line ends. -/
def lines (text : String) : List String :=
  (splitOn '\n' text.toList).map String.ofList

/-- The text of lines, each with its end. -/
def ofLines (lines : List String) : String :=
  String.join (lines.map (· ++ "\n"))

/-- The first line stands first. -/
theorem ofLines_cons (line : String) (lines : List String) :
    ofLines (line :: lines) = line ++ "\n" ++ ofLines lines := by
  rw [ofLines, List.map_cons, String.join_cons]
  rfl

/-- Lines in a row stand one after the other. -/
theorem ofLines_append (lines others : List String) :
    ofLines (lines ++ others) = ofLines lines ++ ofLines others := by
  rw [ofLines, List.map_append, String.join_append]
  rfl

/-- Lines read back as they were written, with nothing after the last line end. -/
theorem lines_ofLines {lines : List String} (h : ∀ line ∈ lines, '\n' ∉ line.toList) :
    Text.lines (ofLines lines) = lines ++ [""] := by
  induction lines with
  | nil => rfl
  | cons line lines ih =>
      obtain ⟨hline, hlines⟩ := List.forall_mem_cons.mp h
      have htext : (ofLines (line :: lines)).toList =
          line.toList ++ '\n' :: (ofLines lines).toList := by
        simp [ofLines_cons]
      rw [Text.lines, htext, splitOn_append_cons hline, List.map_cons, String.ofList_toList,
        List.cons_append]
      exact congrArg (List.cons line) (ih hlines)

end Text

/-! ## Numbers -/

namespace Natural

/-- Reads digits onto `acc`. -/
def readFrom? : Nat → List Char → Option Nat
  | acc, [] => some acc
  | acc, c :: rest => do
      let d ← digit? c
      readFrom? (acc * 10 + d) rest

/-- Reads a decimal number of any size. -/
def value? (text : String) : Option Nat :=
  if text = "" then none else readFrom? 0 text.toList

/-- Digits are read in pieces as they are read in one. -/
theorem readFrom?_append (acc : Nat) (xs ys : List Char) :
    readFrom? acc (xs ++ ys) = (readFrom? acc xs).bind fun n => readFrom? n ys := by
  induction xs generalizing acc with
  | nil => rfl
  | cons c xs ih =>
      rw [List.cons_append, readFrom?, readFrom?]
      cases digit? c with
      | none => rfl
      | some d => exact ih _

/-- The digits of a number read as that number. -/
theorem readFrom?_digits (n : Nat) : readFrom? 0 (digits n) = some n := by
  induction n using digits.induct with
  | case1 n hn =>
      unfold digits
      rw [if_pos hn, readFrom?, digit?_digitChar hn]
      simp [readFrom?]
  | case2 n hn ih =>
      have hsum : n / 10 * 10 + n % 10 = n := Nat.div_add_mod' n 10
      unfold digits
      rw [if_neg hn, readFrom?_append, ih, Option.bind_some, readFrom?,
        digit?_digitChar (Nat.mod_lt n (by decide))]
      simp [readFrom?, hsum]

/-- The text of a number reads as that number. -/
@[simp]
theorem value?_render (n : Nat) : value? (render n) = some n := by
  have hne : render n ≠ "" := fun h =>
    digits_ne_nil n (by simpa [render] using congrArg String.toList h)
  rw [value?, if_neg hne, render, String.toList_ofList, readFrom?_digits]

/-- The text of a number contains digits only. -/
theorem notMem_render {c : Char} (h : digit? c = none) (n : Nat) : c ∉ (render n).toList := by
  intro hmem
  rw [render, String.toList_ofList] at hmem
  have hdigit := isSome_digit?_of_mem_digits hmem
  rw [h] at hdigit
  cases hdigit

end Natural

/-! ## Fractions -/

namespace Fixed

/-- The text of a fraction contains no line end. -/
theorem newline_notMem_render (places : Nat) (value : Float) :
    '\n' ∉ (render places value).toList := by
  have hdigits (n : Nat) : '\n' ∉ Natural.digits n := fun hmem =>
    absurd (Natural.isSome_digit?_of_mem_digits hmem) (by decide)
  have hpoint (units : Nat) : '\n' ∉ point places units := by
    simp [point, padded, hdigits]
  unfold render
  split
  · rename_i negative magnitude exponent _
    cases negative
    · simpa using hpoint _
    · simpa using hpoint _
  · rename_i negative _
    cases negative <;> decide
  · decide

end Fixed
end IndexBench
