import IndexBench.Proofs.Regex.Language
import IndexBench.Regex.Size

/-!
# Reading patterns piece by piece

A reader takes a pattern apart in steps, each of which consumes what it reads.
This module follows the steps over the pieces of a pattern, whatever stands
around them, and says which expression a row of pieces becomes.

Main definitions:

- `Reader.Reaches` says that a reader goes from one state to another over the
  start of a pattern.
- `Reader.addAll` is a reader after it has read a row of pieces.
- `inRow` is the expression of pieces in a row.

Main results:

- Theorem `parsePart_of_reaches`: a pattern whose pieces are read one after the
  other reads as these pieces in a row.
- Theorem `compile_of_parse`: a pattern that can be read is accepted unless it is
  too large.
-/

namespace IndexBench
namespace Regex

/-! ## Expressions in a row -/

/-- The expression of others in a row, with the last one apart. -/
def inRow (regexes : List Regex) (last : Regex) : Regex :=
  regexes.foldr seq last

/-- A row has its bounds in order if its members do. -/
theorem ordered_inRow {regexes : List Regex} {last : Regex}
    (h : ∀ regex ∈ regexes, regex.Ordered) (hlast : last.Ordered) :
    (inRow regexes last).Ordered := by
  induction regexes with
  | nil => exact hlast
  | cons regex regexes ih =>
      exact ⟨h regex (List.mem_cons_self ..), ih fun other hother => h other (.tail _ hother)⟩

/-- A set describes the one character that it has. -/
theorem describes_single_iff (c : Char) (before piece after : List Char) :
    (chars (.single c)).Describes before piece after ↔ piece = [c] := by
  have hsingle (d : Char) : (CharSet.single c).contains d = true ↔ d = c := by
    simp only [CharSet.contains, CharSet.single, CharSet.has, Bool.and_eq_true, decide_eq_true_eq]
    rw [← Char.toNat_inj]
    omega
  simp only [Describes, hsingle]
  constructor
  · rintro ⟨d, rfl, rfl⟩
    rfl
  · intro h
    exact ⟨c, h, rfl⟩

/-- A set taken a number of times describes as many of its characters. -/
theorem times_chars_iff (set : CharSet) (n : Nat) (before piece after : List Char) :
    Times (chars set).Describes n before piece after ↔
      piece.length = n ∧ ∀ c ∈ piece, set.contains c = true := by
  induction n generalizing before piece with
  | zero => simp +contextual [Times]
  | succ n ih =>
      constructor
      · rintro ⟨first, rest, rfl, ⟨c, rfl, hc⟩, hrest⟩
        obtain ⟨hlength, hall⟩ := (ih _ _).mp hrest
        exact ⟨by simp [hlength], by simpa [hc] using hall⟩
      · rintro ⟨hlength, hall⟩
        obtain ⟨c, rest, rfl⟩ := List.exists_cons_of_length_eq_add_one hlength
        rw [List.forall_mem_cons] at hall
        exact ⟨[c], rest, rfl, ⟨c, rfl, hall.1⟩, (ih _ _).mpr ⟨Nat.succ.inj hlength, hall.2⟩⟩

/-- A set repeated without bounds describes any row of its characters. -/
theorem describes_star_iff (set : CharSet) (before piece after : List Char) :
    (rep (chars set) 0 none).Describes before piece after ↔
      ∀ c ∈ piece, set.contains c = true := by
  constructor
  · rintro ⟨n, -, -, htimes⟩
    exact ((times_chars_iff set n before piece after).mp htimes).2
  · intro hall
    exact ⟨piece.length, Nat.zero_le _, by simp, (times_chars_iff ..).mpr ⟨rfl, hall⟩⟩

/-- An optional expression describes nothing, too. -/
theorem describes_option_iff (regex : Regex) (before piece after : List Char) :
    (rep regex 0 (some 1)).Describes before piece after ↔
      piece = [] ∨ regex.Describes before piece after := by
  constructor
  · rintro ⟨n, -, hn, htimes⟩
    rcases Nat.le_one_iff_eq_zero_or_eq_one.mp (hn 1 rfl) with rfl | rfl
    · exact .inl htimes
    · obtain ⟨first, rest, rfl, hfirst, rfl⟩ := htimes
      exact .inr (by simpa using hfirst)
  · rintro (rfl | h)
    · exact ⟨0, le_rfl, by simp, rfl⟩
    · exact ⟨1, Nat.zero_le _, by simp, piece, [], by simp, by simpa using h, rfl⟩

/-! ## Pieces in a row -/

namespace Part

/-- A row of pieces is at most one level deeper than its members. -/
theorem depth_sequence_le {parts : List Part} {bound : Nat}
    (h : ∀ part ∈ parts, part.depth < bound) : (sequence parts).depth ≤ bound := by
  have hmax : ∀ (depths : List Nat) (start : Nat), start < bound →
      (∀ depth ∈ depths, depth < bound) → depths.foldl max start < bound := by
    intro depths
    induction depths with
    | nil =>
        intro start hstart _
        exact hstart
    | cons depth depths ih =>
        intro start hstart hall
        rw [List.forall_mem_cons] at hall
        exact ih _ (Nat.max_lt.mpr ⟨hstart, hall.1⟩) hall.2
  match parts with
  | [] => exact Nat.zero_le _
  | [part] => exact Nat.le_of_lt (h part (List.mem_singleton_self part))
  | part :: other :: parts =>
      have hpart : part.depth < bound := h part (List.mem_cons_self ..)
      have hall : ∀ depth ∈ (part :: other :: parts).map Part.depth, depth < bound := by
        intro depth hdepth
        obtain ⟨member, hmember, rfl⟩ := List.mem_map.mp hdepth
        exact h member hmember
      exact hmax _ 0 (by omega) hall

/-- Two or more pieces in a row describe what their expressions do in a row. -/
theorem regex_sequence (first : Part) (parts : List Part) (last : Part) :
    (sequence (first :: parts ++ [last]).reverse).regex =
      inRow ((first :: parts).map Part.regex) last.regex := by
  obtain ⟨before, others, hreverse⟩ :
      ∃ before others, (first :: parts).reverse = before :: others := by
    cases hcases : (first :: parts).reverse with
    | nil => simp at hcases
    | cons before others => exact ⟨before, others, rfl⟩
  have hrow : (first :: parts).map Part.regex = (before :: others).reverse.map Part.regex := by
    rw [← hreverse, List.reverse_reverse]
  have hsequence : (sequence (last :: before :: others)).regex =
      (before :: others).foldl (fun regex before => .seq before.regex regex) last.regex := rfl
  rw [List.reverse_append, List.reverse_singleton, List.singleton_append, hreverse, hsequence,
    hrow, inRow, List.foldr_map, List.foldr_reverse]

end Part

/-! ## Steps of a reader -/

/-- The characters that the notation uses; all others stand for themselves. -/
def signs : List Char :=
  ['\\', '.', '+', '?', '(', ')', '|', '[', ']', '\x7b', '\x7d', '^', '$', '*']

/-- Whether a character stands for itself in a pattern. -/
def isLiteral (c : Char) : Bool :=
  !signs.contains c

namespace Reader

/-- Whether a reader goes from one state to another over the start of a pattern.
No step gives back what it has read. -/
inductive Reaches : Reader → List Char → Reader → List Char → Prop where
  | refl (reader : Reader) (cs : List Char) : Reaches reader cs reader cs
  | step {reader next final : Reader} {c : Char} {rest others last : List Char}
      (hskip : reader.flags.extended = false) (hstep : reader.step c rest = .ok (next, others))
      (hshort : others.length ≤ rest.length) (hrest : Reaches next others final last) :
      Reaches reader (c :: rest) final last

namespace Reaches

/-- One step alone. -/
theorem single {reader next : Reader} {c : Char} {rest others : List Char}
    (hskip : reader.flags.extended = false) (hstep : reader.step c rest = .ok (next, others))
    (hshort : others.length ≤ rest.length) : Reaches reader (c :: rest) next others :=
  .step hskip hstep hshort (.refl next others)

/-- A reader that goes on goes all the way. -/
theorem trans {first middle final : Reader} {cs ds es : List Char}
    (h : Reaches first cs middle ds) (hnext : Reaches middle ds final es) :
    Reaches first cs final es := by
  induction h with
  | refl => exact hnext
  | step hskip hstep hshort _ ih => exact .step hskip hstep hshort (ih hnext)

/-- A reader that reaches the end of a pattern reads all of it. -/
theorem readAll_eq {reader final : Reader} {cs : List Char} (h : Reaches reader cs final [])
    {fuel : Nat} (hfuel : cs.length ≤ fuel) : reader.readAll fuel cs = .ok final := by
  generalize hlast : ([] : List Char) = last at h
  induction h generalizing fuel with
  | refl reader cs =>
      subst hlast
      have hnothing : reader.flags.skip [] = [] := by
        unfold Flags.skip Flags.skipBlanks
        split <;> rfl
      unfold readAll
      rw [hnothing]
  | @step reader next final c rest others last hskip hstep hshort _ ih =>
      obtain ⟨fuel, rfl⟩ : ∃ n, fuel = n + 1 := by
        rw [List.length_cons] at hfuel
        exact ⟨fuel - 1, by omega⟩
      have hkeep : reader.flags.skip (c :: rest) = c :: rest := by
        rw [Flags.skip, hskip]
        rfl
      rw [List.length_cons] at hfuel
      unfold readAll
      rw [hkeep]
      simp only [hstep, bind, Except.bind]
      exact ih (by omega) hlast

end Reaches

/-- A reader after a row of pieces. -/
def addAll (reader : Reader) (parts : List Part) : Reader :=
  parts.foldl add reader

@[simp]
theorem addAll_nil (reader : Reader) : reader.addAll [] = reader :=
  rfl

@[simp]
theorem addAll_cons (reader : Reader) (part : Part) (parts : List Part) :
    reader.addAll (part :: parts) = (reader.add part).addAll parts :=
  rfl

/-- Rows of pieces are read one after the other. -/
theorem addAll_append (reader : Reader) (parts others : List Part) :
    reader.addAll (parts ++ others) = (reader.addAll parts).addAll others :=
  List.foldl_append ..

/-- A reader keeps the pieces of a row, last one first, and nothing else. -/
theorem addAll_eq (reader : Reader) (parts : List Part) :
    reader.addAll parts =
      { reader with
        group := { reader.group with parts := parts.reverse ++ reader.group.parts } } := by
  induction parts generalizing reader with
  | nil => rfl
  | cons part parts ih => simp [ih, add, Group.add]

/-- Pieces do not change the flags. -/
@[simp]
theorem flags_addAll (reader : Reader) (parts : List Part) :
    (reader.addAll parts).flags = reader.flags := by
  rw [addAll_eq]

/-- Pieces do not change the flags. -/
@[simp]
theorem flags_add (reader : Reader) (part : Part) : (reader.add part).flags = reader.flags :=
  rfl

/-! ## Single pieces -/

section Initial

variable {reader : Reader} (hflags : reader.flags = .initial)

include hflags

/-- A character that stands for itself is read as itself. -/
theorem reaches_literal {c : Char} (hc : isLiteral c = true) (rest : List Char) :
    Reaches reader (c :: rest) (reader.add (.chars .initial (.single c) 0)) rest := by
  refine .single (by rw [hflags]; rfl) ?_ le_rfl
  unfold step
  rw [hflags]
  split
  all_goals first | (exfalso; revert hc; decide) | rfl

/-- A caret at the start is read as the start of the text. -/
theorem reaches_caret (rest : List Char) :
    Reaches reader ('^' :: rest) (reader.add (.boundary .textStart)) rest :=
  .single (by rw [hflags]; rfl) (by rw [step, hflags]; rfl) le_rfl

/-- A dollar sign is read as the end of the text. -/
theorem reaches_dollar (rest : List Char) :
    Reaches reader ('$' :: rest) (reader.add (.boundary .textEnd)) rest :=
  .single (by rw [hflags]; rfl) (by rw [step, hflags]; rfl) le_rfl

/-- A dot is read as any character but a line feed. -/
theorem reaches_dot (rest : List Char) :
    Reaches reader ('.' :: rest)
      (reader.add (.chars .initial (.complement (.single '\n')) 0)) rest :=
  .single (by rw [hflags]; rfl) (by rw [step, hflags]; rfl) le_rfl

/-- A repetition goes onto the piece before it and is greedy, unless a question
mark follows. -/
theorem repeatLast_add {part : Part} (hpart : part.repeatable = true) (min : Nat)
    (max : Option Nat) {rest : List Char} (hrest : rest.head? ≠ some '?') :
    (reader.add part).repeatLast min max rest =
      .ok (reader.add (part.repeated min max true), rest) := by
  have hlast : (reader.add part).group.parts = part :: reader.group.parts := rfl
  have hgreedy : (reader.add part).flags.swapped = false := by
    rw [flags_add, hflags]
    rfl
  unfold repeatLast
  rw [hlast]
  split
  rename_i isLazy others hlazy
  split at hlazy
  · exact absurd rfl hrest
  · cases hlazy
    simp only [hpart, if_true, hgreedy]
    rfl

/-- A star is read onto the piece before it, unless a question mark follows. -/
theorem reaches_star {part : Part} (hpart : part.repeatable = true) {rest : List Char}
    (hrest : rest.head? ≠ some '?') :
    Reaches (reader.add part) ('*' :: rest) (reader.add (part.repeated 0 none true)) rest :=
  .single (by rw [flags_add, hflags]; rfl) (repeatLast_add hflags hpart 0 none hrest) le_rfl

/-- A question mark is read onto the piece before it, unless another one
follows. -/
theorem reaches_question {part : Part} (hpart : part.repeatable = true) {rest : List Char}
    (hrest : rest.head? ≠ some '?') :
    Reaches (reader.add part) ('?' :: rest) (reader.add (part.repeated 0 (some 1) true)) rest :=
  .single (by rw [flags_add, hflags]; rfl) (repeatLast_add hflags hpart 0 (some 1) hrest) le_rfl

/-- A parenthesis with no question mark after it opens a group. -/
theorem reaches_open {rest : List Char} (hrest : rest.head? ≠ some '?') :
    Reaches reader ('(' :: rest) (reader.openGroup true) rest := by
  refine .single (by rw [hflags]; rfl) ?_ le_rfl
  have hskip : reader.flags.skip rest = rest := by rw [hflags]; rfl
  simp only [step, readGroup, hskip]
  split
  all_goals first | (exact absurd rfl hrest) | rfl

/-- A closing parenthesis ends a group, whose pieces become one. -/
theorem reaches_close (parts : List Part) (rest : List Char) :
    Reaches ((reader.openGroup true).addAll parts) (')' :: rest)
      (reader.add ((Part.sequence parts.reverse).grouped true)) rest := by
  refine .single (by rw [flags_addAll, openGroup, hflags]; rfl) ?_ le_rfl
  rw [addAll_eq]
  simp [step, closeGroup, openGroup, Group.opened, Group.close, Part.alternatives, add, bind,
    Except.bind, pure, Except.pure]

/-- A bracket with a caret and a slash is read as any character but a slash. -/
theorem reaches_bracket (rest : List Char) :
    Reaches reader ('[' :: '^' :: '/' :: ']' :: rest)
      (reader.add (.chars .initial (.complement (.single '/')) 1)) rest :=
  .single (by rw [hflags]; rfl) (by rw [step, hflags]; rfl) (by simp only [List.length_cons]; omega)

end Initial

/-! ## Whole patterns -/

/-- A reader that has added pieces at the start of a pattern ends with these
pieces in a row. -/
theorem finish_addAll (parts : List Part) (h : ∀ part ∈ parts, part.depth < maxDepth) :
    (start.addAll parts).finish = .ok (.sequence parts.reverse) := by
  have hclose : (start.addAll parts).group.close = .sequence parts.reverse := by
    simp [addAll_eq, start, Group.opened, Group.close, Part.alternatives]
  have houter : (start.addAll parts).outer = [] := by
    rw [addAll_eq]
    rfl
  rw [finish, houter]
  simp only [hclose]
  exact if_pos (Part.depth_sequence_le fun part hpart => h part (List.mem_reverse.mp hpart))

end Reader

/-- A pattern whose pieces are read one after the other reads as these pieces in
a row. -/
theorem parsePart_of_reaches {pattern : String} {parts : List Part}
    (h : Reader.Reaches .start pattern.toList (Reader.start.addAll parts) [])
    (hdepth : ∀ part ∈ parts, part.depth < Reader.maxDepth) :
    parsePart pattern = .ok (.sequence parts.reverse) := by
  rw [parsePart]
  simp only [h.readAll_eq le_rfl, bind, Except.bind]
  exact Reader.finish_addAll parts hdepth

/-- A pattern that can be read is accepted unless it is too large. -/
theorem compile_of_parse {pattern : String} {regex : Regex} (h : parse pattern = .ok regex) :
    compile pattern = .ok regex ∨ compile pattern = .error (.tooLarge Room.limit) := by
  unfold parse at h
  unfold compile
  cases hpart : parsePart pattern with
  | error fault =>
      rw [hpart] at h
      cases h
  | ok part =>
      rw [hpart] at h
      cases h
      by_cases hfits : part.shape.fits = true
      · exact .inl (if_pos hfits)
      · exact .inr (if_neg hfits)

end Regex
end IndexBench
