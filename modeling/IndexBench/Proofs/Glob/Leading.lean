import IndexBench.Proofs.Glob.Meaning
import IndexBench.Proofs.Glob.Scan

/-!
# Label wildcards that come first

A label wildcard is lowered together with the character before it.  One that comes first has
none, so its star stays and goes onto the start anchor.  An anchor that may be left out does not
hold: the matcher accepts every path that ends with the rest of the glob, whatever stands before,
while the wildcard covers a run inside one segment.

Main definitions:

- `released` is the expression of a row of characters behind a repeated start anchor.

Main results:

- Theorem `compile_leading`: the matcher of a glob that starts with a label wildcard.
- Theorem `describes_released_iff`: the expression describes its characters wherever the text
  ends with them.
- Theorem `isMatch_leading_iff`: which paths such a glob matches, and which its tokens cover.
-/

namespace IndexBench
namespace Glob

open Regex

/-! ## The matcher -/

/-- A character that stands for itself is no star. -/
theorem star_notMem_of_literals {rest : List Char} (h : ∀ c ∈ rest, isLiteral c = true) :
    '*' ∉ rest := by
  intro hstar
  exact absurd (h '*' hstar) (by decide)

/-- The star that comes first is the only one, and no rule changes it. -/
theorem compile_leading {rest : String} (h : ∀ c ∈ rest.toList, isLiteral c = true) :
    compile ("*" ++ rest) = String.ofList ('^' :: '*' :: (rest.toList ++ ['$'])) := by
  have hstar := star_notMem_of_literals h
  have hhead : rest.toList.head? ≠ some '*' := fun hhead => hstar (List.mem_of_head? hhead)
  have hsegments : expandSegments ('*' :: rest.toList) = '*' :: rest.toList := by
    rw [expandSegments, expandSegments_eq_self hstar]
    rintro tail _ hrest
    exact hhead (by rw [hrest]; rfl)
  have hruns : expandRuns ('*' :: rest.toList) = '*' :: rest.toList := by
    rw [expandRuns_cons (.inr hhead), expandRuns_eq_self hstar]
  have hlabel : expandLabel ('*' :: rest.toList) = '*' :: rest.toList := by
    rw [expandLabel_cons (.inr hhead), expandLabel_eq_self hstar]
  have hglob : ("*" ++ rest).toList = '*' :: rest.toList := by
    rw [String.toList_append]
    rfl
  rw [compile, compileChars, hglob, hsegments, hruns, hlabel]
  rfl

/-- The tokens of such a glob are the label wildcard and the characters behind it. -/
theorem tokens_leading {rest : List Char} (h : ∀ c ∈ rest, isLiteral c = true) :
    tokens ('*' :: rest) = .label :: rest.map Token.literal := by
  have hpieces : ∀ cs : List Char, '*' ∉ cs → pieces cs = cs.map Piece.plain := by
    intro cs hcs
    induction cs with
    | nil => rfl
    | cons c cs ih =>
        rw [List.mem_cons, not_or] at hcs
        rw [pieces, if_neg (Ne.symm hcs.1), ih hcs.2, List.map_cons]
  have hscan : ∀ cs : List Char, scan (cs.map Piece.plain) = cs.map Token.literal := by
    intro cs
    induction cs with
    | nil => rfl
    | cons c cs ih => rw [List.map_cons, scan, ih, List.map_cons]
  have hstar := star_notMem_of_literals h
  rw [tokens_eq_scan, pieces, if_pos rfl, hpieces rest hstar]
  cases rest with
  | nil => rfl
  | cons c rest =>
      have hone : ¬(2 ≤ 1 ∧ c = '/') := fun hboth => absurd hboth.1 (by decide)
      rw [List.map_cons, prependStar, scan, if_neg hone, hscan]
      · rfl
      · simp

/-! ## The expression -/

/-- A row of characters covers itself only. -/
theorem covers_literals_iff (cs path : List Char) :
    Covers (cs.map Token.literal) path ↔ path = cs := by
  induction cs generalizing path with
  | nil => rfl
  | cons c cs ih =>
      constructor
      · rintro ⟨piece, rest, rfl, rfl, hrest⟩
        rw [(ih rest).mp hrest]
        rfl
      · rintro rfl
        exact ⟨[c], cs, rfl, rfl, (ih cs).mpr rfl⟩

/-- The piece that a star makes of the start anchor. -/
def looseStart : Part :=
  (Part.boundary .textStart).repeated 0 none true

/-- The expression of a row of characters behind a repeated start anchor. -/
def released (cs : List Char) : Regex :=
  inRow (looseStart.regex :: cs.map fun c => (Token.literal c).part.regex) (.boundary .textEnd)

/-- An anchor, however often it is repeated, describes nothing but the empty text. -/
theorem eq_nil_of_times_boundary {condition : Boundary} {n : Nat} {before piece after : List Char}
    (h : Times (boundary condition).Describes n before piece after) : piece = [] := by
  induction n generalizing before piece with
  | zero => exact h
  | succ n ih =>
      obtain ⟨first, rest, rfl, ⟨rfl, -⟩, hrest⟩ := h
      rw [ih hrest]
      rfl

/-- A start anchor that is repeated without bounds describes the empty text everywhere, since
it need not be there at all. -/
theorem describes_looseStart_iff (before piece after : List Char) :
    looseStart.regex.Describes before piece after ↔ piece = [] := by
  constructor
  · rintro ⟨n, -, -, htimes⟩
    exact eq_nil_of_times_boundary htimes
  · rintro rfl
    exact ⟨0, le_rfl, by simp, rfl⟩

/-- The expression describes its characters wherever the text ends with them. -/
theorem describes_released_iff (cs before piece after : List Char) :
    (released cs).Describes before piece after ↔ piece = cs ∧ after = [] := by
  have hrow := describes_inRow_iff (cs.map Token.literal)
  simp only [List.map_map, covers_literals_iff] at hrow
  constructor
  · rintro ⟨first, rest, rfl, hfirst, hrest⟩
    obtain rfl := (describes_looseStart_iff before first _).mp hfirst
    exact (hrow _ _ _).mp hrest
  · rintro ⟨rfl, rfl⟩
    refine ⟨[], piece, rfl, (describes_looseStart_iff before [] _).mpr rfl, ?_⟩
    exact (hrow _ _ _).mpr ⟨rfl, rfl⟩

/-- The bounds in the expression are in order. -/
theorem ordered_released (cs : List Char) : (released cs).Ordered := by
  refine ordered_inRow (fun regex hregex => ?_) trivial
  rcases List.mem_cons.mp hregex with rfl | hregex
  · simp [looseStart, Part.repeated, Part.boundary, Ordered]
  · obtain ⟨c, -, rfl⟩ := List.mem_map.mp hregex
    exact ordered_part (.literal c)

/-- The matcher of a glob that starts with a label wildcard is read as this expression. -/
theorem parse_leading {rest : String} (h : ∀ c ∈ rest.toList, isLiteral c = true) :
    parse (compile ("*" ++ rest)) = .ok (released rest.toList) := by
  let parts := (rest.toList.map Token.literal).map Token.part
  have hreadable : ∀ token ∈ rest.toList.map Token.literal, token.isReadable = true := by
    intro token htoken
    obtain ⟨c, hc, rfl⟩ := List.mem_map.mp htoken
    exact h c hc
  have hliterals : (rest.toList.map Token.literal).flatMap Token.matcher = rest.toList := by
    rw [List.flatMap_map]
    exact List.flatMap_singleton' rest.toList
  have hend : ['$'].head? ≠ some '?' := by decide
  have hbehind := head?_matchers_ne hreadable hend
  rw [hliterals] at hbehind
  -- the anchor, the star onto it, the characters, the other anchor
  have hreaches : Reader.Reaches .start (compile ("*" ++ rest)).toList
      (Reader.start.addAll (looseStart :: parts ++ [.boundary .textEnd])) [] := by
    rw [compile_leading h, String.toList_ofList]
    refine (Reader.reaches_caret rfl _).trans ?_
    refine (Reader.reaches_star rfl rfl hbehind).trans ?_
    have hmatchers : Reader.Reaches (Reader.start.add looseStart) (rest.toList ++ ['$'])
        ((Reader.start.add looseStart).addAll parts) ['$'] := by
      rw [← hliterals]
      exact reaches_matchers rfl hreadable hend
    refine hmatchers.trans ?_
    rw [Reader.addAll_append, Reader.addAll_cons]
    exact Reader.reaches_dollar (by rw [Reader.flags_addAll]; rfl) []
  have hdepth : ∀ part ∈ looseStart :: parts ++ [Part.boundary .textEnd],
      part.depth < Reader.maxDepth := by
    intro part hpart
    rw [List.mem_append, List.mem_cons, List.mem_singleton] at hpart
    rcases hpart with (rfl | hpart) | rfl
    · decide
    · obtain ⟨token, -, rfl⟩ := List.mem_map.mp hpart
      exact depth_part_lt token
    · decide
  rw [parse, parsePart_of_reaches hreaches hdepth]
  refine congrArg Except.ok ?_
  rw [Part.regex_sequence, List.map_cons, List.map_map, List.map_map]
  rfl

/-! ## Paths -/

/-- A glob that starts with a label wildcard and goes on with characters that stand for
themselves can be read and is accepted unless it is too large.  It matches exactly the paths that
end with these characters.  The tokens of the glob cover only those of them in which no separator
stands before the characters. -/
theorem isMatch_leading_iff (rest : String) (hplain : ∀ c ∈ rest.toList, isLiteral c = true) :
    ∃ regex, parse (compile ("*" ++ rest)) = .ok regex ∧
      (Regex.compile (compile ("*" ++ rest)) = .ok regex ∨
        Regex.compile (compile ("*" ++ rest)) = .error (.tooLarge Room.limit)) ∧
      ∀ path : String,
        (regex.isMatch path = true ↔ ∃ stem, path.toList = stem ++ rest.toList) ∧
        (Covers (tokens ("*" ++ rest).toList) path.toList ↔
          ∃ stem, path.toList = stem ++ rest.toList ∧ '/' ∉ stem) := by
  have hparse := parse_leading hplain
  refine ⟨released rest.toList, hparse, compile_of_parse hparse, fun path => ⟨?_, ?_⟩⟩
  · rw [isMatch_iff (ordered_released _)]
    simp only [describes_released_iff]
    constructor
    · rintro ⟨stem, piece, after, hpath, rfl, rfl⟩
      exact ⟨stem, by rw [hpath, List.append_nil]⟩
    · rintro ⟨stem, hpath⟩
      exact ⟨stem, rest.toList, [], by rw [hpath, List.append_nil], rfl, rfl⟩
  · have hglob : ("*" ++ rest).toList = '*' :: rest.toList := by
      rw [String.toList_append]
      rfl
    rw [hglob, tokens_leading hplain]
    constructor
    · rintro ⟨stem, tail, hpath, hstem, htail⟩
      rw [(covers_literals_iff _ tail).mp htail] at hpath
      exact ⟨stem, hpath, hstem⟩
    · rintro ⟨stem, hpath, hstem⟩
      exact ⟨stem, rest.toList, hpath, hstem, (covers_literals_iff _ _).mpr rfl⟩

/-- A glob that starts with a label wildcard before a separator. -/
theorem isMatch_leading_iff_separated :
    (∀ c ∈ "/lib".toList, isLiteral c = true) ∧
    ∃ regex, parse (compile ("*" ++ "/lib")) = .ok regex ∧
      (Regex.compile (compile ("*" ++ "/lib")) = .ok regex ∨
        Regex.compile (compile ("*" ++ "/lib")) = .error (.tooLarge Room.limit)) ∧
      ∀ path : String,
        (regex.isMatch path = true ↔ ∃ stem, path.toList = stem ++ "/lib".toList) ∧
        (Covers (tokens ("*" ++ "/lib").toList) path.toList ↔
          ∃ stem, path.toList = stem ++ "/lib".toList ∧ '/' ∉ stem) := by
  have hall : "/lib".toList.all isLiteral = true := by decide
  have hplain : ∀ c ∈ "/lib".toList, isLiteral c = true := List.all_eq_true.mp hall
  exact ⟨hplain, isMatch_leading_iff "/lib" hplain⟩

/-- A lone label wildcard is not kept inside one segment. -/
theorem isMatch_leading_across_segments :
    ∃ regex, Regex.compile (compile ("*" ++ "")) = .ok regex ∧
      ¬(regex.isMatch "/a/b" = true ↔ ∃ stem, "/a/b".toList = stem ++ "".toList ∧ '/' ∉ stem) := by
  have hcompile : Regex.compile (compile ("*" ++ "")) =
      .ok (.seq (.rep (.boundary .textStart) 0 none) (.boundary .textEnd)) := rfl
  refine ⟨_, hcompile, fun hiff => ?_⟩
  obtain ⟨stem, hpath, hstem⟩ := hiff.mp (by decide)
  obtain rfl : "/a/b".toList = stem := hpath.trans (List.append_nil stem)
  exact absurd hstem (by decide)

end Glob
end IndexBench
