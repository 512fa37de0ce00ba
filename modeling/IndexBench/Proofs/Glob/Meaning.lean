import IndexBench.Proofs.Glob.Tokens
import IndexBench.Proofs.Regex.Reading

/-!
# What globs mean

The matcher of a glob is a text that is read as a regular expression and searched
for in paths.  This module shows what comes out in the end: a path matches if it
falls into pieces, one for each token of the glob.

Main definitions:

- `Token.Covers` says which pieces of a path a token stands for.
- `Glob.Covers` says that a path falls into pieces for the tokens of a row.

Main results:

- Theorem `reaches_matchers`: the matchers of tokens are read one after the other,
  whatever stands beside them.
- Theorem `describes_tokens_iff`: the expression of tokens between anchors
  describes exactly the whole texts that the tokens cover.
- Theorem `isMatch_compile_iff`: the matcher of a glob without notation of its own
  accepts exactly the paths that its tokens cover.
-/

namespace IndexBench
namespace Glob

open Regex

/-! ## Pieces of paths -/

/-- Whether a token stands for a piece of a path. -/
def Token.Covers : Token → List Char → Prop
  | literal c, piece => piece = [c]
  | segments, piece => piece = [] ∨ ∃ stem, piece = stem ++ ['/'] ∧ '\n' ∉ stem
  | run, piece => '\n' ∉ piece
  | label, piece => '/' ∉ piece

/-- Whether a path falls into consecutive pieces, one for each token. -/
def Covers : List Token → List Char → Prop
  | [], path => path = []
  | token :: tokens, path =>
      ∃ piece rest, path = piece ++ rest ∧ token.Covers piece ∧ Covers tokens rest

/-! ## Pieces of patterns -/

/-- Any character but one, repeated without bounds. -/
def starPart (c : Char) (depth : Nat) : Part :=
  (Part.chars .initial (.complement (.single c)) depth).repeated 0 none true

/-- What the matcher of a token is read as. -/
def Token.part : Token → Part
  | literal c => .chars .initial (.single c) 0
  | segments =>
      ((Part.sequence [.chars .initial (.single '/') 0, starPart '\n' 0]).grouped true).repeated 0
        (some 1) true
  | run => starPart '\n' 0
  | label => starPart '/' 1

/-- Whether the matcher of a token consists of what it stands for in patterns. -/
def Token.isReadable : Token → Bool
  | literal c => isLiteral c
  | _ => true

/-- The text of readable tokens does not start with a question mark, unless what
follows does. -/
theorem head?_matchers_ne {tokens : List Token} (h : ∀ token ∈ tokens, token.isReadable = true)
    {rest : List Char} (hrest : rest.head? ≠ some '?') :
    (tokens.flatMap Token.matcher ++ rest).head? ≠ some '?' := by
  cases tokens with
  | nil => exact hrest
  | cons token tokens =>
      have htoken : token.isReadable = true := h token (List.mem_cons_self ..)
      cases token with
      | literal c =>
          intro hc
          obtain rfl : c = '?' := Option.some.inj hc
          exact absurd htoken (by decide)
      | segments => simp [Token.matcher, segmentsMatcher]
      | run => simp [Token.matcher, runMatcher]
      | label => simp [Token.matcher, labelMatcher]

section Reading

variable {reader : Reader} (hflags : reader.flags = .initial)

include hflags

/-- A dot and a star are read as any run without line feeds. -/
theorem reaches_run {rest : List Char} (hrest : rest.head? ≠ some '?') :
    Reader.Reaches reader ('.' :: '*' :: rest) (reader.add (starPart '\n' 0)) rest :=
  (Reader.reaches_dot hflags _).trans (Reader.reaches_star hflags rfl hrest)

/-- The matcher of a token is read as its piece, whatever follows. -/
theorem reaches_matcher {token : Token} (h : token.isReadable = true) {rest : List Char}
    (hrest : rest.head? ≠ some '?') :
    Reader.Reaches reader (token.matcher ++ rest) (reader.add token.part) rest := by
  cases token with
  | literal c => exact Reader.reaches_literal hflags h rest
  | run => exact reaches_run hflags hrest
  | label =>
      exact (Reader.reaches_bracket hflags ('*' :: rest)).trans
        (Reader.reaches_star hflags rfl hrest)
  | segments =>
      have hopen : (reader.openGroup true).flags = .initial := hflags
      refine (Reader.reaches_open hflags (by simp)).trans ?_
      refine (reaches_run hopen (by simp)).trans ?_
      refine (Reader.reaches_literal (by rw [Reader.flags_add, hopen]) (by decide) _).trans ?_
      exact (Reader.reaches_close hflags [starPart '\n' 0, .chars .initial (.single '/') 0]
        ('?' :: rest)).trans (Reader.reaches_question hflags rfl hrest)

/-- The matchers of tokens are read one after the other, whatever stands beside
them. -/
theorem reaches_matchers {tokens : List Token} (h : ∀ token ∈ tokens, token.isReadable = true)
    {rest : List Char} (hrest : rest.head? ≠ some '?') :
    Reader.Reaches reader (tokens.flatMap Token.matcher ++ rest)
      (reader.addAll (tokens.map Token.part)) rest := by
  induction tokens generalizing reader with
  | nil => exact .refl reader rest
  | cons token tokens ih =>
      rw [List.forall_mem_cons] at h
      rw [List.flatMap_cons, List.append_assoc]
      exact (reaches_matcher hflags h.1 (head?_matchers_ne h.2 hrest)).trans
        (ih (by rw [Reader.flags_add, hflags]) h.2)

end Reading

/-! ## Expressions of tokens -/

/-- Any character but one is a character of its complement. -/
theorem contains_complement_iff (c d : Char) :
    (CharSet.complement (.single c)).contains d = true ↔ d ≠ c := by
  rw [ne_eq, ← Char.toNat_inj]
  simp only [CharSet.contains, CharSet.has, CharSet.single, Bool.not_eq_true',
    Bool.and_eq_false_iff, decide_eq_false_iff_not]
  omega

/-- A repeated complement describes the pieces without its character. -/
theorem describes_starPart_iff (c : Char) (depth : Nat) (before piece after : List Char) :
    (starPart c depth).regex.Describes before piece after ↔ c ∉ piece := by
  refine (describes_star_iff _ before piece after).trans ?_
  simp only [contains_complement_iff]
  constructor
  · intro hall hc
    exact hall c hc rfl
  · rintro hc d hd rfl
    exact hc hd

/-- The expression of a token describes what the token covers, wherever it
stands. -/
theorem describes_part_iff (token : Token) (before piece after : List Char) :
    token.part.regex.Describes before piece after ↔ token.Covers piece := by
  cases token with
  | literal c => exact describes_single_iff c before piece after
  | run => exact describes_starPart_iff '\n' 0 before piece after
  | label => exact describes_starPart_iff '/' 1 before piece after
  | segments =>
      refine (describes_option_iff _ before piece after).trans (or_congr_right ?_)
      constructor
      · rintro ⟨stem, last, rfl, hstem, hlast⟩
        obtain rfl := (describes_single_iff '/' _ last after).mp hlast
        exact ⟨stem, rfl, (describes_starPart_iff '\n' 0 _ stem _).mp hstem⟩
      · rintro ⟨stem, rfl, hstem⟩
        exact ⟨stem, ['/'], rfl, (describes_starPart_iff '\n' 0 _ stem _).mpr hstem,
          (describes_single_iff '/' _ ['/'] after).mpr rfl⟩

/-- The expression of tokens in a row up to the end of the text describes what
the tokens cover, at the end of the text only. -/
theorem describes_inRow_iff (tokens : List Token) (before piece after : List Char) :
    (inRow (tokens.map fun token => token.part.regex) (.boundary .textEnd)).Describes before piece
        after ↔
      Covers tokens piece ∧ after = [] := by
  induction tokens generalizing before piece with
  | nil =>
      cases after <;> simp [inRow, Describes, Boundary.holds, Covers]
  | cons token tokens ih =>
      constructor
      · rintro ⟨first, rest, rfl, hfirst, hrest⟩
        obtain ⟨hcovers, hafter⟩ := (ih _ _).mp hrest
        exact ⟨⟨first, rest, rfl, (describes_part_iff token _ _ _).mp hfirst, hcovers⟩, hafter⟩
      · rintro ⟨⟨first, rest, rfl, hfirst, hcovers⟩, hafter⟩
        exact ⟨first, rest, rfl, (describes_part_iff token _ _ _).mpr hfirst,
          (ih _ _).mpr ⟨hcovers, hafter⟩⟩

/-- The expression of tokens between anchors. -/
def anchored (tokens : List Token) : Regex :=
  inRow (.boundary .textStart :: tokens.map fun token => token.part.regex) (.boundary .textEnd)

/-- The expression of tokens between anchors describes exactly the whole texts
that the tokens cover. -/
theorem describes_anchored_iff (tokens : List Token) (before piece after : List Char) :
    (anchored tokens).Describes before piece after ↔
      before = [] ∧ Covers tokens piece ∧ after = [] := by
  constructor
  · rintro ⟨first, rest, rfl, ⟨rfl, hstart⟩, hrest⟩
    refine ⟨?_, by simpa using (describes_inRow_iff tokens _ rest after).mp hrest⟩
    simpa [Boundary.holds] using hstart
  · rintro ⟨rfl, hcovers⟩
    exact ⟨[], piece, rfl, ⟨rfl, rfl⟩, (describes_inRow_iff tokens _ piece after).mpr hcovers⟩

/-- The bounds in the expression of a token are in order. -/
theorem ordered_part (token : Token) : token.part.regex.Ordered := by
  cases token <;>
    simp [Token.part, starPart, Part.repeated, Part.grouped, Part.sequence, Part.chars, Ordered]

/-- The bounds in the expression of tokens between anchors are in order. -/
theorem ordered_anchored (tokens : List Token) : (anchored tokens).Ordered := by
  refine ordered_inRow ?_ trivial
  intro regex hregex
  rcases List.mem_cons.mp hregex with rfl | hregex
  · trivial
  · obtain ⟨token, -, rfl⟩ := List.mem_map.mp hregex
    exact ordered_part token

/-! ## Matchers -/

/-- The notation of a token is nested a few levels deep. -/
theorem depth_part_lt (token : Token) : token.part.depth < Reader.maxDepth := by
  cases token with
  | literal c => exact (by decide : 0 < Reader.maxDepth)
  | _ => decide

/-- The tokens of a glob without notation of its own can be read. -/
theorem isReadable_of_mem_tokens {glob : List Char}
    (h : ∀ c ∈ glob, c = '*' ∨ isLiteral c = true) :
    ∀ token ∈ tokens glob, token.isReadable = true := by
  intro token htoken
  cases token with
  | literal c =>
      obtain ⟨hc, hstar⟩ := mem_of_literal_mem_tokens htoken
      exact (h c hc).resolve_left hstar
  | _ => rfl

/-- The matcher of a glob without notation of its own, of which at most one label
wildcard is left that does not come first, is read as its tokens between anchors. -/
theorem parse_compile {glob : String} (hplain : ∀ c ∈ glob.toList, c = '*' ∨ isLiteral c = true)
    (hcount : (tokens glob.toList).count .label ≤ 1)
    (hhead : (tokens glob.toList).head? ≠ some .label) :
    parse (compile glob) = .ok (anchored (tokens glob.toList)) := by
  have hdot : '.' ∉ glob.toList := by
    intro hmem
    rcases hplain '.' hmem with h | h <;> exact absurd h (by decide)
  let parts := (tokens glob.toList).map Token.part
  have hreaches : Reader.Reaches .start (compile glob).toList
      (Reader.start.addAll (.boundary .textStart :: parts ++ [.boundary .textEnd])) [] := by
    rw [compile, String.toList_ofList, compileChars_eq hdot hcount hhead]
    refine (Reader.reaches_caret rfl _).trans ?_
    refine (reaches_matchers rfl (isReadable_of_mem_tokens hplain) (by simp)).trans ?_
    rw [Reader.addAll_append, Reader.addAll_cons]
    exact Reader.reaches_dollar (by rw [Reader.flags_addAll]; rfl) []
  have hdepth : ∀ part ∈ Part.boundary .textStart :: parts ++ [Part.boundary .textEnd],
      part.depth < Reader.maxDepth := by
    intro part hpart
    rw [List.mem_append, List.mem_cons, List.mem_singleton] at hpart
    rcases hpart with (rfl | hpart) | rfl
    · decide
    · obtain ⟨token, -, rfl⟩ := List.mem_map.mp hpart
      exact depth_part_lt token
    · decide
  rw [parse, parsePart_of_reaches hreaches hdepth]
  refine congrArg Except.ok ?_
  rw [Part.regex_sequence, List.map_cons, List.map_map]
  rfl

/-- The matcher of a glob whose characters are stars and characters that stand for
themselves, of which at most one label wildcard is left that does not come first,
can be read, is accepted unless it is too large, and matches exactly the paths
that fall into one piece for each token. -/
theorem isMatch_compile_iff (glob : String)
    (hplain : ∀ c ∈ glob.toList, c = '*' ∨ isLiteral c = true)
    (hcount : (tokens glob.toList).count .label ≤ 1)
    (hhead : (tokens glob.toList).head? ≠ some .label) :
    ∃ regex, parse (compile glob) = .ok regex ∧
      (Regex.compile (compile glob) = .ok regex ∨
        Regex.compile (compile glob) = .error (.tooLarge Room.limit)) ∧
      ∀ path : String, regex.isMatch path = true ↔ Covers (tokens glob.toList) path.toList := by
  have hparse := parse_compile hplain hcount hhead
  refine ⟨anchored (tokens glob.toList), hparse, compile_of_parse hparse, ?_⟩
  intro path
  rw [isMatch_iff (ordered_anchored _)]
  simp only [describes_anchored_iff]
  constructor
  · rintro ⟨before, piece, after, hpath, rfl, hcovers, rfl⟩
    rwa [hpath, List.nil_append, List.append_nil]
  · intro hcovers
    exact ⟨[], path.toList, [], by simp, rfl, hcovers, rfl⟩

/-- A glob in which stars of every kind stand side by side. -/
theorem isMatch_compile_iff_adjacent :
    ((∀ c ∈ "/a***/b**".toList, c = '*' ∨ isLiteral c = true) ∧
      (tokens "/a***/b**".toList).count .label ≤ 1 ∧
      (tokens "/a***/b**".toList).head? ≠ some .label) ∧
    ∃ regex, parse (compile "/a***/b**") = .ok regex ∧
      (Regex.compile (compile "/a***/b**") = .ok regex ∨
        Regex.compile (compile "/a***/b**") = .error (.tooLarge Room.limit)) ∧
      ∀ path : String, regex.isMatch path = true ↔
        Covers (tokens "/a***/b**".toList) path.toList := by
  have hplain : ∀ c ∈ "/a***/b**".toList, c = '*' ∨ isLiteral c = true := by
    intro c hc
    have hall : ("/a***/b**".toList.all fun c => c == '*' || isLiteral c) = true := by decide
    simpa using List.all_eq_true.mp hall c hc
  exact ⟨⟨hplain, by decide, by decide⟩,
    isMatch_compile_iff "/a***/b**" hplain (by decide) (by decide)⟩

end Glob
end IndexBench
