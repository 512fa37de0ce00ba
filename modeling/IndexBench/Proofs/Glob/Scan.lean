import IndexBench.Proofs.Glob.Tokens
import Mathlib.Data.Nat.Init

/-!
# Globs in one scan

Three rules lower a glob, one after the other.  They come to one scan over its maximal runs
of stars: each run becomes wildcards by its length and by what follows it, every other
character stays, and then one star that is left may become a label wildcard.

Main definitions:

- `Piece` is a maximal run of stars or another character, and `pieces` the pieces of a glob.
- `scan` makes tokens of pieces, in one pass.
- `labelText` is the text of tokens with the first eligible label wildcard replaced.
- `Labelled` says which wildcard is replaced.

Main results:

- Theorem `tokens_eq_scan`: the rules take the tokens that one scan finds.
- Theorem `labelText_labelled`: only the first star that is left behind a character other
  than a dot is replaced.
- Theorem `compile_eq_scan`: the matcher of a glob is the text of one scan.
-/

namespace IndexBench
namespace Glob

/-! ## Pieces -/

/-- A piece of a glob. -/
inductive Piece where
  /-- A run of stars. -/
  | stars (count : Nat)
  /-- A character other than a star. -/
  | plain (c : Char)
  deriving DecidableEq, Repr

/-- The text of a piece. -/
def Piece.text : Piece → List Char
  | stars count => List.replicate count '*'
  | plain c => [c]

/-- Puts a star before pieces. -/
def prependStar : List Piece → List Piece
  | .stars count :: rest => .stars (count + 1) :: rest
  | rest => .stars 1 :: rest

/-- The pieces of a glob. -/
def pieces : List Char → List Piece
  | [] => []
  | c :: rest => if c = '*' then prependStar (pieces rest) else .plain c :: pieces rest

/-- Whether pieces are maximal: behind a run of stars stands another character or nothing. -/
inductive Maximal : List Piece → Prop where
  | nil : Maximal []
  | plain {c : Char} {rest : List Piece} (hc : c ≠ '*') (hrest : Maximal rest) :
      Maximal (.plain c :: rest)
  | last {count : Nat} (hcount : 0 < count) : Maximal [.stars count]
  | stars {count : Nat} {c : Char} {rest : List Piece} (hcount : 0 < count) (hc : c ≠ '*')
      (hrest : Maximal rest) : Maximal (.stars count :: .plain c :: rest)

/-- A star goes into the run behind it. -/
theorem Maximal.prependStar {rest : List Piece} (h : Maximal rest) :
    Maximal (prependStar rest) ∧
      (Glob.prependStar rest).flatMap Piece.text = '*' :: rest.flatMap Piece.text := by
  cases h with
  | nil => exact ⟨.last Nat.one_pos, rfl⟩
  | plain hc hrest => exact ⟨.stars Nat.one_pos hc hrest, rfl⟩
  | last hcount => exact ⟨.last (Nat.succ_pos _), rfl⟩
  | stars hcount hc hrest => exact ⟨.stars (Nat.succ_pos _) hc hrest, rfl⟩

/-- The pieces of a glob are maximal, and put together again they are the glob. -/
theorem pieces_maximal (glob : List Char) :
    Maximal (pieces glob) ∧ (pieces glob).flatMap Piece.text = glob := by
  induction glob with
  | nil => exact ⟨.nil, rfl⟩
  | cons c rest ih =>
      rw [pieces]
      split
      · rename_i hc
        rw [hc, ih.1.prependStar.2, ih.2]
        exact ⟨ih.1.prependStar.1, rfl⟩
      · rename_i hc
        exact ⟨.plain hc ih.1, congrArg (List.cons c) ih.2⟩

/-! ## Scanning -/

/-- What stars become: a run for each two of them, and a label wildcard if one is left. -/
def starTokens (count : Nat) : List Token :=
  List.replicate (count / 2) .run ++ if count % 2 = 1 then [.label] else []

/-- Makes tokens of pieces.  The last two stars before a separator become segments together
with it. -/
def scan : List Piece → List Token
  | [] => []
  | .plain c :: rest => .literal c :: scan rest
  | .stars count :: .plain c :: rest =>
      if 2 ≤ count ∧ c = '/' then starTokens (count - 2) ++ .segments :: scan rest
      else starTokens count ++ .literal c :: scan rest
  | .stars count :: rest => starTokens count ++ scan rest

section Stars

variable {count : Nat} {c : Char} {rest : List Char}

/-- Stars that end a glob are no segments. -/
theorem takeSegments_replicate (count : Nat) :
    takeSegments (List.replicate count '*') = List.replicate count (.literal '*') := by
  induction count with
  | zero => rfl
  | succ count ih =>
      rw [List.replicate_succ, takeSegments, ih, List.replicate_succ]
      intro rest _ hrest
      have hslash : '/' ∈ List.replicate count '*' := by
        rw [hrest]
        simp
      exact absurd (List.eq_of_mem_replicate hslash) (by decide)

/-- A character other than a star is left as it is. -/
theorem takeSegments_plain (hc : c ≠ '*') :
    takeSegments (c :: rest) = .literal c :: takeSegments rest := by
  rw [takeSegments]
  rintro _ rfl
  exact absurd rfl hc

/-- Stars before another character are left, unless there are two before a separator. -/
theorem takeSegments_stars (hc : c ≠ '*') (h : ¬(2 ≤ count ∧ c = '/')) :
    takeSegments (List.replicate count '*' ++ c :: rest) =
      List.replicate count (.literal '*') ++ .literal c :: takeSegments rest := by
  induction count with
  | zero => exact takeSegments_plain hc
  | succ count ih =>
      rw [List.replicate_succ, List.cons_append, takeSegments,
        ih fun hsegments => h ⟨by omega, hsegments.2⟩, List.replicate_succ, List.cons_append]
      -- the star does not open segments: what follows it is not a star and a separator
      intro tail _ htail
      rcases count with _ | _ | count
      · exact hc (List.cons.inj htail).1
      · exact h ⟨Nat.le_refl 2, (List.cons.inj (List.cons.inj htail).2).1⟩
      · exact absurd (List.cons.inj (List.cons.inj htail).2).1 (by decide)

/-- The last two stars before a separator are segments with it, and those before them are
left. -/
theorem takeSegments_separator (count : Nat) (rest : List Char) :
    takeSegments (List.replicate (count + 2) '*' ++ '/' :: rest) =
      List.replicate count (.literal '*') ++ .segments :: takeSegments rest := by
  induction count with
  | zero => rfl
  | succ count ih =>
      rw [List.replicate_succ, List.cons_append, takeSegments, ih, List.replicate_succ,
        List.cons_append]
      intro tail _ htail
      exact absurd (List.cons.inj (List.cons.inj htail).2).1 (by decide)

/-- Two stars each are a run, and the one that is left is a label wildcard. -/
theorem takeRuns_stars (count : Nat) {later : List Token} (h : later.head? ≠ some (.literal '*')) :
    (takeRuns (List.replicate count (.literal '*') ++ later)).map takeLabel =
      starTokens count ++ (takeRuns later).map takeLabel := by
  induction count using Nat.twoStepInduction with
  | zero => rfl
  | one =>
      have hone : takeRuns (.literal '*' :: later) = .literal '*' :: takeRuns later := by
        rw [takeRuns]
        rintro tail _ rfl
        exact h rfl
      exact congrArg (List.map takeLabel) hone
  | more count ih _ =>
      have htokens : starTokens (count + 2) = .run :: starTokens count := by
        simp [starTokens, List.replicate_succ]
      rw [htokens, List.cons_append, ← ih]
      rfl

/-- What is no star is left for the third rule. -/
theorem takeRuns_cons {token : Token} (h : token ≠ .literal '*') (later : List Token) :
    takeRuns (token :: later) = token :: takeRuns later := by
  rw [takeRuns]
  rintro _ rfl
  exact absurd rfl h

end Stars

/-- The rules take the tokens that one scan finds. -/
theorem tokens_text {parts : List Piece} (h : Maximal parts) :
    tokens (parts.flatMap Piece.text) = scan parts := by
  have hliteral {c : Char} (hc : c ≠ '*') : Token.literal c ≠ .literal '*' :=
    fun h => hc (Token.literal.inj h)
  have hlabel {c : Char} (hc : c ≠ '*') : takeLabel (.literal c) = .literal c := by
    rw [takeLabel]
    exact hliteral hc
  induction h with
  | nil => rfl
  | plain hc hrest ih =>
      rw [tokens] at ih ⊢
      rw [List.flatMap_cons, Piece.text, List.singleton_append, takeSegments_plain hc,
        takeRuns_cons (hliteral hc), List.map_cons, hlabel hc, ih, scan]
  | @last count hcount =>
      have hnone : ([] : List Token).head? ≠ some (.literal '*') := by simp
      have hstars := takeRuns_stars count hnone
      rw [List.append_nil] at hstars
      rw [tokens, List.flatMap_singleton, Piece.text, takeSegments_replicate, hstars, scan]
      · rfl
      · intro _ _ hrest
        cases hrest
  | @stars count c rest hcount hc hrest ih =>
      rw [tokens] at ih ⊢
      rw [List.flatMap_cons, List.flatMap_cons, Piece.text, Piece.text, List.singleton_append,
        scan]
      split
      · rename_i hsegments
        obtain ⟨count, rfl⟩ := Nat.exists_eq_add_of_le' hsegments.1
        rw [hsegments.2, takeSegments_separator, takeRuns_stars count (by simp),
          takeRuns_cons (by simp), List.map_cons, ih, Nat.add_sub_cancel]
        rfl
      · rename_i hsegments
        have hhead : (Token.literal c :: takeSegments (rest.flatMap Piece.text)).head? ≠
            some (.literal '*') := by simpa using hc
        rw [takeSegments_stars hc hsegments, takeRuns_stars count hhead,
          takeRuns_cons (hliteral hc), List.map_cons, hlabel hc, ih]

/-- The rules take the tokens that one scan finds. -/
theorem tokens_eq_scan (glob : List Char) : tokens glob = scan (pieces glob) := by
  obtain ⟨hmaximal, htext⟩ := pieces_maximal glob
  rw [← tokens_text hmaximal, htext]

/-! ## Labels -/

/-- Whether a star behind a text is eligible: the text ends with a character other than a
dot. -/
def opens (text : List Char) : Bool :=
  text.getLast?.any (· != '.')

/-- The text of tokens behind a text, with the first eligible label wildcard replaced by its
matcher. -/
def labelText : List Char → List Token → List Char
  | _, [] => []
  | start, token :: rest =>
      if token = .label ∧ opens start = true then labelMatcher ++ rest.flatMap Token.expansion
      else token.expansion ++ labelText (start ++ token.expansion) rest

/-- Whether no label wildcard among tokens behind a text is eligible. -/
def Closed (start : List Char) (tokens : List Token) : Prop :=
  ∀ before after, tokens = before ++ .label :: after →
    opens (start ++ before.flatMap Token.expansion) = false

/-- What the text of tokens behind a text becomes: the first eligible label wildcard is
replaced by its matcher, or there is none and all of it stays. -/
inductive Labelled (start : List Char) (tokens : List Token) : List Char → Prop where
  | replaced {before after : List Token} (htokens : tokens = before ++ .label :: after)
      (hopens : opens (start ++ before.flatMap Token.expansion) = true)
      (hfirst : Closed start before) :
      Labelled start tokens
        (before.flatMap Token.expansion ++ (labelMatcher ++ after.flatMap Token.expansion))
  | kept (hclosed : Closed start tokens) :
      Labelled start tokens (tokens.flatMap Token.expansion)

section Labels

variable {start : List Char} {token : Token} {rest : List Token}

/-- A token that is no eligible label wildcard does not make others eligible. -/
theorem Closed.cons (htoken : token = .label → opens start = false)
    (h : Closed (start ++ token.expansion) rest) : Closed start (token :: rest) := by
  intro before after htokens
  cases before with
  | nil =>
      rw [List.flatMap_nil, List.append_nil]
      exact htoken (List.cons.inj htokens).1
  | cons first before =>
      obtain ⟨rfl, hrest⟩ := List.cons.inj htokens
      rw [List.flatMap_cons, ← List.append_assoc]
      exact h before after hrest

/-- A token that is not replaced stays before what becomes of the others. -/
theorem Labelled.cons {text : List Char} (htoken : token = .label → opens start = false)
    (h : Labelled (start ++ token.expansion) rest text) :
    Labelled start (token :: rest) (token.expansion ++ text) := by
  cases h with
  | @replaced before after htokens hopens hfirst =>
      have hreplaced : Labelled start (token :: rest) ((token :: before).flatMap
          Token.expansion ++ (labelMatcher ++ after.flatMap Token.expansion)) :=
        .replaced (congrArg _ htokens) (by rwa [List.flatMap_cons, ← List.append_assoc])
          (.cons htoken hfirst)
      rwa [List.flatMap_cons, List.append_assoc] at hreplaced
  | kept hclosed => exact .kept (.cons htoken hclosed)

/-- Only the first star that is left behind a character other than a dot is replaced. -/
theorem labelText_labelled (start : List Char) (tokens : List Token) :
    Labelled start tokens (labelText start tokens) := by
  induction tokens generalizing start with
  | nil => exact .kept fun before after h => by simp at h
  | cons token rest ih =>
      rw [labelText]
      split
      · rename_i hlabel
        rw [hlabel.1]
        refine @Labelled.replaced start _ [] rest rfl ?_ fun earlier later h => by simp at h
        rw [List.flatMap_nil, List.append_nil]
        exact hlabel.2
      · rename_i hlabel
        exact .cons (fun htoken => by simpa [htoken] using hlabel) (ih _)

/-- A text opens if its last part does. -/
theorem opens_append {part : List Char} (h : part ≠ []) (start : List Char) :
    opens (start ++ part) = opens part := by
  rw [opens, opens, List.getLast?_append_of_ne_nil _ h]

/-- Of the text before tokens it only matters whether it opens. -/
theorem labelText_congr {other : List Char} (h : opens start = opens other)
    (tokens : List Token) : labelText start tokens = labelText other tokens := by
  induction tokens generalizing start other with
  | nil => rfl
  | cons token rest ih =>
      have hne : token.expansion ≠ [] := by cases token <;> simp [Token.expansion,
        segmentsMatcher, runMatcher]
      rw [labelText, labelText, h,
        ih ((opens_append hne start).trans (opens_append hne other).symm)]

/-- The third rule replaces the first eligible label wildcard behind a character. -/
theorem expandLabel_cons_eq {tokens : List Token} (hstar : .literal '*' ∉ tokens) (c : Char) :
    expandLabel (c :: tokens.flatMap Token.expansion) = c :: labelText [c] tokens := by
  induction tokens generalizing c with
  | nil => exact expandLabel_cons (.inr (by simp))
  | cons token rest ih =>
      rw [List.mem_cons, not_or] at hstar
      have hrest := ih hstar.2
      rw [labelText, List.flatMap_cons]
      cases token with
      | literal d =>
          have hd : d ≠ '*' := fun hd => hstar.1 (by rw [hd])
          have hlast : labelText ([c] ++ [d]) rest = labelText [d] rest :=
            labelText_congr (by rfl) rest
          rw [if_neg (by simp), Token.expansion, List.singleton_append, List.singleton_append,
            hlast, ← hrest]
          exact expandLabel_cons (.inr (by simpa using hd))
      | segments =>
          have hlast : labelText ([c] ++ segmentsMatcher) rest = labelText ['?'] rest :=
            labelText_congr (by rfl) rest
          rw [if_neg (by simp), Token.expansion, hlast]
          simp only [segmentsMatcher, List.cons_append, List.nil_append]
          iterate 6 rw [expandLabel_cons (by simp)]
          rw [hrest]
      | run =>
          have hlast : labelText ([c] ++ runMatcher) rest = labelText ['*'] rest :=
            labelText_congr (by rfl) rest
          rw [if_neg (by simp), Token.expansion, hlast]
          simp only [runMatcher, List.cons_append, List.nil_append]
          iterate 2 rw [expandLabel_cons (by simp)]
          rw [hrest]
      | label =>
          have hopens : opens [c] = true ↔ c ≠ '.' := by simp [opens]
          by_cases hc : c = '.'
          · have hlast : labelText ([c] ++ ['*']) rest = labelText ['*'] rest :=
              labelText_congr (by rfl) rest
            rw [if_neg (fun h => hopens.mp h.2 hc), Token.expansion, hlast, List.singleton_append,
              expandLabel_cons (.inl hc), hrest, List.singleton_append]
          · rw [if_pos ⟨rfl, hopens.mpr hc⟩, Token.expansion, List.singleton_append,
              expandLabel_star hc]

/-- The third rule replaces the first eligible label wildcard. -/
theorem expandLabel_eq_labelText {tokens : List Token} (hstar : .literal '*' ∉ tokens) :
    expandLabel (tokens.flatMap Token.expansion) = labelText [] tokens := by
  -- a dot before the text opens it no more than nothing does
  have hdot := expandLabel_cons_eq hstar '.'
  rw [expandLabel_cons (.inl rfl)] at hdot
  exact (List.cons.inj hdot).2.trans (labelText_congr (by rfl) tokens)

end Labels

/-! ## Lowering -/

/-- The character that a token stands for as it is. -/
def Token.literal? : Token → Option Char
  | literal c => some c
  | _ => none

/-- Whether a character survives wherever it stands: it is no star and no separator. -/
def survives (c : Char) : Bool :=
  c != '*' && c != '/'

/-- A scan leaves every character in its place, except for stars and the separators that go
into segments with them. -/
theorem literals_scan {parts : List Piece} (h : Maximal parts) :
    ((scan parts).filterMap Token.literal?).filter survives =
      (parts.flatMap Piece.text).filter survives := by
  have hstars (count : Nat) : (List.replicate count '*').filter survives = [] := by
    simp [survives]
  have htokens (count : Nat) : (starTokens count).filterMap Token.literal? = [] := by
    rw [starTokens, List.filterMap_append, List.filterMap_replicate_of_none rfl]
    split <;> rfl
  induction h with
  | nil => rfl
  | @plain c rest hc hrest ih =>
      rw [scan, List.flatMap_cons, List.filter_append, ← ih]
      exact List.filter_append (p := survives) [c] _
  | @last count hcount =>
      rw [List.flatMap_singleton, Piece.text, hstars, scan, scan, List.append_nil, htokens]
      · rfl
      · intro _ _ hrest
        cases hrest
  | @stars count c rest hcount hc hrest ih =>
      rw [List.flatMap_cons, List.filter_append, Piece.text, hstars, List.nil_append,
        List.flatMap_cons, List.filter_append, ← ih, scan]
      split
      · rename_i hsegments
        rw [List.filterMap_append, htokens, hsegments.2]
        rfl
      · rw [List.filterMap_append, htokens]
        exact List.filter_append (p := survives) [c] _

/-- The matcher of a glob is the text of one scan.  The pieces of the glob are its maximal
runs of stars and its other characters; the text of their tokens is what the rules for
segments and runs make of the glob, and only the first eligible label wildcard in it is
replaced, whatever stands behind it.  Every other character is in its place. -/
theorem compile_eq_scan (glob : String) :
    let parts := pieces glob.toList
    Maximal parts ∧ parts.flatMap Piece.text = glob.toList ∧
      expandRuns (expandSegments glob.toList) = (scan parts).flatMap Token.expansion ∧
      compile glob = String.ofList ('^' :: (labelText [] (scan parts) ++ ['$'])) ∧
      Labelled [] (scan parts) (labelText [] (scan parts)) ∧
      ((scan parts).filterMap Token.literal?).filter survives = glob.toList.filter survives := by
  intro parts
  obtain ⟨hmaximal, htext⟩ := pieces_maximal glob.toList
  have hexpanded : expandRuns (expandSegments glob.toList) =
      (scan parts).flatMap Token.expansion := by
    rw [expandRuns_expandSegments, tokens_eq_scan]
  have hstar : .literal '*' ∉ scan parts := by
    rw [← tokens_eq_scan]
    exact fun hmem => (mem_of_literal_mem_tokens hmem).2 rfl
  refine ⟨hmaximal, htext, hexpanded, ?_, labelText_labelled [] _, ?_⟩
  · rw [compile, compileChars, hexpanded, expandLabel_eq_labelText hstar]
  · rw [literals_scan hmaximal, htext]

/-- Of five stars before a separator two are a run, one is left and two are segments; the one
that is left is replaced, and the star behind the next name stays. -/
example : compile "*****/a*" = "^.*[^/]*(.*/)?a*$" := by decide

end Glob
end IndexBench
