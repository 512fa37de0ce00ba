import Mathlib.Data.List.Basic
import IndexBench.Glob

/-!
# The tokens of a glob

A glob is a row of tokens: its wildcards and the characters between them.  The
rules that lower a glob work on its text one after the other; this module shows
that together they replace each token by its own matcher.

Main definitions:

- `Token` is a token and `Glob.tokens` reads a glob as tokens: all `**/` first,
  then the `**` that are left, then the `*` that are left.
- `Token.expansion` is what the first two rules make of a token, `Token.matcher`
  what all three do.

Main results:

- Theorem `expandRuns_expandSegments`: the first two rules replace each token by
  its expansion.
- Theorem `compileChars_eq`: where at most one label wildcard is left and it does
  not come first, a glob is lowered token by token.
-/

namespace IndexBench
namespace Glob

/-- A token of a glob. -/
inductive Token where
  | literal (c : Char)
  /-- `**/`: any number of leading segments. -/
  | segments
  /-- `**`: any run of characters. -/
  | run
  /-- `*`: a run inside one segment. -/
  | label
  deriving DecidableEq, Repr

/-! ## Reading tokens -/

/-- Takes each `**/` as segments, from left to right, and leaves other
characters. -/
def takeSegments : List Char → List Token
  | '*' :: '*' :: '/' :: rest => .segments :: takeSegments rest
  | c :: rest => .literal c :: takeSegments rest
  | [] => []

/-- Takes each `**` that is left as a run, from left to right. -/
def takeRuns : List Token → List Token
  | .literal '*' :: .literal '*' :: rest => .run :: takeRuns rest
  | token :: rest => token :: takeRuns rest
  | [] => []

/-- Takes a star that is left as a label wildcard. -/
def takeLabel : Token → Token
  | .literal '*' => .label
  | token => token

/-- The tokens of a glob. -/
def tokens (glob : List Char) : List Token :=
  (takeRuns (takeSegments glob)).map takeLabel

/-- What the rules for segments and runs make of a token. -/
def Token.expansion : Token → List Char
  | literal c => [c]
  | segments => segmentsMatcher
  | run => runMatcher
  | label => ['*']

/-- What all rules make of a token. -/
def Token.matcher : Token → List Char
  | literal c => [c]
  | segments => segmentsMatcher
  | run => runMatcher
  | label => labelMatcher

/-! ## Segments and runs -/

/-- Whether a token is a character or segments: these are left for the second
rule. -/
def Token.isEarly : Token → Bool
  | literal _ => true
  | segments => true
  | run => false
  | label => false

/-- The first rule finds segments and characters only. -/
theorem isEarly_of_mem_takeSegments (glob : List Char) :
    ∀ token ∈ takeSegments glob, token.isEarly = true := by
  fun_induction takeSegments glob with
  | case1 rest ih => simpa [Token.isEarly] using ih
  | case2 c rest hne ih => simpa [Token.isEarly] using ih
  | case3 => simp

/-- The first rule replaces each of its tokens by its expansion. -/
theorem expandSegments_eq (glob : List Char) :
    expandSegments glob = (takeSegments glob).flatMap Token.expansion := by
  fun_induction takeSegments glob with
  | case1 rest ih => rw [expandSegments, ih, List.flatMap_cons, Token.expansion]
  | case2 c rest hne ih =>
      rw [List.flatMap_cons, Token.expansion, ← ih, expandSegments]
      · rfl
      · exact hne
  | case3 => rfl

/-- A character stays unless it begins a `**`. -/
theorem expandRuns_cons {c : Char} {rest : List Char} (h : c ≠ '*' ∨ rest.head? ≠ some '*') :
    expandRuns (c :: rest) = c :: expandRuns rest := by
  rw [expandRuns]
  rintro tail rfl rfl
  rcases h with h | h
  · exact h rfl
  · exact h rfl

/-- Segments hold no `**`, so that the second rule leaves them. -/
theorem expandRuns_segmentsMatcher (rest : List Char) :
    expandRuns (segmentsMatcher ++ rest) = segmentsMatcher ++ expandRuns rest := by
  simp only [segmentsMatcher, List.cons_append, List.nil_append]
  iterate 6 rw [expandRuns_cons (by simp)]

/-- Among the tokens that are left for the second rule, the text of a row starts
with a star only if its first token is one. -/
theorem head?_expansion_ne {tokens : List Token} (hearly : ∀ token ∈ tokens, token.isEarly = true)
    (h : tokens.head? ≠ some (.literal '*')) :
    (tokens.flatMap Token.expansion).head? ≠ some '*' := by
  cases tokens with
  | nil => simp
  | cons token rest =>
      cases token with
      | literal c =>
          intro hc
          apply h
          simp only [List.flatMap_cons, Token.expansion, List.cons_append, List.head?_cons,
            Option.some.injEq] at hc
          rw [hc]
          rfl
      | segments => simp [Token.expansion, segmentsMatcher]
      | run => simp [Token.isEarly] at hearly
      | label => simp [Token.isEarly] at hearly

/-- The second rule replaces each `**` that is left by its expansion. -/
theorem expandRuns_eq (tokens : List Token) (hearly : ∀ token ∈ tokens, token.isEarly = true) :
    expandRuns (tokens.flatMap Token.expansion) = (takeRuns tokens).flatMap Token.expansion := by
  fun_induction takeRuns tokens with
  | case1 rest ih =>
      rw [List.forall_mem_cons, List.forall_mem_cons] at hearly
      calc expandRuns ('*' :: '*' :: rest.flatMap Token.expansion)
          = runMatcher ++ expandRuns (rest.flatMap Token.expansion) := rfl
        _ = runMatcher ++ (takeRuns rest).flatMap Token.expansion := by rw [ih hearly.2.2]
  | case2 token rest hne ih =>
      rw [List.forall_mem_cons] at hearly
      rw [List.flatMap_cons, List.flatMap_cons, ← ih hearly.2]
      cases token with
      | literal c =>
          refine expandRuns_cons ?_
          by_cases hc : c = '*'
          · refine .inr (head?_expansion_ne hearly.2 ?_)
            intro hhead
            obtain ⟨tail, rfl⟩ := List.head?_eq_some_iff.mp hhead
            exact hne tail (by rw [hc]) rfl
          · exact .inl hc
      | segments => exact expandRuns_segmentsMatcher _
      | run => simp [Token.isEarly] at hearly
      | label => simp [Token.isEarly] at hearly
  | case3 => rfl

/-- A star is a label wildcard by its name only. -/
theorem expansion_takeLabel (token : Token) : (takeLabel token).expansion = token.expansion := by
  unfold takeLabel
  split <;> rfl

/-- The first two rules replace each token by its expansion. -/
theorem expandRuns_expandSegments (glob : List Char) :
    expandRuns (expandSegments glob) = (tokens glob).flatMap Token.expansion := by
  rw [expandSegments_eq, expandRuns_eq _ (isEarly_of_mem_takeSegments glob), tokens,
    List.flatMap_map]
  simp only [expansion_takeLabel]

/-! ## Characters among the tokens -/

/-- The characters that the first rule leaves are those of the glob. -/
theorem mem_of_literal_mem_takeSegments {glob : List Char} {c : Char}
    (h : .literal c ∈ takeSegments glob) : c ∈ glob := by
  fun_induction takeSegments glob with
  | case1 rest ih =>
      rcases List.mem_cons.mp h with h | h
      · cases h
      · simp [ih h]
  | case2 d rest hne ih =>
      rcases List.mem_cons.mp h with h | h
      · cases h
        exact List.mem_cons_self ..
      · exact List.mem_cons_of_mem d (ih h)
  | case3 => cases h

/-- The second rule leaves characters that were there. -/
theorem literal_mem_of_mem_takeRuns {tokens : List Token} {c : Char}
    (h : .literal c ∈ takeRuns tokens) : .literal c ∈ tokens := by
  fun_induction takeRuns tokens with
  | case1 rest ih =>
      rcases List.mem_cons.mp h with h | h
      · cases h
      · simp [ih h]
  | case2 token rest hne ih =>
      rcases List.mem_cons.mp h with h | h
      · rw [h]
        exact List.mem_cons_self ..
      · exact List.mem_cons_of_mem token (ih h)
  | case3 => cases h

/-- The characters among the tokens are those of the glob other than stars. -/
theorem mem_of_literal_mem_tokens {glob : List Char} {c : Char} (h : .literal c ∈ tokens glob) :
    c ∈ glob ∧ c ≠ '*' := by
  obtain ⟨token, htoken, hlabel⟩ := List.mem_map.mp h
  unfold takeLabel at hlabel
  split at hlabel
  · cases hlabel
  · rename_i hne
    subst hlabel
    refine ⟨mem_of_literal_mem_takeSegments (literal_mem_of_mem_takeRuns htoken), ?_⟩
    rintro rfl
    exact hne rfl

/-! ## Label wildcards -/

/-- A character stays unless a label wildcard follows it. -/
theorem expandLabel_cons {c : Char} {rest : List Char} (h : c = '.' ∨ rest.head? ≠ some '*') :
    expandLabel (c :: rest) = c :: expandLabel rest := by
  by_cases hrest : rest.head? = some '*'
  · obtain ⟨tail, rfl⟩ := List.head?_eq_some_iff.mp hrest
    have hc : c = '.' := h.resolve_right (fun hne => hne rfl)
    rw [expandLabel, if_pos hc]
  · rw [expandLabel]
    rintro tail rfl
    exact hrest rfl

/-- The first label wildcard becomes its matcher, and what follows stays. -/
theorem expandLabel_star {c : Char} (h : c ≠ '.') (rest : List Char) :
    expandLabel (c :: '*' :: rest) = c :: (labelMatcher ++ rest) := by
  rw [expandLabel, if_neg h]

/-- Whether a token is settled before the third rule: it is no label wildcard,
and if it is a character, it is neither a star nor a dot. -/
def Token.isSettled : Token → Bool
  | literal c => c != '*' && c != '.'
  | segments => true
  | run => true
  | label => false

/-- The text of a settled token does not start with a star. -/
theorem head?_expansion_settled {token : Token} (h : token.isSettled = true) (rest : List Char) :
    (token.expansion ++ rest).head? ≠ some '*' := by
  cases token with
  | literal c =>
      intro hc
      obtain rfl : c = '*' := Option.some.inj hc
      exact absurd h (by decide)
  | segments => simp [Token.expansion, segmentsMatcher]
  | run => simp [Token.expansion, runMatcher]
  | label => cases h

/-- Settled tokens keep a star from the start of a text. -/
theorem head?_settled_ne {tokens : List Token} (h : ∀ token ∈ tokens, token.isSettled = true)
    {rest : List Char} (hrest : rest.head? ≠ some '*') :
    (tokens.flatMap Token.expansion ++ rest).head? ≠ some '*' := by
  cases tokens with
  | nil => exact hrest
  | cons token tokens =>
      rw [List.flatMap_cons, List.append_assoc]
      exact head?_expansion_settled (h token (List.mem_cons_self ..)) _

/-- The third rule leaves settled tokens. -/
theorem expandLabel_settled {tokens : List Token} (h : ∀ token ∈ tokens, token.isSettled = true)
    {rest : List Char} (hrest : rest.head? ≠ some '*') :
    expandLabel (tokens.flatMap Token.expansion ++ rest) =
      tokens.flatMap Token.expansion ++ expandLabel rest := by
  induction tokens with
  | nil => rfl
  | cons token tokens ih =>
      rw [List.forall_mem_cons] at h
      have hnext := head?_settled_ne h.2 hrest
      rw [List.flatMap_cons, List.append_assoc, List.append_assoc, ← ih h.2]
      cases token with
      | literal c => exact expandLabel_cons (.inr hnext)
      | segments =>
          simp only [Token.expansion, segmentsMatcher, List.cons_append, List.nil_append]
          iterate 5 rw [expandLabel_cons (by simp)]
          rw [expandLabel_cons (.inr hnext)]
      | run =>
          simp only [Token.expansion, runMatcher, List.cons_append, List.nil_append]
          rw [expandLabel_cons (.inl rfl), expandLabel_cons (.inr hnext)]
      | label => exact absurd h.1 (by decide)

/-- After a settled token the third rule finds a label wildcard. -/
theorem expandLabel_label {token : Token} (h : token.isSettled = true) (rest : List Char) :
    expandLabel (token.expansion ++ '*' :: rest) = token.expansion ++ (labelMatcher ++ rest) := by
  cases token with
  | literal c =>
      have hc : c ≠ '.' := by
        rintro rfl
        exact absurd h (by decide)
      exact expandLabel_star hc rest
  | segments =>
      simp only [Token.expansion, segmentsMatcher, List.cons_append, List.nil_append]
      iterate 5 rw [expandLabel_cons (by simp)]
      rw [expandLabel_star (by decide)]
  | run =>
      simp only [Token.expansion, runMatcher, List.cons_append, List.nil_append]
      rw [expandLabel_cons (.inl rfl), expandLabel_star (by decide)]
  | label => exact absurd h (by decide)

/-- The matcher of a settled token is its expansion. -/
theorem flatMap_matcher_settled {tokens : List Token}
    (h : ∀ token ∈ tokens, token.isSettled = true) :
    tokens.flatMap Token.matcher = tokens.flatMap Token.expansion := by
  induction tokens with
  | nil => rfl
  | cons token tokens ih =>
      rw [List.forall_mem_cons] at h
      rw [List.flatMap_cons, List.flatMap_cons, ih h.2]
      cases token with
      | label => exact absurd h.1 (by decide)
      | _ => rfl

/-- The third rule replaces the label wildcard by its matcher, if it is the only
one and does not come first. -/
theorem expandLabel_eq {tokens : List Token}
    (hliteral : ∀ c, .literal c ∈ tokens → c ≠ '*' ∧ c ≠ '.')
    (hcount : tokens.count .label ≤ 1) (hhead : tokens.head? ≠ some .label) :
    expandLabel (tokens.flatMap Token.expansion) = tokens.flatMap Token.matcher := by
  have hsettled : ∀ part : List Token, part ⊆ tokens → .label ∉ part →
      ∀ token ∈ part, token.isSettled = true := by
    intro part hpart hlabel token htoken
    cases token with
    | literal c => simpa [Token.isSettled] using hliteral c (hpart htoken)
    | label => exact absurd htoken hlabel
    | _ => rfl
  by_cases hmem : Token.label ∈ tokens
  · obtain ⟨before, after, rfl⟩ := List.append_of_mem hmem
    -- The one label wildcard cuts the tokens into two settled rows.
    have hcounts : before.count .label = 0 ∧ after.count .label = 0 := by
      rw [List.count_append, List.count_cons_self] at hcount
      omega
    have hbefore := hsettled before (List.subset_append_left ..) (List.count_eq_zero.mp hcounts.1)
    have hafter := hsettled after
      (fun token htoken => List.mem_append_right _ (.tail _ htoken))
      (List.count_eq_zero.mp hcounts.2)
    rcases List.eq_nil_or_concat' before with rfl | ⟨first, last, rfl⟩
    · exact absurd rfl hhead
    · rw [List.forall_mem_append, List.forall_mem_singleton] at hbefore
      have hlast := head?_expansion_settled hbefore.2 ('*' :: after.flatMap Token.expansion)
      simp only [List.flatMap_append, List.flatMap_cons, List.flatMap_nil, List.append_nil,
        List.append_assoc]
      rw [flatMap_matcher_settled hbefore.1, flatMap_matcher_settled hafter]
      have hsingle : ∀ token ∈ [last], token.isSettled = true := by simpa using hbefore.2
      have hone := flatMap_matcher_settled hsingle
      simp only [List.flatMap_cons, List.flatMap_nil, List.append_nil] at hone
      rw [hone]
      exact (expandLabel_settled hbefore.1 hlast).trans
        (congrArg _ (expandLabel_label hbefore.2 _))
  · have hall := hsettled tokens (List.Subset.refl _) hmem
    have hnil : ([] : List Char).head? ≠ some '*' := by simp
    have hexpand := expandLabel_settled hall hnil
    rw [List.append_nil] at hexpand
    rw [hexpand, flatMap_matcher_settled hall]
    exact List.append_nil _

/-! ## Lowering -/

/-- Where at most one label wildcard is left and it does not come first, a glob
without dots is lowered token by token. -/
theorem compileChars_eq {glob : List Char} (hdot : '.' ∉ glob)
    (hcount : (tokens glob).count .label ≤ 1) (hhead : (tokens glob).head? ≠ some .label) :
    compileChars glob = '^' :: ((tokens glob).flatMap Token.matcher ++ ['$']) := by
  have hliteral : ∀ c, .literal c ∈ tokens glob → c ≠ '*' ∧ c ≠ '.' := by
    intro c hc
    obtain ⟨hglob, hstar⟩ := mem_of_literal_mem_tokens hc
    refine ⟨hstar, ?_⟩
    rintro rfl
    exact hdot hglob
  rw [compileChars, expandRuns_expandSegments, expandLabel_eq hliteral hcount hhead]

end Glob
end IndexBench
