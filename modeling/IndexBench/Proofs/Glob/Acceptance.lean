import IndexBench.Proofs.Glob.Meaning
import IndexBench.Proofs.Glob.Scan
import IndexBench.Proofs.Store.Counting
import Mathlib.Data.List.Chain

/-!
# Matchers that are always accepted

A star that no rule replaces goes into the matcher as it is, where it repeats whatever stands
before it.  The caret at the start can be repeated, and so can a character, a dot, a group and
a run, so there is always something to repeat.  No two stars that are left stand side by
side, so they do not nest the matcher more deeply than the notation allows.

Main definitions:

- `Token.Apart` says that of two tokens not both are label wildcards.
- `Token.isSpelled` says that a token has no notation of its own other than a dot.

Main results:

- Theorem `isChain_tokens`: no two label wildcards stand side by side.
- Theorem `reaches_expansions`: tokens whose stars are left are read behind any piece that can
  be repeated.
- Theorem `compile_readable`: the matcher of a glob of stars, dots and characters that stand
  for themselves is refused for its size only, and otherwise no query fails because of it.
-/

namespace IndexBench
namespace Glob

open Regex

/-! ## Stars that are left -/

/-- Whether of two tokens not both are label wildcards. -/
def Token.Apart (first second : Token) : Prop :=
  ¬(first = .label ∧ second = .label)

/-- The second rule leaves a star at the start only where there was one. -/
theorem head?_takeRuns_ne {tokens : List Token} (h : tokens.head? ≠ some (.literal '*')) :
    (takeRuns tokens).head? ≠ some (.literal '*') := by
  cases tokens with
  | nil => exact h
  | cons token rest =>
      rw [takeRuns_cons fun htoken => h (congrArg some htoken)]
      exact h

/-- The second rule leaves no two stars side by side. -/
theorem isChain_takeRuns (tokens : List Token) :
    (takeRuns tokens).IsChain fun first second =>
      ¬(first = .literal '*' ∧ second = .literal '*') := by
  fun_induction takeRuns tokens with
  | case1 rest ih => exact ih.cons fun _ _ hstars => by cases hstars.1
  | case2 token rest hne ih =>
      refine ih.cons fun second hsecond hstars => ?_
      obtain ⟨rfl, rfl⟩ := hstars
      refine head?_takeRuns_ne (fun hhead => ?_) hsecond
      obtain ⟨tail, rfl⟩ := List.head?_eq_some_iff.mp hhead
      exact hne tail rfl rfl
  | case3 => exact .nil

/-- Before the third rule there are no label wildcards. -/
theorem label_notMem_takeRuns {tokens : List Token}
    (h : ∀ token ∈ tokens, token.isEarly = true) : Token.label ∉ takeRuns tokens := by
  fun_induction takeRuns tokens with
  | case1 rest ih =>
      rw [List.forall_mem_cons, List.forall_mem_cons] at h
      exact List.not_mem_cons_of_ne_of_not_mem (by simp) (ih h.2.2)
  | case2 token rest hne ih =>
      rw [List.forall_mem_cons] at h
      refine List.not_mem_cons_of_ne_of_not_mem ?_ (ih h.2)
      rintro rfl
      cases h.1
  | case3 => exact List.not_mem_nil

/-- No two label wildcards stand side by side. -/
theorem isChain_tokens (glob : List Char) : (tokens glob).IsChain Token.Apart := by
  have hnone := label_notMem_takeRuns (isEarly_of_mem_takeSegments glob)
  have hstar : ∀ token ∈ takeRuns (takeSegments glob), takeLabel token = .label →
      token = .literal '*' := by
    intro token htoken hlabel
    unfold takeLabel at hlabel
    split at hlabel
    · rfl
    · exact absurd (hlabel ▸ htoken) hnone
  rw [tokens, List.isChain_map]
  refine (isChain_takeRuns _).imp_of_mem_imp fun first second hfirst hsecond hapart hlabels => ?_
  exact hapart ⟨hstar first hfirst hlabels.1, hstar second hsecond hlabels.2⟩

/-! ## Reading what is left -/

/-- Whether a token is spelled with dots, stars and what stands for itself in patterns. -/
def Token.isSpelled : Token → Bool
  | literal c => c == '.' || isLiteral c
  | _ => true

/-- The text of spelled tokens does not start with a question mark, unless what follows
does. -/
theorem head?_expansions_ne {tokens : List Token} (h : ∀ token ∈ tokens, token.isSpelled = true)
    {rest : List Char} (hrest : rest.head? ≠ some '?') :
    (tokens.flatMap Token.expansion ++ rest).head? ≠ some '?' := by
  cases tokens with
  | nil => exact hrest
  | cons token tokens =>
      have htoken : token.isSpelled = true := h token List.mem_cons_self
      cases token with
      | literal c =>
          intro hc
          obtain rfl : c = '?' := Option.some.inj hc
          exact absurd htoken (by decide)
      | segments => simp [Token.expansion, segmentsMatcher]
      | run => simp [Token.expansion, runMatcher]
      | label => simp [Token.expansion]

/-- A spelled token other than a label wildcard is read as a piece that can be repeated. -/
theorem exists_reaches_expansion {token : Token} (h : token.isSpelled = true)
    (hlabel : token ≠ .label) {reader : Reader} (hflags : reader.flags = .initial)
    {rest : List Char} (hrest : rest.head? ≠ some '?') :
    ∃ part : Part, part.repeatable = true ∧ part.depth ≤ 4 ∧
      Reader.Reaches reader (token.expansion ++ rest) (reader.add part) rest := by
  cases token with
  | literal c =>
      rcases Bool.or_eq_true_iff.mp h with hdot | hliteral
      · obtain rfl : c = '.' := beq_iff_eq.mp hdot
        exact ⟨_, rfl, Nat.zero_le 4, Reader.reaches_dot hflags rest⟩
      · exact ⟨_, rfl, Nat.zero_le 4, Reader.reaches_literal hflags hliteral rest⟩
  | segments =>
      have hread : Reader.Reaches reader (Token.segments.matcher ++ rest)
          (reader.add Token.segments.part) rest := reaches_matcher hflags rfl hrest
      exact ⟨Token.segments.part, rfl, by decide, hread⟩
  | run =>
      have hread : Reader.Reaches reader (Token.run.matcher ++ rest)
          (reader.add Token.run.part) rest := reaches_matcher hflags rfl hrest
      exact ⟨Token.run.part, rfl, by decide, hread⟩
  | label => exact absurd rfl hlabel

/-- Spelled tokens whose stars are left are read behind any piece that can be repeated.  A
star nests the piece before it one level more deeply, and no star repeats what another one
does. -/
theorem reaches_expansions {tokens : List Token} (h : ∀ token ∈ tokens, token.isSpelled = true)
    (hapart : tokens.IsChain Token.Apart) {before : List Part} {last : Part}
    (hbefore : ∀ part ∈ before, part.depth < Reader.maxDepth) (hlast : last.repeatable = true)
    (hdepth : last.depth ≤ 5) (hlabel : tokens.head? = some .label → last.depth ≤ 4)
    {rest : List Char} (hrest : rest.head? ≠ some '?') :
    ∃ parts : List Part, (∀ part ∈ parts, part.depth < Reader.maxDepth) ∧
      Reader.Reaches (Reader.start.addAll (before ++ [last]))
        (tokens.flatMap Token.expansion ++ rest) (Reader.start.addAll parts) rest := by
  have hshallow {depth : Nat} (h : depth ≤ 5) : depth < Reader.maxDepth :=
    Nat.lt_of_le_of_lt h (by decide)
  induction tokens generalizing before last with
  | nil =>
      refine ⟨before ++ [last], ?_, .refl _ _⟩
      rw [List.forall_mem_append, List.forall_mem_singleton]
      exact ⟨hbefore, hshallow hdepth⟩
  | cons token tokens ih =>
      rw [List.forall_mem_cons] at h
      rw [List.isChain_cons] at hapart
      have hnext := head?_expansions_ne h.2 hrest
      rw [List.flatMap_cons, List.append_assoc]
      by_cases htoken : token = .label
      · subst htoken
        have hflags : (Reader.start.addAll before).flags = .initial := Reader.flags_addAll _ _
        obtain ⟨parts, hparts, hreaches⟩ := ih h.2 hapart.2 hbefore
          (show (last.repeated 0 none true).repeatable = true from rfl)
          (Nat.succ_le_succ (hlabel rfl)) fun hhead => absurd ⟨rfl, rfl⟩ (hapart.1 _ hhead)
        rw [Reader.addAll_append] at hreaches ⊢
        exact ⟨parts, hparts, (Reader.reaches_star hflags hlast hnext).trans hreaches⟩
      · obtain ⟨part, hpart, hpartDepth, hread⟩ := exists_reaches_expansion h.1 htoken
          (Reader.flags_addAll Reader.start (before ++ [last])) hnext
        have hbehind : ∀ part ∈ before ++ [last], part.depth < Reader.maxDepth := by
          rw [List.forall_mem_append, List.forall_mem_singleton]
          exact ⟨hbefore, hshallow hdepth⟩
        obtain ⟨parts, hparts, hreaches⟩ := ih h.2 hapart.2 hbehind hpart
          (hpartDepth.trans (by decide)) fun _ => hpartDepth
        rw [Reader.addAll_append] at hreaches
        exact ⟨parts, hparts, hread.trans hreaches⟩

/-- The text of spelled tokens is read behind any piece that can be repeated, also if a label
wildcard among them is replaced. -/
theorem reaches_labelled {tokens : List Token} {text : List Char}
    (h : ∀ token ∈ tokens, token.isSpelled = true) (hapart : tokens.IsChain Token.Apart)
    (htext : Labelled [] tokens text) {last : Part} (hlast : last.repeatable = true)
    (hdepth : last.depth ≤ 4) {rest : List Char} (hrest : rest.head? ≠ some '?') :
    ∃ parts : List Part, (∀ part ∈ parts, part.depth < Reader.maxDepth) ∧
      Reader.Reaches (Reader.start.add last) (text ++ rest) (Reader.start.addAll parts) rest := by
  have hnone := List.forall_mem_nil fun part : Part => part.depth < Reader.maxDepth
  cases htext with
  | kept hclosed =>
      exact reaches_expansions h hapart hnone hlast (hdepth.trans (by decide)) (fun _ => hdepth)
        hrest
  | @replaced before after htokens hopens hfirst =>
      subst htokens
      rw [List.forall_mem_append, List.forall_mem_cons] at h
      have hbefore := hapart.left_of_append
      have hafter := hapart.right_of_append.tail
      rw [List.append_assoc, List.append_assoc]
      have hbracket : (labelMatcher ++ (after.flatMap Token.expansion ++ rest)).head? ≠
          some '?' := by
        simp [labelMatcher]
      obtain ⟨parts, hparts, hstart⟩ := reaches_expansions h.1 hbefore hnone hlast
        (hdepth.trans (by decide)) (fun _ => hdepth) hbracket
      have hmatcher : Reader.Reaches (Reader.start.addAll parts)
          (Token.label.matcher ++ (after.flatMap Token.expansion ++ rest))
          ((Reader.start.addAll parts).add Token.label.part)
          (after.flatMap Token.expansion ++ rest) :=
        reaches_matcher (Reader.flags_addAll Reader.start parts) rfl
          (head?_expansions_ne h.2.2 hrest)
      have hlabel : Token.label.part.repeatable = true := rfl
      obtain ⟨parts', hparts', hend⟩ := reaches_expansions h.2.2 hafter hparts hlabel
        (by decide) (fun _ => by decide) hrest
      rw [Reader.addAll_append] at hend
      exact ⟨parts', hparts', hstart.trans (hmatcher.trans hend)⟩

/-! ## Matchers -/

/-- The tokens of a glob of stars, dots and characters that stand for themselves are spelled
with them. -/
theorem isSpelled_of_mem_tokens {glob : List Char}
    (h : ∀ c ∈ glob, c = '*' ∨ c = '.' ∨ isLiteral c = true) :
    ∀ token ∈ tokens glob, token.isSpelled = true := by
  intro token htoken
  cases token with
  | literal c =>
      obtain ⟨hc, hstar⟩ := mem_of_literal_mem_tokens htoken
      rcases h c hc with rfl | rfl | hliteral
      · exact absurd rfl hstar
      · rfl
      · exact Bool.or_eq_true_iff.mpr (.inr hliteral)
  | _ => rfl

/-- The matcher of a glob of stars, dots and characters that stand for themselves can be
read. -/
theorem exists_parse_compile {glob : String}
    (h : ∀ c ∈ glob.toList, c = '*' ∨ c = '.' ∨ isLiteral c = true) :
    ∃ regex, parse (compile glob) = .ok regex := by
  have hstar : .literal '*' ∉ tokens glob.toList := fun hmem =>
    (mem_of_literal_mem_tokens hmem).2 rfl
  have hstart : (Part.boundary .textStart).repeatable = true := rfl
  have hend : ['$'].head? ≠ some '?' := by decide
  obtain ⟨parts, hparts, hlabelled⟩ := reaches_labelled (isSpelled_of_mem_tokens h)
    (isChain_tokens glob.toList) (labelText_labelled [] (tokens glob.toList)) hstart
    (by decide) hend
  have hdollar := Reader.reaches_dollar (Reader.flags_addAll Reader.start parts) []
  have hreaches : Reader.Reaches .start (compile glob).toList
      (Reader.start.addAll (parts ++ [.boundary .textEnd])) [] := by
    rw [compile, String.toList_ofList, compileChars, expandRuns_expandSegments,
      expandLabel_eq_labelText hstar, Reader.addAll_append]
    exact (Reader.reaches_caret rfl _).trans (hlabelled.trans hdollar)
  have hdepth : ∀ part ∈ parts ++ [Part.boundary .textEnd], part.depth < Reader.maxDepth := by
    rw [List.forall_mem_append, List.forall_mem_singleton]
    exact ⟨hparts, by decide⟩
  exact ⟨_, by rw [parse, parsePart_of_reaches hreaches hdepth]; rfl⟩

end Glob

/-! ## Queries -/

namespace Store
namespace Connection

/-- A query cannot be planned only because an index is missing. -/
theorem plan_ne_matcher (table : Table) (hint : Option String) (fault : Regex.Fault) :
    plan table hint ≠ .error (.matcher fault) := by
  unfold plan
  split
  · simp
  · split <;> simp

/-- Rows are selected by a matcher that is accepted. -/
theorem selectVisited_ne_error {selector : Selector} {regex : Regex}
    (hregex : Regex.compile selector.matcher = .ok regex) (rows : List Row) (fault : StoreFault) :
    selectVisited rows selector ≠ .error fault := by
  unfold selectVisited
  split
  · simp
  · simp [hregex]

/-- A query does not fail because of a matcher that is accepted. -/
theorem counts_ne_matcher (connection : Connection) (name : TableName) {selector : Selector}
    {regex : Regex} (hregex : Regex.compile selector.matcher = .ok regex) (shape : QueryShape)
    (fault : Regex.Fault) :
    connection.counts name selector shape ≠ .error (.store (.matcher fault)) := by
  have hresults (head : String) :
      (connection.noteUse name).results head name selector ≠ .error (.matcher fault) := by
    unfold results
    simp only
    split
    · simp
    · split
      · simp
      · split
        · unfold BuiltIn.absence
          split <;> simp
        · rename_i found _
          cases hplan : plan found ((connection.noteUse name).hint name) with
          | error planFault =>
              rintro ⟨⟩
              exact plan_ne_matcher _ _ fault hplan
          | ok order => exact selectVisited_ne_error hregex _ _
  have hquery (head : String) :
      (connection.noteUse name).query head name selector ≠ .error (.matcher fault) := by
    rw [query]
    cases hresult : (connection.noteUse name).results head name selector with
    | ok rows => simp [Except.map]
    | error other =>
        rintro ⟨⟩
        exact hresults head hresult
  have hfailed (outcome : Except StoreFault Nat) (h : outcome ≠ .error (.matcher fault)) :
      failed outcome ≠ .error (.store (.matcher fault)) := by
    cases outcome with
    | ok count => simp [failed]
    | error other => simpa [failed] using h
  cases shape with
  | count => exact hfailed _ (countMatches_eq_query _ name selector ▸ hquery _)
  | enumerate => exact hfailed _ (enumerateMatches_eq_query _ name selector ▸ hquery _)

/-- Executing a query on a store does not fail because of a matcher that is accepted. -/
theorem execute_ne_matcher {connection : Connection} (table : TableName) (query : RangeQuery)
    {regex : Regex} (hregex : Regex.compile query.selector.matcher = .ok regex) (shape : QueryShape)
    (stopwatch : Nat → Nat) {world : World Machine} {anchor : Anchor} {pages : Option Pages}
    (hlink : world.state.link = some (.store anchor pages connection)) (fault : Regex.Fault) :
    ((execute shape table query).run (Machine.environment stopwatch) world).1 ≠
      .error (.store (.matcher fault)) := by
  have hcount := count_execute table query shape stopwatch hlink
  have hne : connection.counts table query.selector shape ≠ .error (.store (.matcher fault)) :=
    counts_ne_matcher connection table hregex shape fault
  intro hfailed
  rw [hfailed] at hcount
  exact hne hcount.symm

end Connection
end Store

namespace Glob

open Regex

/-- The matcher of a glob whose characters are stars, dots and characters that stand for
themselves can be read, however many stars there are and wherever they stand.  It is refused
only if it is too large, and else no query on a store fails because of it, in either shape and
whatever the store holds. -/
theorem compile_readable (glob : String)
    (hplain : ∀ c ∈ glob.toList, c = '*' ∨ c = '.' ∨ isLiteral c = true) :
    ∃ regex, parse (compile glob) = .ok regex ∧
      (Regex.compile (compile glob) = .ok regex ∨
        Regex.compile (compile glob) = .error (.tooLarge Room.limit)) ∧
      (Regex.compile (compile glob) ≠ .error (.tooLarge Room.limit) →
        ∀ (low high : Int64) (shape : QueryShape) (table : TableName) (stopwatch : Nat → Nat)
          (world : World Machine) (anchor : Anchor) (pages : Option Store.Pages)
          (connection : Store.Connection),
          world.state.link = some (.store anchor pages connection) → ∀ fault,
            ((execute shape table ⟨glob, low, high⟩).run
              (Machine.environment stopwatch) world).1 ≠ .error (.store (.matcher fault))) := by
  obtain ⟨regex, hparse⟩ := exists_parse_compile hplain
  refine ⟨regex, hparse, compile_of_parse hparse, ?_⟩
  intro hsize low high shape table stopwatch world anchor pages connection hlink fault
  have hmatcher : (RangeQuery.selector ⟨glob, low, high⟩).matcher = compile glob := by
    rw [RangeQuery.selector, RangeQuery.matcher]
  have hregex : Regex.compile (RangeQuery.selector ⟨glob, low, high⟩).matcher = .ok regex := by
    rw [hmatcher]
    exact (compile_of_parse hparse).resolve_right hsize
  exact Store.Connection.execute_ne_matcher table ⟨glob, low, high⟩ hregex shape stopwatch hlink
    fault

/-- Stars at the start, behind each other, behind a dot and behind a group are all read, and a
lone star selects rows. -/
theorem compile_readable_stars :
    (∃ regex, parse (compile "*/a*.***b***/*.*") = .ok regex) ∧
      ∀ (world : World Machine) (connection : Store.Connection),
        world.state.link = some (.store .hidden none connection) → ∀ fault,
          ((execute .count ⟨"records", rfl⟩ ⟨"*", 0, 1⟩).run
            (Machine.environment fun _ => 0) world).1 ≠ .error (.store (.matcher fault)) := by
  have hplain : ∀ c ∈ "*/a*.***b***/*.*".toList, c = '*' ∨ c = '.' ∨ isLiteral c = true := by
    have hall : ("*/a*.***b***/*.*".toList.all
      fun c => c == '*' || (c == '.' || isLiteral c)) = true := by decide
    intro c hc
    simpa using List.all_eq_true.mp hall c hc
  have hlone : ∀ c ∈ "*".toList, c = '*' ∨ c = '.' ∨ isLiteral c = true :=
    fun c hc => .inl (List.mem_singleton.mp hc)
  obtain ⟨regex, hregex, -⟩ := compile_readable "*/a*.***b***/*.*" hplain
  obtain ⟨-, -, -, hqueries⟩ := compile_readable "*" hlone
  have hsize : Regex.compile (compile "*") ≠ .error (.tooLarge Room.limit) := by
    rw [show Regex.compile (compile "*") =
      .ok (.seq (.rep (.boundary .textStart) 0 none) (.boundary .textEnd)) from rfl]
    simp
  exact ⟨⟨regex, hregex⟩, fun world connection hlink =>
    hqueries hsize 0 1 .count ⟨"records", rfl⟩ (fun _ => 0) world .hidden none connection hlink⟩

end Glob
end IndexBench
