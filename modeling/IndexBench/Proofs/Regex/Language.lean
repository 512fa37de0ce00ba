import IndexBench.Proofs.Regex.Route

/-!
# What expressions describe

An expression describes pieces of texts: a piece stands between what comes before
it and what comes after it, at which boundaries may look.  This module says so by
the structure of the expression alone and shows that searching a text finds
exactly the texts with such a piece.

Main definitions:

- `Regex.Describes` says whether an expression describes a piece of a text.
- `Regex.Ordered` holds if the bounds of every repetition are in order.

Main results:

- Theorem `Regex.leads_route_iff`: the route of an expression leads from the
  start of a piece to its end exactly if the expression describes it.
- Theorem `Regex.isMatch_iff`: a text matches exactly if some piece of it is
  described.
-/

namespace IndexBench
namespace Regex

/-! ## Descriptions -/

/-- What it takes of a piece, with the text before and after it, to be
described. -/
abbrev Description : Type := List Char → List Char → List Char → Prop

/-- Whether a piece falls into a number of pieces in a row that are described. -/
def Times (body : Description) : Nat → Description
  | 0, _, piece, _ => piece = []
  | n + 1, before, piece, after =>
      ∃ first rest, piece = first ++ rest ∧ body before first (rest ++ after) ∧
        Times body n (before ++ first) rest after

/-- Whether an expression describes a piece of a text. -/
def Describes : Regex → Description
  | empty, _, piece, _ => piece = []
  | chars set, _, piece, _ => ∃ c, piece = [c] ∧ set.contains c = true
  | boundary condition, before, piece, after =>
      piece = [] ∧ condition.holds ⟨before.getLast?, after.head?⟩ = true
  | seq first second, before, piece, after =>
      ∃ u v, piece = u ++ v ∧ first.Describes before u (v ++ after) ∧
        second.Describes (before ++ u) v after
  | alt left right, before, piece, after =>
      left.Describes before piece after ∨ right.Describes before piece after
  | rep body min max, before, piece, after =>
      ∃ n, min ≤ n ∧ (∀ bound ∈ max, n ≤ bound) ∧ Times body.Describes n before piece after

/-- Whether the bounds of every repetition are in order. -/
def Ordered : Regex → Prop
  | empty => True
  | chars _ => True
  | boundary _ => True
  | seq first second => first.Ordered ∧ second.Ordered
  | alt left right => left.Ordered ∧ right.Ordered
  | rep body min max => body.Ordered ∧ ∀ bound ∈ max, min ≤ bound

/-! ## Marks along a text -/

/-- The mark of a position inside a text is that of the character there. -/
theorem testBit_marks_iff (text : List Char) (set : CharSet) (i : Nat) :
    (Positions.ofMarks (text.map set.contains)).testBit i = true ↔
      ∃ c, text[i]? = some c ∧ set.contains c = true := by
  rw [Positions.testBit_ofMarks, List.getD_eq_getElem?_getD, List.getElem?_map]
  cases text[i]? <;> simp

/-- What stands around the position between two parts of a text. -/
theorem getElem?_contexts (start : Option Char) (before rest : List Char) :
    (contexts start (before ++ rest))[before.length]? =
      some ⟨before.getLast?.or start, rest.head?⟩ := by
  induction before generalizing start with
  | nil => cases rest <;> rfl
  | cons c before ih =>
      have hlast : (c :: before).getLast?.or start = before.getLast?.or (some c) := by
        rw [List.getLast?_cons]
        cases before.getLast? <;> rfl
      rw [List.cons_append, contexts, List.length_cons, List.getElem?_cons_succ, ih, hlast]

/-- The mark of a position between two parts of a text is whether the boundary
holds there. -/
theorem testBit_contexts_iff (before rest : List Char) (condition : Boundary) :
    (Positions.ofMarks ((contexts none (before ++ rest)).map condition.holds)).testBit
        before.length = true ↔
      condition.holds ⟨before.getLast?, rest.head?⟩ = true := by
  rw [Positions.testBit_ofMarks, List.getD_eq_getElem?_getD, List.getElem?_map, getElem?_contexts]
  simp

/-! ## Routes of expressions -/

/-- The bound that stands for a missing one is in order, too. -/
theorem le_getD_of_ordered {min : Nat} {max : Option Nat} (h : ∀ bound ∈ max, min ≤ bound)
    (length : Nat) : min ≤ max.getD (min + length + 1) := by
  cases max with
  | none =>
      rw [Option.getD_none]
      omega
  | some bound => exact h bound rfl

/-- A position inside a piece splits it. -/
theorem exists_split {piece : List Char} {start k : Nat} (hstart : start ≤ k)
    (hend : k ≤ start + piece.length) :
    ∃ first rest, piece = first ++ rest ∧ k = start + first.length := by
  refine ⟨piece.take (k - start), piece.drop (k - start), (List.take_append_drop _ _).symm, ?_⟩
  rw [List.length_take]
  omega

/-- The route of an expression has its bounds in order if the expression does. -/
theorem ordered_route {regex : Regex} (h : regex.Ordered) (text : List Char) :
    (regex.route text).Ordered := by
  induction regex with
  | empty => trivial
  | chars set => trivial
  | boundary condition => trivial
  | seq first second ihFirst ihSecond => exact ⟨ihFirst h.1, ihSecond h.2⟩
  | alt left right ihLeft ihRight => exact ⟨ihLeft h.1, ihRight h.2⟩
  | rep body min max ih =>
      exact Route.ordered_repeated (ih h.1) (le_getD_of_ordered h.2 text.length)

/-- A route along a text does not lead beyond its end. -/
theorem le_length_of_leads {regex : Regex} (h : regex.Ordered) {text : List Char} {i j : Nat}
    (hi : i ≤ text.length) (hleads : (regex.route text).Leads i j) : j ≤ text.length := by
  induction regex generalizing i j with
  | empty => exact hleads ▸ hi
  | chars set =>
      obtain ⟨c, hc, -⟩ := (testBit_marks_iff text set i).mp hleads.1
      obtain ⟨hlt, -⟩ := List.getElem?_eq_some_iff.mp hc
      exact hleads.2 ▸ hlt
  | boundary condition => exact hleads.2 ▸ hi
  | seq first second ihFirst ihSecond =>
      obtain ⟨k, hfirst, hsecond⟩ := hleads
      exact ihSecond h.2 (ihFirst h.1 hi hfirst) hsecond
  | alt left right ihLeft ihRight =>
      rcases hleads with hleads | hleads
      · exact ihLeft h.1 hi hleads
      · exact ihRight h.2 hi hleads
  | rep body min max ih =>
      have hbound := le_getD_of_ordered h.2 text.length
      obtain ⟨n, -, -, hrounds⟩ :=
        (Route.leads_repeated (ordered_route h.1 text) hbound i j).mp hleads
      clear hleads
      induction n generalizing i with
      | zero => exact hrounds ▸ hi
      | succ n ihRounds =>
          obtain ⟨k, hfirst, hrest⟩ := hrounds
          exact ihRounds (ih h.1 hi hfirst) hrest

/-- Rounds of a route along a text are as many described pieces in a row. -/
theorem rounds_iff_times {body : Regex} {text : List Char}
    (hbody : ∀ before piece after, text = before ++ piece ++ after →
      ((body.route text).Leads before.length (before.length + piece.length) ↔
        body.Describes before piece after))
    (n : Nat) {before piece after : List Char} (htext : text = before ++ piece ++ after) :
    Rounds (body.route text).Leads n before.length (before.length + piece.length) ↔
      Times body.Describes n before piece after := by
  induction n generalizing before piece with
  | zero => simp [Rounds, Times]
  | succ n ih =>
      constructor
      · rintro ⟨k, hfirst, hrest⟩
        have hk : before.length ≤ k := Route.le_of_leads hfirst
        have hk' : k ≤ before.length + piece.length := hrest.le fun _ _ => Route.le_of_leads
        -- The first round ends inside the piece and splits it there.
        obtain ⟨first, rest, rfl, rfl⟩ := exists_split hk hk'
        refine ⟨first, rest, rfl, ?_, ?_⟩
        · exact (hbody before first (rest ++ after) (by simp [htext])).mp hfirst
        · refine (ih (by simp [htext])).mp ?_
          simp only [List.length_append, Nat.add_assoc] at hrest ⊢
          exact hrest
      · rintro ⟨first, rest, rfl, hfirst, hrest⟩
        have hrounds := (ih (by simp [htext])).mpr hrest
        refine ⟨before.length + first.length,
          (hbody before first (rest ++ after) (by simp [htext])).mpr hfirst, ?_⟩
        simp only [List.length_append, Nat.add_assoc] at hrounds ⊢
        exact hrounds

/-- Without an upper bound there need not be more rounds than positions. -/
theorem exists_rounds_iff {route : Route} {min length : Nat} {max : Option Nat} {i j : Nat}
    (hj : j ≤ length) :
    (∃ n, min ≤ n ∧ n ≤ max.getD (min + length + 1) ∧ Rounds route.Leads n i j) ↔
      ∃ n, min ≤ n ∧ (∀ bound ∈ max, n ≤ bound) ∧ Rounds route.Leads n i j := by
  cases max with
  | some bound => simp
  | none =>
      constructor
      · rintro ⟨n, hmin, -, hrounds⟩
        exact ⟨n, hmin, by simp, hrounds⟩
      · rintro ⟨n, hmin, -, hrounds⟩
        obtain ⟨m, rfl⟩ := Nat.exists_eq_add_of_le hmin
        obtain ⟨k, hfirst, hrest⟩ := (Rounds.add_iff min m i j).mp hrounds
        obtain ⟨l, hl, hshort⟩ := hrest.contract fun _ _ => Route.le_of_leads
        refine ⟨min + l, by omega, ?_, (Rounds.add_iff min l i j).mpr ⟨k, hfirst, hshort⟩⟩
        rw [Option.getD_none]
        omega

/-- The route of an expression leads from the start of a piece to its end exactly
if the expression describes the piece. -/
theorem leads_route_iff {regex : Regex} (h : regex.Ordered) {text : List Char}
    (before piece after : List Char) (htext : text = before ++ piece ++ after) :
    (regex.route text).Leads before.length (before.length + piece.length) ↔
      regex.Describes before piece after := by
  induction regex generalizing before piece after with
  | empty => simp [route, Route.Leads, Describes]
  | chars set =>
      rw [route, Route.Leads, testBit_marks_iff, Describes, htext, List.append_assoc,
        List.getElem?_append_right le_rfl, Nat.sub_self]
      cases piece with
      | nil => simp
      | cons c rest => simp [and_comm]
  | boundary condition =>
      rw [route, Route.Leads, Describes, htext, List.append_assoc, testBit_contexts_iff]
      cases piece with
      | nil => simp
      | cons c rest => simp
  | seq first second ihFirst ihSecond =>
      constructor
      · rintro ⟨k, hfirst, hsecond⟩
        have hk : before.length ≤ k := Route.le_of_leads hfirst
        have hk' : k ≤ before.length + piece.length := Route.le_of_leads hsecond
        obtain ⟨u, v, rfl, rfl⟩ := exists_split hk hk'
        refine ⟨u, v, rfl, (ihFirst h.1 before u (v ++ after) (by simp [htext])).mp hfirst, ?_⟩
        refine (ihSecond h.2 (before ++ u) v after (by simp [htext])).mp ?_
        simp only [List.length_append, Nat.add_assoc] at hsecond ⊢
        exact hsecond
      · rintro ⟨u, v, rfl, hfirst, hsecond⟩
        have hlast := (ihSecond h.2 (before ++ u) v after (by simp [htext])).mpr hsecond
        refine ⟨before.length + u.length,
          (ihFirst h.1 before u (v ++ after) (by simp [htext])).mpr hfirst, ?_⟩
        simp only [List.length_append, Nat.add_assoc] at hlast ⊢
        exact hlast
  | alt left right ihLeft ihRight =>
      rw [route, Route.Leads, Describes, ihLeft h.1 before piece after htext,
        ihRight h.2 before piece after htext]
  | rep body min max ih =>
      have hbound := le_getD_of_ordered h.2 text.length
      have hend : before.length + piece.length ≤ text.length := by
        simp [htext]
      rw [route, Route.leads_repeated (ordered_route h.1 text) hbound, exists_rounds_iff hend]
      simp only [Describes, rounds_iff_times (ih h.1) _ htext]

/-! ## Searching -/

/-- All positions of a text are those up to its end. -/
theorem testBit_everywhere_iff (text : List Char) (i : Nat) :
    (everywhere text).testBit i = true ↔ i ≤ text.length := by
  rw [everywhere, Positions.testBit_ofMarks, List.getD_eq_getElem?_getD, List.getElem?_replicate]
  split <;> simp <;> omega

/-- A text matches exactly if some piece of it is described. -/
theorem isMatch_iff {regex : Regex} (h : regex.Ordered) (text : String) :
    regex.isMatch text = true ↔
      ∃ before piece after, text.toList = before ++ piece ++ after ∧
        regex.Describes before piece after := by
  have hrun := Route.testBit_run (ordered_route h text.toList) (everywhere text.toList)
  rw [isMatch, bne_iff_ne]
  constructor
  · intro hne
    obtain ⟨j, hj⟩ := Nat.exists_testBit_of_ne_zero hne
    obtain ⟨i, hi, hleads⟩ := (hrun j).mp hj
    have hi' : i ≤ text.toList.length := (testBit_everywhere_iff _ i).mp hi
    have hij : i ≤ j := Route.le_of_leads hleads
    have hj' : j ≤ text.toList.length := le_length_of_leads h hi' hleads
    -- The positions where the match starts and ends cut the text into three.
    obtain ⟨before, piece, after, htext, rfl, rfl⟩ :
        ∃ before piece after, text.toList = before ++ piece ++ after ∧ i = before.length ∧
          j = before.length + piece.length := by
      refine ⟨text.toList.take i, (text.toList.drop i).take (j - i),
        (text.toList.drop i).drop (j - i), ?_, ?_, ?_⟩
      · rw [List.append_assoc, List.take_append_drop, List.take_append_drop]
      · rw [List.length_take]
        omega
      · rw [List.length_take, List.length_take, List.length_drop]
        omega
    exact ⟨before, piece, after, htext, (leads_route_iff h before piece after htext).mp hleads⟩
  · rintro ⟨before, piece, after, htext, hdescribes⟩ hzero
    have hleads := (leads_route_iff h before piece after htext).mpr hdescribes
    have hstart : before.length ≤ text.toList.length := by
      rw [htext, List.append_assoc, List.length_append]
      exact Nat.le_add_right _ _
    have hbit := (hrun _).mpr ⟨before.length, (testBit_everywhere_iff _ _).mpr hstart, hleads⟩
    rw [hzero, Nat.zero_testBit] at hbit
    cases hbit

end Regex
end IndexBench
