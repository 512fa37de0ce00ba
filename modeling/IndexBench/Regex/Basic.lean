import IndexBench.Regex.Boundary

/-!
# Regular expressions

A regular expression describes parts of texts.  Which parts of one text it
describes is found by following it from a set of positions to the positions
where the parts end.

Main definitions:

- `Regex` is the language of expressions.
- `Positions` is a set of positions of a text.
- `Route` is an expression seen along one text: each character set is replaced
  by the positions where a character of the set stands.
- `Route.run` follows a route, `Regex.isMatch` searches a text.

Main results:

- Theorem `Positions.testBit_ofMarks`: a set of positions has those that are marked.
- Theorems `Route.iterate_succ` and `Route.gather_succ`: rounds that change
  nothing may be left out.
-/

namespace IndexBench

/-- A regular expression. -/
inductive Regex where
  | empty
  /-- One character of a set. -/
  | chars (set : Regex.CharSet)
  /-- Nothing, at a position of a certain kind. -/
  | boundary (condition : Regex.Boundary)
  | seq (first second : Regex)
  | alt (left right : Regex)
  /-- At least `min` times in a row and, if there is a bound, at most `max` times. -/
  | rep (body : Regex) (min : Nat) (max : Option Nat)
  deriving DecidableEq, Repr

namespace Regex

/-! ## Positions -/

/-- A set of positions of a text: position `i` belongs to it if bit `i` of the
number is set. -/
abbrev Positions : Type := Nat

namespace Positions

/-- The positions that are marked. -/
def ofMarks (marks : List Bool) : Positions :=
  marks.foldr (fun mark rest => 2 * rest + mark.toNat) 0

/-- The positions after those of a set. -/
def next (positions : Positions) : Positions :=
  2 * positions

/-- A set of positions has those that are marked. -/
theorem testBit_ofMarks (marks : List Bool) (i : Nat) :
    (ofMarks marks).testBit i = marks.getD i false := by
  induction marks generalizing i with
  | nil => simp [ofMarks]
  | cons mark marks ih =>
      have hcons : ofMarks (mark :: marks) = 2 * ofMarks marks + mark.toNat := rfl
      cases i with
      | zero =>
          rw [hcons, Nat.testBit_zero]
          cases mark <;> simp
      | succ i =>
          have hdiv : ∀ n : Nat, (2 * n + mark.toNat) / 2 = n := by
            intro n
            cases mark
            · simp
            · simp
              omega
          rw [Nat.testBit_succ, hcons, hdiv, ih]
          rfl

/-- A position follows those before it. -/
theorem testBit_next (positions : Positions) (i : Nat) :
    (next positions).testBit (i + 1) = positions.testBit i := by
  rw [Nat.testBit_succ, next, Nat.mul_div_cancel_left _ (by decide)]

/-- The first position follows none. -/
theorem testBit_next_zero (positions : Positions) : (next positions).testBit 0 = false := by
  simp [next, Nat.testBit_zero]

end Positions

/-! ## Routes -/

/-- An expression seen along one text. -/
inductive Route where
  | stay
  /-- One character on, from positions of a set. -/
  | advance (start : Positions)
  /-- No character on, at positions of a set. -/
  | pause (place : Positions)
  | seq (first second : Route)
  | alt (left right : Route)
  | rep (body : Route) (min max : Nat)
  deriving DecidableEq, Repr

namespace Route

/-- Takes a step a number of times.  A step that changes nothing will not change
anything later. -/
def iterate (step : Positions → Positions) : Nat → Positions → Positions
  | 0, positions => positions
  | n + 1, positions =>
      let reached := step positions
      if reached = positions then positions else iterate step n reached

/-- The positions reached by taking a step up to a number of times. -/
def gather (step : Positions → Positions) : Nat → Positions → Positions
  | 0, positions => positions
  | n + 1, positions =>
      let reached := positions ||| step positions
      if reached = positions then positions else gather step n reached

/-- A step that changes nothing may be taken any number of times. -/
theorem iterate_of_fixed {step : Positions → Positions} {positions : Positions}
    (h : step positions = positions) (n : Nat) : iterate step n positions = positions := by
  cases n with
  | zero => rfl
  | succ n => simp [iterate, h]

/-- Taking a step once more is taking it once before. -/
theorem iterate_succ (step : Positions → Positions) (n : Nat) (positions : Positions) :
    iterate step (n + 1) positions = iterate step n (step positions) := by
  simp only [iterate]
  split
  · rename_i h
    rw [h, iterate_of_fixed h]
  · rfl

/-- Where a step leads to nothing new, neither do more of them. -/
theorem gather_of_fixed {step : Positions → Positions} {positions : Positions}
    (h : positions ||| step positions = positions) (n : Nat) :
    gather step n positions = positions := by
  cases n with
  | zero => rfl
  | succ n => simp [gather, h]

/-- One more round starts from what one step leads to. -/
theorem gather_succ (step : Positions → Positions) (n : Nat) (positions : Positions) :
    gather step (n + 1) positions = gather step n (positions ||| step positions) := by
  simp only [gather]
  split
  · rename_i h
    rw [h, gather_of_fixed h]
  · rfl

/-- The positions where a route ends that starts at one of some positions. -/
def run : Route → Positions → Positions
  | stay, positions => positions
  | advance start, positions => (positions &&& start).next
  | pause place, positions => positions &&& place
  | seq first second, positions => second.run (first.run positions)
  | alt left right, positions => left.run positions ||| right.run positions
  | rep body min max, positions =>
      if positions = 0 then 0
      else
        gather (fun reached => body.run reached) (max - min)
          (iterate (fun reached => body.run reached) min positions)

/-- A route repeated from `min` to `max` times.  A repetition of a repetition is
one repetition if the numbers of rounds that it allows have no gap between
them. -/
def repeated (body : Route) (min max : Nat) : Route :=
  match body with
  | rep inner low high =>
      if min = max ∨ low * (min + 1) ≤ high * min + 1 then rep inner (low * min) (high * max)
      else rep body min max
  | _ => rep body min max

end Route

/-! ## Searching -/

/-- What stands before and after the positions of a text, from the position
after the character `before` on. -/
def contexts (before : Option Char) : List Char → List Context
  | [] => [⟨before, none⟩]
  | c :: rest => ⟨before, some c⟩ :: contexts (some c) rest

/-- The route of an expression along a text.  More rounds than there are
positions lead to nothing new. -/
def route (text : List Char) : Regex → Route
  | empty => .stay
  | chars set => .advance (.ofMarks (text.map set.contains))
  | boundary condition => .pause (.ofMarks ((contexts none text).map condition.holds))
  | seq first second => .seq (first.route text) (second.route text)
  | alt left right => .alt (left.route text) (right.route text)
  | rep body min max => .repeated (body.route text) min (max.getD (min + text.length + 1))

/-- All positions of a text. -/
def everywhere (text : List Char) : Positions :=
  .ofMarks (List.replicate (text.length + 1) true)

/-- Whether an expression describes some part of a text. -/
def isMatch (regex : Regex) (text : String) : Bool :=
  (regex.route text.toList).run (everywhere text.toList) != 0

end Regex
end IndexBench
