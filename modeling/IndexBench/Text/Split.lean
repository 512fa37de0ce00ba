/-!
# Splitting texts

Addresses and paths are texts with a character between their parts.

Main definitions:

- `Text.splitOn` splits at every occurrence of a character.
- `Text.before` and `Text.after` split at the first one.
- `Text.afterStart?` takes a start off a text.

Main results:

- Theorem `Text.intercalate_splitOn`: putting the character back between the parts gives the text.
- Theorem `Text.afterStart?_eq_some`: what follows a start is the rest of the text.
-/

namespace IndexBench
namespace Text

/-- Splits a text at every occurrence of a character. -/
def splitOn (separator : Char) : List Char → List (List Char)
  | [] => [[]]
  | c :: rest =>
      if c = separator then [] :: splitOn separator rest
      else
        match splitOn separator rest with
        | [] => [[c]]
        | part :: parts => (c :: part) :: parts

/-- The part of a text before the first occurrence of a character. -/
def before (separator : Char) (cs : List Char) : List Char :=
  cs.takeWhile (· != separator)

/-- The part of a text after the first occurrence of a character, of which there
is none if the character does not occur. -/
def after (separator : Char) (cs : List Char) : List Char :=
  (cs.dropWhile (· != separator)).drop 1

/-- What follows a given start of a text, if the text has that start. -/
def afterStart? : List Char → List Char → Option (List Char)
  | [], rest => some rest
  | _ :: _, [] => none
  | s :: start, c :: rest => if s = c then afterStart? start rest else none

/-- A text has a part, if only an empty one. -/
theorem splitOn_ne_nil (separator : Char) (cs : List Char) : splitOn separator cs ≠ [] := by
  cases cs with
  | nil => simp [splitOn]
  | cons c rest =>
      unfold splitOn
      split
      · simp
      · split <;> simp

/-- Putting the character back between the parts gives the text. -/
theorem intercalate_splitOn (separator : Char) (cs : List Char) :
    List.intercalate [separator] (splitOn separator cs) = cs := by
  induction cs with
  | nil => rfl
  | cons c rest ih =>
      unfold splitOn
      cases h : splitOn separator rest with
      | nil => exact absurd h (splitOn_ne_nil separator rest)
      | cons part parts =>
          rw [h] at ih
          split
          · rename_i hc
            rw [List.intercalate_cons_cons, ih, hc]
            rfl
          · cases parts with
            | nil => simpa [List.intercalate] using ih
            | cons other parts =>
                rw [List.intercalate_cons_cons] at ih ⊢
                simp only [List.cons_append, ← ih]

/-- What follows a start is the rest of the text. -/
theorem afterStart?_eq_some {start cs rest : List Char} :
    afterStart? start cs = some rest ↔ cs = start ++ rest := by
  induction start generalizing cs with
  | nil => simp [afterStart?, eq_comm]
  | cons s start ih =>
      cases cs with
      | nil => simp [afterStart?]
      | cons c cs =>
          unfold afterStart?
          by_cases h : s = c
          · simp [h, ih]
          · simp [h, eq_comm]

end Text
end IndexBench
