import IndexBench.Unicode.Age
import IndexBench.Unicode.Binary
import IndexBench.Unicode.CaseOrbit
import IndexBench.Unicode.Category
import IndexBench.Unicode.GraphemeBreak
import IndexBench.Unicode.Script
import IndexBench.Unicode.SentenceBreak
import IndexBench.Unicode.WordBreak

/-!
# Sets of characters

A regular expression consumes one character at a time, each tested against a
set.  Sets are kept as expressions over ranges and character properties, so
that a set is small however many characters it has.

Main definitions:

- `CharSet` is the language of sets; `CharSet.contains` is membership.
- `CharSet.word`, `CharSet.digit` and `CharSet.space` are the classes with a
  letter of their own, `CharSet.ascii?` those with a name.
-/

namespace IndexBench
namespace Regex

/-- Which characters count as equal up to case. -/
inductive Alphabet where
  | ascii
  | unicode
  deriving DecidableEq, Repr

/-- A table of character properties. -/
inductive Family where
  | category
  | script
  | scriptExtension
  | binary
  | age
  | graphemeBreak
  | wordBreak
  | sentenceBreak
  deriving DecidableEq, Repr

/-- The properties of a table. -/
def Family.table : Family → Array Unicode.Property
  | .category => Unicode.categories
  | .script => Unicode.scripts
  | .scriptExtension => Unicode.scriptExtensions
  | .binary => Unicode.binaryProperties
  | .age => Unicode.ages
  | .graphemeBreak => Unicode.graphemeBreaks
  | .wordBreak => Unicode.wordBreaks
  | .sentenceBreak => Unicode.sentenceBreaks

/-- A set of code points. -/
inductive CharSet where
  | empty
  /-- The code points from `low` to `high`, both included. -/
  | range (low high : Nat)
  /-- The characters with the property at place `index` of a table. -/
  | property (family : Family) (index : Nat)
  | complement (set : CharSet)
  | union (left right : CharSet)
  | intersection (left right : CharSet)
  | difference (left right : CharSet)
  | symmetricDifference (left right : CharSet)
  /-- The characters that differ from a member at most by case. -/
  | folded (alphabet : Alphabet) (set : CharSet)
  deriving DecidableEq, Repr

namespace CharSet

/-- The code point of the ASCII letter that differs from `c` by case alone. -/
def otherCase? (c : Nat) : Option Nat :=
  if 65 ≤ c ∧ c ≤ 90 then some (c + 32)
  else if 97 ≤ c ∧ c ≤ 122 then some (c - 32)
  else none

/-- The code points that differ from `c` at most by case. -/
def variants : Alphabet → Nat → List Nat
  | .ascii, c => c :: (otherCase? c).toList
  | .unicode, c => Unicode.orbit (Char.ofNat c)

/-- Whether a set has the code point `c`. -/
def has : CharSet → Nat → Bool
  | empty, _ => false
  | range low high, c => low ≤ c && c ≤ high
  | property family index, c => Unicode.hasProperty family.table index c
  | complement set, c => !set.has c
  | union left right, c => left.has c || right.has c
  | intersection left right, c => left.has c && right.has c
  | difference left right, c => left.has c && !right.has c
  | symmetricDifference left right, c => left.has c != right.has c
  | folded alphabet set, c => (variants alphabet c).any set.has

/-- Whether a set has a character. -/
def contains (set : CharSet) (c : Char) : Bool :=
  set.has c.toNat

/-- The set of one character. -/
def single (c : Char) : CharSet :=
  range c.toNat c.toNat

/-- The characters from `low` to `high`. -/
def between (low high : Char) : CharSet :=
  range low.toNat high.toNat

/-- The set of all characters. -/
def all : CharSet :=
  complement empty

/-- The union of several sets. -/
def unions : List CharSet → CharSet
  | [] => empty
  | [set] => set
  | set :: sets => union set (unions sets)

/-- A set or its complement. -/
def negatedIf (negated : Bool) (set : CharSet) : CharSet :=
  if negated then complement set else set

/-- Whether every byte of a set is an ASCII character. -/
def asciiOnly (set : CharSet) : Bool :=
  (List.range 128).all fun c => !set.has (128 + c)

/-! ## Classes with a letter -/

/-- The property called `name` of a table. -/
def named (family : Family) (name : String) : CharSet :=
  match Unicode.find? family.table name with
  | some index => property family index
  | none => empty

/-- The decimal digits. -/
def digit : Alphabet → CharSet
  | .ascii => between '0' '9'
  | .unicode => named .category "nd"

/-- The white space characters. -/
def space : Alphabet → CharSet
  | .ascii => union (range 9 13) (single ' ')
  | .unicode => named .binary "whitespace"

/-- The characters of words. -/
def word : Alphabet → CharSet
  | .ascii => unions [between '0' '9', between 'A' 'Z', single '_', between 'a' 'z']
  | .unicode =>
      unions
        [named .binary "alphabetic", named .category "mn", named .category "mc",
          named .category "me", named .category "nd", named .category "pc",
          named .binary "joincontrol"]

/-! ## Classes with a name -/

/-- The ASCII class called `name`. -/
def ascii? (name : String) : Option CharSet :=
  let digits := between '0' '9'
  let upper := between 'A' 'Z'
  let lower := between 'a' 'z'
  match name with
  | "alnum" => some (unions [digits, upper, lower])
  | "alpha" => some (unions [upper, lower])
  | "ascii" => some (range 0 127)
  | "blank" => some (unions [single '\t', single ' '])
  | "cntrl" => some (unions [range 0 31, range 127 127])
  | "digit" => some digits
  | "graph" => some (between '!' '~')
  | "lower" => some lower
  | "print" => some (between ' ' '~')
  | "punct" => some (unions [between '!' '/', between ':' '@', between '[' '\x60', range 123 126])
  | "space" => some (unions [range 9 13, single ' '])
  | "upper" => some upper
  | "word" => some (word .ascii)
  | "xdigit" => some (unions [digits, between 'A' 'F', between 'a' 'f'])
  | _ => none

end CharSet
end Regex
end IndexBench
