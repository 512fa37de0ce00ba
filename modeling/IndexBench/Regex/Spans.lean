import IndexBench.Regex.CharSet

/-!
# Spans of character sets

The members of a set form spans of neighbours.  In UTF-8 a span falls apart
into a few encodings, each a range of bytes after another, which say how large
an automaton for the set is.

Main definitions:

- `CharSet.spans` are the spans of a set, in order and apart from each other.
- `Span.characters` leaves out what is no character.
- `Span.encodings` are the encodings of a span.
-/

namespace IndexBench
namespace Regex

/-- The code points from the first to the second. -/
abbrev Span : Type := Nat × Nat

/-- The encoding of a part of a span: a range for each byte. -/
abbrev Encoding : Type := List (Nat × Nat)

/-- The greatest code point. -/
def lastCodePoint : Nat := 0x10FFFF

namespace Span

/-! ## Sets as spans -/

/-- Joins a span with the spans after it that overlap or touch it. -/
def joinOnto (first : Span) : List Span → List Span
  | [] => [first]
  | next :: rest =>
      if next.1 ≤ first.2 + 1 then joinOnto (first.1, max first.2 next.2) rest
      else first :: joinOnto next rest

/-- The spans of the members of any spans. -/
def join (spans : List Span) : List Span :=
  match spans.mergeSort fun a b => a.1 ≤ b.1 with
  | [] => []
  | first :: rest => joinOnto first rest

/-- The spans between spans, from a code point on. -/
def gapsFrom (start : Nat) : List Span → List Span
  | [] => if start ≤ lastCodePoint then [(start, lastCodePoint)] else []
  | span :: rest =>
      (if start < span.1 then [(start, span.1 - 1)] else []) ++ gapsFrom (span.2 + 1) rest

/-- The spans of the code points that are in none of the spans. -/
def gaps (spans : List Span) : List Span :=
  gapsFrom 0 spans

/-- The spans of the code points that are in two lists of spans. -/
def common (left right : List Span) : List Span :=
  gaps (join (gaps left ++ gaps right))

/-- The number of code points in spans. -/
def count (spans : List Span) : Nat :=
  spans.foldl (fun n span => n + (span.2 + 1 - span.1)) 0

/-- The code points of spans. -/
def members (spans : List Span) : List Nat :=
  spans.flatMap fun span => (List.range (span.2 + 1 - span.1)).map (span.1 + ·)

/-- The surrogates, which are no characters. -/
def surrogates : List Span :=
  [(0xD800, 0xDFFF)]

/-- The spans of the characters among the code points of spans. -/
def characters (spans : List Span) : List Span :=
  common spans (gaps surrogates)

/-! ## Encodings -/

/-- Code points that are encoded alike. -/
structure LengthClass where
  span : Span
  /-- What the first byte adds to its digit. -/
  mark : Nat
  /-- Number of bytes after the first. -/
  tail : Nat
  deriving DecidableEq, Repr

/-- The characters that are encoded in one byte, and so on up to four bytes. -/
def lengthClasses : List LengthClass :=
  [⟨(0, 0x7F), 0, 0⟩, ⟨(0x80, 0x7FF), 0xC0, 1⟩, ⟨(0x800, 0xD7FF), 0xE0, 2⟩,
    ⟨(0xE000, 0xFFFF), 0xE0, 2⟩, ⟨(0x10000, 0x10FFFF), 0xF0, 3⟩]

/-- What a byte after the first adds to its digit. -/
def tailMark : Nat := 0x80

/-- The numbers from `low` to `high`, written in a first digit and `tail` digits
of six bits, as ranges of digits. -/
def digitsOf : Nat → Nat → Nat → List Encoding
  | 0, low, high => [[(low, high)]]
  | tail + 1, low, high =>
      let unit := Nat.pow 64 (tail + 1)
      let first := low / unit
      let last := high / unit
      if first = last then
        (digitsOf tail (low % unit) (high % unit)).map ((first, first) :: ·)
      else
        let cutLow := low % unit != 0
        let cutHigh := high % unit != unit - 1
        let start := if cutLow then first + 1 else first
        let stop := if cutHigh then last - 1 else last
        (if cutLow then (digitsOf tail (low % unit) (unit - 1)).map ((first, first) :: ·)
          else []) ++
        (if start ≤ stop then [(start, stop) :: List.replicate (tail + 1) (0, 63)] else []) ++
        (if cutHigh then (digitsOf tail 0 (high % unit)).map ((last, last) :: ·) else [])

/-- The bytes of digits. -/
def markDigits (mark : Nat) : Encoding → Encoding
  | [] => []
  | (low, high) :: rest =>
      (mark + low, mark + high) :: rest.map fun digit => (tailMark + digit.1, tailMark + digit.2)

/-- The encodings of a span. -/
def encodings (span : Span) : List Encoding :=
  lengthClasses.flatMap fun lengthClass =>
    let low := max span.1 lengthClass.span.1
    let high := min span.2 lengthClass.span.2
    if low ≤ high then (digitsOf lengthClass.tail low high).map (markDigits lengthClass.mark)
    else []

end Span

namespace CharSet

/-- Sets up to this size are folded member by member. -/
def smallCount : Nat := 256

/-- The characters with a variant of another case. -/
def cased : Alphabet → List Nat
  | .ascii => (List.range 128).filter fun c => (otherCase? c).isSome
  | .unicode => Unicode.orbits.toList.map Prod.fst

/-- The variants of the members of a set. -/
def variantsOf (alphabet : Alphabet) (set : CharSet) (spans : List Span) : List Nat :=
  if Span.count spans ≤ smallCount then (Span.members spans).flatMap (variants alphabet)
  else (cased alphabet).filter fun c => (variants alphabet c).any set.has

/-- The spans of a set. -/
def spans : CharSet → List Span
  | empty => []
  | range low high => if low ≤ high then [(low, high)] else []
  | property family index =>
      match family.table[index]? with
      | none => []
      | some entry => entry.ranges.toList
  | complement set => Span.gaps set.spans
  | union left right => Span.join (left.spans ++ right.spans)
  | intersection left right => Span.common left.spans right.spans
  | difference left right => Span.common left.spans (Span.gaps right.spans)
  | symmetricDifference left right =>
      Span.join (Span.common left.spans (Span.gaps right.spans) ++
        Span.common right.spans (Span.gaps left.spans))
  | folded alphabet set =>
      let spans := set.spans
      Span.join (spans ++ (variantsOf alphabet set spans).map fun c => (c, c))

end CharSet
end Regex
end IndexBench
