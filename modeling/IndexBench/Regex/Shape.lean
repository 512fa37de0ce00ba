import IndexBench.Regex.Boundary
import IndexBench.Regex.Spans
import IndexBench.Text.Utf8

/-!
# Shapes of regular expressions

How much room an expression takes depends on more than the texts it describes:
on its groups, on how its alternatives are nested, and on what is simplified
before an automaton is built.  A shape is an expression in simplified form.

Main definitions:

- `Shape` is the language of shapes.
- `Shape.ofSet`, `Shape.sequence`, `Shape.choice` and `Shape.repeated` build
  simplified shapes.
- `Shape.minimum` and `Shape.maximum` bound the length of a text in bytes.
- `Shape.fromStart` and `Shape.toEnd` say whether an anchor holds a shape at an
  end of the text.
-/

namespace IndexBench
namespace Regex

/-- An expression in simplified form. -/
inductive Shape where
  | empty
  /-- Characters in a row, by their bytes. -/
  | literal (bytes : List UInt8)
  /-- One character, as a class of an alphabet, by its spans and their encodings. -/
  | oneOf (alphabet : Alphabet) (spans : List Span) (encodings : List Encoding)
  | look (condition : Boundary)
  /-- A group that remembers what it describes. -/
  | capture (body : Shape)
  | repetition (body : Shape) (min : Nat) (max : Option Nat) (greedy : Bool)
  | row (parts : List Shape)
  | fork (branches : List Shape)
  deriving Repr

namespace Shape

/-! ## Measures -/

mutual

/-- The least number of bytes that a shape describes, if it describes any text. -/
def minimum : Shape → Option Nat
  | empty => some 0
  | literal bytes => some bytes.length
  | oneOf _ _ encodings => encodings.head?.map List.length
  | look _ => some 0
  | capture body => minimum body
  | repetition body min _ _ => (minimum body).map (· * min)
  | row parts => minimumRow parts
  | fork branches => minimumFork branches

/-- The least number of bytes of shapes in a row. -/
def minimumRow : List Shape → Option Nat
  | [] => some 0
  | part :: parts => do return (← minimum part) + (← minimumRow parts)

/-- The least number of bytes of one of several shapes. -/
def minimumFork : List Shape → Option Nat
  | [] => none
  | [branch] => minimum branch
  | branch :: branches => do return min (← minimum branch) (← minimumFork branches)

end

mutual

/-- The greatest number of bytes that a shape describes, if there is a bound. -/
def maximum : Shape → Option Nat
  | empty => some 0
  | literal bytes => some bytes.length
  | oneOf _ _ encodings => encodings.getLast?.map List.length
  | look _ => some 0
  | capture body => maximum body
  | repetition body _ max _ => do return (← maximum body) * (← max)
  | row parts => maximumRow parts
  | fork branches => maximumFork branches

/-- The greatest number of bytes of shapes in a row. -/
def maximumRow : List Shape → Option Nat
  | [] => some 0
  | part :: parts => do return (← maximum part) + (← maximumRow parts)

/-- The greatest number of bytes of one of several shapes. -/
def maximumFork : List Shape → Option Nat
  | [] => none
  | [branch] => maximum branch
  | branch :: branches => do return max (← maximum branch) (← maximumFork branches)

end

/-- Whether a shape describes no text but the empty one. -/
def isWidthless (shape : Shape) : Bool :=
  shape.maximum == some 0

/-! ## Anchors -/

mutual

/-- Whether an anchor lets a shape begin only where the text does. -/
def fromStart : Shape → Bool
  | look condition => condition == .textStart
  | capture body => fromStart body
  | repetition body min _ _ => min != 0 && fromStart body
  | row parts => rowFromStart parts
  | fork branches => forkFromStart branches
  | _ => false

/-- Whether an anchor lets a row begin only where the text does. -/
def rowFromStart : List Shape → Bool
  | [] => false
  | part :: parts => fromStart part || (isWidthless part && rowFromStart parts)

/-- Whether anchors let all branches begin only where the text does. -/
def forkFromStart : List Shape → Bool
  | [] => true
  | branch :: branches => fromStart branch && forkFromStart branches

end

mutual

/-- Whether an anchor lets a shape end only where the text does. -/
def toEnd : Shape → Bool
  | look condition => condition == .textEnd
  | capture body => toEnd body
  | repetition body min _ _ => min != 0 && toEnd body
  | row parts => rowToEnd parts
  | fork branches => forkToEnd branches
  | _ => false

/-- Whether an anchor lets a row end only where the text does. -/
def rowToEnd : List Shape → Bool
  | [] => false
  | part :: parts => rowToEnd parts || (parts.all isWidthless && toEnd part)

/-- Whether anchors let all branches end only where the text does. -/
def forkToEnd : List Shape → Bool
  | [] => true
  | branch :: branches => toEnd branch && forkToEnd branches

end

/-! ## Sameness -/

mutual

/-- Whether two shapes are the same.  Groups that remember are all different. -/
def same : Shape → Shape → Bool
  | empty, empty => true
  | literal a, literal b => a == b
  | oneOf alphabet a _, oneOf alphabet' b _ => alphabet == alphabet' && a == b
  | look a, look b => a == b
  | repetition a min max greedy, repetition b min' max' greedy' =>
      min == min' && max == max' && greedy == greedy' && same a b
  | row as, row bs => sameAll as bs
  | fork as, fork bs => sameAll as bs
  | _, _ => false

/-- Whether two lists have the same shapes. -/
def sameAll : List Shape → List Shape → Bool
  | [], [] => true
  | a :: as, b :: bs => same a b && sameAll as bs
  | _, _ => false

end

/-! ## Characters -/

/-- The shape of a class with more than one character. -/
def classOf (alphabet : Alphabet) (spans : List Span) : Shape :=
  .oneOf alphabet spans (spans.flatMap Span.encodings)

/-- The shape of a class with the given characters. -/
def ofSpans (alphabet : Alphabet) : List Span → Shape
  | [] => .oneOf .ascii [] []
  | [(low, high)] =>
      if low = high then .literal (Utf8.encode (String.singleton (Char.ofNat low)))
      else classOf alphabet [(low, high)]
  | spans => classOf alphabet spans

/-- The shape of a character of a set. -/
def ofSet (alphabet : Alphabet) (set : CharSet) : Shape :=
  ofSpans alphabet (Span.characters set.spans)

/-! ## Rows -/

/-- The shapes that a shape is a row of. -/
def parts : Shape → List Shape
  | empty => []
  | row parts => parts
  | shape => [shape]

/-- Puts a shape before others; characters next to each other join. -/
def before (shape : Shape) (shapes : List Shape) : List Shape :=
  match shape, shapes with
  | literal a, literal b :: rest => literal (a ++ b) :: rest
  | _, _ => shape :: shapes

/-- Shapes in a row. -/
def sequence (shapes : List Shape) : Shape :=
  match (shapes.flatMap parts).foldr before [] with
  | [] => empty
  | [shape] => shape
  | shapes => row shapes

/-! ## Forks -/

/-- The shapes that a shape is a choice of. -/
def branches : Shape → List Shape
  | fork branches => branches
  | shape => [shape]

/-- The span of a shape that is one character. -/
def characterSpan? : Shape → Option Span
  | literal bytes =>
      match (Utf8.decode bytes).map String.toList with
      | some [c] => some (c.toNat, c.toNat)
      | _ => none
  | _ => none

/-- The spans of a shape that is a class. -/
def classSpans? : Shape → Option (List Span)
  | oneOf _ spans _ => some spans
  | _ => none

/-- A choice of characters, or of classes, is a class. -/
def asClass? (shapes : List Shape) : Option Shape :=
  match shapes.mapM characterSpan? with
  | some spans => some (ofSpans .unicode (Span.join spans))
  | none => (shapes.mapM classSpans?).map fun spans => ofSpans .unicode (Span.join spans.flatten)

/-- A choice of shapes that have nothing in common. -/
def choiceOf (shapes : List Shape) : Shape :=
  match shapes.flatMap branches with
  | [shape] => shape
  | shapes => (asClass? shapes).getD (fork shapes)

/-- The shapes that two rows begin with. -/
def common : List Shape → List Shape → List Shape
  | a :: as, b :: bs => if same a b then a :: common as bs else []
  | _, _ => []

/-- The parts of a shape that is a row. -/
def rowParts? : Shape → Option (List Shape)
  | row parts => some parts
  | _ => none

/-- What all shapes begin with, if each is a row, and what follows it in each. -/
def factor? (shapes : List Shape) : Option (List Shape × List Shape) :=
  match shapes.mapM rowParts? with
  | some (first :: others) =>
      let shared := others.foldl common first
      if shared.isEmpty then none
      else some (shared, (first :: others).map fun parts => sequence (parts.drop shared.length))
  | _ => none

/-- A choice of shapes.  What all of them begin with stands before the choice. -/
def choice (shapes : List Shape) : Shape :=
  let shapes := shapes.flatMap branches
  match shapes, asClass? shapes, factor? shapes with
  | [shape], _, _ => shape
  | _, some shape, _ => shape
  | _, none, some (shared, rests) => sequence (shared ++ [choiceOf rests])
  | _, none, none => fork shapes

/-! ## Repetitions -/

/-- A shape repeated.  More than one round of nothing is the same as one. -/
def repeated (body : Shape) (min : Nat) (max : Option Nat) (greedy : Bool) : Shape :=
  let (min, max) :=
    if body.isWidthless then (Nat.min min 1, some (Nat.min (max.getD 1) 1)) else (min, max)
  if min = 0 && max == some 0 then empty
  else if min = 1 && max == some 1 then body
  else repetition body min max greedy

end Shape
end Regex
end IndexBench
