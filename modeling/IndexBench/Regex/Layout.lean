import IndexBench.Regex.Shape
import Std.Data.HashMap

/-!
# Room for automata

An automaton for a shape has a state for each byte of a text and for each fork
on the way.  This module counts the states in the order in which they are made
and the bytes that they take.

Main definitions:

- `Room` is the room taken so far.
- `Layout.shape` adds the states of a shape to a room.
- `Layout.forward` and `Layout.backward` are the room that the automata of a
  pattern take, which read a text from either end.
-/

namespace IndexBench
namespace Regex

/-- The room that an automaton takes. -/
structure Room where
  /-- Number of states. -/
  states : Nat
  /-- Bytes outside of the states. -/
  extra : Nat
  deriving DecidableEq, Repr

namespace Room

/-- Bytes of one state. -/
def stateSize : Nat := 32

/-- Bytes of a range of bytes that leads from one state to another. -/
def transitionSize : Nat := 8

/-- Bytes of a way on from a fork. -/
def branchSize : Nat := 4

/-- Bytes that an automaton may take. -/
def limit : Nat := 10 * Nat.pow 2 20

/-- No room at all. -/
def none : Room :=
  ⟨0, 0⟩

/-- All bytes of a room. -/
def bytes (room : Room) : Nat :=
  stateSize * room.states + room.extra

/-- Whether a room is larger than it may be. -/
def isExceeded (room : Room) : Bool :=
  room.bytes > limit

/-- Adds states with one way on. -/
def add (room : Room) (count : Nat) : Room :=
  { room with states := room.states + count }

/-- Adds a state with several transitions. -/
def addTransitions (room : Room) (count : Nat) : Room :=
  ⟨room.states + 1, room.extra + transitionSize * count⟩

/-- Adds a fork. -/
def addFork (room : Room) (branches : Nat) : Room :=
  ⟨room.states + 1, room.extra + branchSize * branches⟩

/-- Adds the same a number of times, until the room is exceeded. -/
def times (step : Room → Room) : Nat → Room → Room
  | 0, room => room
  | n + 1, room => if room.isExceeded then room else times step n (step room)

end Room

namespace Layout

/-! ## Slots -/

/-- Mixes numbers into a hash value, one after the other. -/
def mixFrom (value : UInt64) : List Nat → UInt64
  | [] => value
  | n :: rest => mixFrom ((value ^^^ UInt64.ofNat n) * 1099511628211) rest

/-- The slot, out of `count`, in which an entry with the given key is kept. -/
def slotOf (count : UInt64) (key : List Nat) : UInt64 :=
  mixFrom 14695981039346656037 key % count

/-! ## Classes read forwards -/

/-- A transition to the state called `next`. -/
structure Transition where
  low : Nat
  high : Nat
  next : Nat
  deriving DecidableEq, Repr

/-- The room taken so far, and the states of a class that are kept to be used
again, each in its slot. -/
structure ForwardClass where
  room : Room
  kept : Std.HashMap UInt64 (List Transition × Nat)

namespace ForwardClass

/-- Number of slots. -/
def slotCount : UInt64 := 10000

/-- A new state with the given transitions, which is kept in a slot. -/
def newState (class' : ForwardClass) (slot : UInt64) (transitions : List Transition) :
    Nat × ForwardClass :=
  let state := class'.room.states
  (state, ⟨class'.room.addTransitions transitions.length,
    class'.kept.insert slot (transitions, state)⟩)

/-- A state with the given transitions: the one that is kept, or a new one. -/
def state (class' : ForwardClass) (transitions : List Transition) : Nat × ForwardClass :=
  let slot := slotOf slotCount (transitions.flatMap fun t => [t.low, t.high, t.next])
  match class'.kept[slot]? with
  | some (known, state) =>
      if known = transitions then (state, class') else class'.newState slot transitions
  | none => class'.newState slot transitions

/-- Whether two encodings begin with the same range. -/
def startAlike (a b : Encoding) : Bool :=
  a.head? == b.head?

/-- The state from which sorted encodings lead to the state `target`; `depth`
bounds the length of encodings. -/
def states (target : Nat) : Nat → List Encoding → ForwardClass → Nat × ForwardClass
  | 0, _, class' => (target, class')
  | depth + 1, encodings, class' =>
      let (transitions, class') := (encodings.splitBy startAlike).foldl
        (fun (transitions, class') alike =>
          match alike.head? with
          | some [(low, high)] => (⟨low, high, target⟩ :: transitions, class')
          | some ((low, high) :: _ :: _) =>
              let (next, class') := states target depth (alike.map List.tail) class'
              (⟨low, high, next⟩ :: transitions, class')
          | _ => (transitions, class'))
        (([] : List Transition), class')
      class'.state transitions.reverse

end ForwardClass

/-- The greatest number of bytes of a character. -/
def maxCharacterLength : Nat := 4

/-- Adds a class that is read forwards: the states from which the same follows
are one state. -/
def forwardClass (encodings : List Encoding) (room : Room) : Room :=
  let class' : ForwardClass := ⟨room.add 1, ∅⟩
  (ForwardClass.states room.states maxCharacterLength encodings class').2.room

/-! ## Classes read backwards -/

/-- The room taken so far, and the states of a class that are kept to be used
again, each in its slot. -/
structure BackwardClass where
  room : Room
  kept : Std.HashMap UInt64 (Transition × Nat)

namespace BackwardClass

/-- Number of slots. -/
def slotCount : UInt64 := 1000

/-- A new state with the given transition, which is kept in a slot. -/
def newState (class' : BackwardClass) (slot : UInt64) (transition : Transition) :
    Nat × BackwardClass :=
  let state := class'.room.states
  (state, ⟨class'.room.add 1, class'.kept.insert slot (transition, state)⟩)

/-- A state with one transition: the one that is kept, or a new one. -/
def state (class' : BackwardClass) (transition : Transition) : Nat × BackwardClass :=
  let slot := slotOf slotCount [transition.next, transition.low, transition.high]
  match class'.kept[slot]? with
  | some (known, state) =>
      if known = transition then (state, class') else class'.newState slot transition
  | none => class'.newState slot transition

/-- Adds the states of an encoding that leads to the state `next`. -/
def states (next : Nat) : Encoding → BackwardClass → BackwardClass
  | [], class' => class'
  | (low, high) :: rest, class' =>
      let (state, class') := class'.state ⟨low, high, next⟩
      states state rest class'

end BackwardClass

/-- Adds a class that is read backwards: a fork with a branch for each encoding. -/
def backwardClass (encodings : List Encoding) (room : Room) : Room :=
  let class' : BackwardClass := ⟨(room.addFork encodings.length).add 1, ∅⟩
  (encodings.foldl (fun class' encoding => BackwardClass.states (room.states + 1) encoding class')
    class').room

/-! ## Choices of literals -/

/-- The lists between empty ones. -/
def betweenEmpty : List (List UInt8) → List (List (List UInt8))
  | [] => [[]]
  | [] :: rest => [] :: betweenEmpty rest
  | word :: rest =>
      match betweenEmpty rest with
      | [] => [[word]]
      | words :: others => (word :: words) :: others

/-- Lists of which of the empty ones at the start only one is left. -/
def dropRepeatedEmpty : List (List UInt8) → List (List UInt8)
  | [] :: [] :: rest => dropRepeatedEmpty ([] :: rest)
  | words => words

/-- Adds a state for the first bytes of words that are not empty. -/
def firstBytes (words : List (List UInt8)) (room : Room) : Room :=
  match (words.filterMap List.head?).eraseDups with
  | [] => room
  | [_] => room.add 1
  | bytes => room.addTransitions bytes.length

/-- Adds a choice of words, which share their starts as far as their order
allows; `depth` bounds their length. -/
def words : Nat → List (List UInt8) → Room → Room
  | 0, _, room => room
  | depth + 1, list, room =>
      let chunks := betweenEmpty (dropRepeatedEmpty list)
      let room := chunks.foldl
        (fun room chunk =>
          let firsts := (chunk.filterMap List.head?).eraseDups
          let room := firsts.foldl
            (fun room byte =>
              let tails := (chunk.filter fun word => word.head? == some byte).map List.tail
              if tails.all List.isEmpty then room else words depth tails room)
            room
          firstBytes chunk room)
        room
      let filled := chunks.countP fun chunk => !chunk.isEmpty
      room.addFork (filled + (chunks.length - 1))

/-- The bytes of a shape that is a literal. -/
def word? : Shape → Option (List UInt8)
  | .literal bytes => some bytes
  | _ => none

/-! ## Shapes -/

/-- The end from which an automaton reads a text. -/
inductive Direction where
  | forward
  | backward
  deriving DecidableEq, Repr

/-- Adds a class. -/
def oneOf (direction : Direction) (encodings : List Encoding) (room : Room) : Room :=
  if encodings.all fun encoding => encoding.length ≤ 1 then
    (room.add 1).addTransitions encodings.length
  else
    match direction with
    | .forward => forwardClass encodings room
    | .backward => backwardClass encodings room

/-- Adds a choice of literals. -/
def choiceOfWords (direction : Direction) (list : List (List UInt8)) (room : Room) : Room :=
  let list :=
    match direction with
    | .forward => list
    | .backward => list.map List.reverse
  let longest := list.foldl (fun n word => max n word.length) 0
  words (longest + 1) list (room.add 1)

/-- Adds a repetition of what `body` adds; `filled` says that the body describes
no empty text. -/
def repetition (body : Room → Room) (filled : Bool) (min : Nat) (max : Option Nat)
    (room : Room) : Room :=
  match max with
  | none =>
      match min with
      | 0 => if filled then body (room.addFork 2) else ((body room).addFork 2).addFork 2 |>.add 1
      | _ => (Room.times body min room).addFork 2
  | some max =>
      if min = 0 && max = 1 then (body (room.addFork 2)).add 1
      else
        let required := if min = 0 then room.add 1 else Room.times body min room
        if min = max then required
        else Room.times (fun room => body (room.addFork 2)) (max - min) (required.add 1)

mutual

/-- Adds the states of a shape. -/
def shape (direction : Direction) : Shape → Room → Room
  | .empty, room => room.add 1
  | .literal bytes, room => room.add bytes.length
  | .oneOf _ _ encodings, room => oneOf direction encodings room
  | .look _, room => room.add 1
  | .capture body, room =>
      match direction with
      | .forward => (shape direction body (room.add 1)).add 1
      | .backward => shape direction body room
  | .repetition body min max _, room =>
      repetition (fun room => shape direction body room) (body.minimum.any (0 < ·)) min max room
  | .row parts, room =>
      match direction with
      | .forward => shapes direction parts room
      | .backward => shapesBackward direction parts room
  | .fork branches, room =>
      match branches.mapM word? with
      | some list => choiceOfWords direction list room
      | none => fork direction 0 branches room

/-- Adds the states of shapes, first one first. -/
def shapes (direction : Direction) : List Shape → Room → Room
  | [], room => room
  | part :: parts, room => shapes direction parts (shape direction part room)

/-- Adds the states of shapes, last one first. -/
def shapesBackward (direction : Direction) : List Shape → Room → Room
  | [], room => room
  | part :: parts, room => shape direction part (shapesBackward direction parts room)

/-- Adds the states of branches, of which `done` are there already.  The fork
that joins them is made after the second one. -/
def fork (direction : Direction) (done : Nat) : List Shape → Room → Room
  | [], room => room
  | branch :: branches, room =>
      let room := shape direction branch room
      let room := if done = 1 then (room.addFork (branches.length + 2)).add 1 else room
      fork direction (done + 1) branches room

end

/-! ## Patterns -/

/-- Adds what lets an automaton begin anywhere, unless an anchor holds it. -/
def beginning (anchored : Bool) (room : Room) : Room :=
  if anchored then room.add 1 else ((room.addFork 2).add 1).addTransitions 1

/-- The room that a pattern takes in an automaton that reads forwards and
remembers where the pattern begins and ends. -/
def forward (pattern : Shape) : Room :=
  ((shape .forward pattern ((beginning pattern.fromStart .none).add 1)).add 1).add 1

/-- The room that a pattern takes in an automaton that reads backwards. -/
def backward (pattern : Shape) : Room :=
  (shape .backward pattern (beginning pattern.toEnd .none)).add 1

end Layout
end Regex
end IndexBench
