import IndexBench.Regex.Escape

/-!
# Bracketed classes

A class in brackets is a union of characters, ranges and other classes, or a
combination of such unions by operators, which bind equally and from left to
right.

Main definitions:

- `Items` is a union being read, `Bracket` an open bracket.
- `Bracket.read` reads a class from its opening bracket on.
-/

namespace IndexBench
namespace Regex

/-- A set with the depth to which its notation is nested. -/
structure Nested where
  set : CharSet
  depth : Nat
  deriving DecidableEq, Repr

/-- The items of a union. -/
structure Items where
  count : Nat
  union : Nested
  deriving DecidableEq, Repr

namespace Items

/-- No items. -/
def none : Items :=
  ⟨0, ⟨.empty, 0⟩⟩

/-- Adds an item. -/
def add (items : Items) (item : Nested) : Items where
  count := items.count + 1
  union :=
    if items.count = 0 then item
    else ⟨.union items.union.set item.set, max items.union.depth item.depth⟩

/-- The union of the items; two items or more are one level deeper. -/
def close (items : Items) : Nested :=
  if items.count ≤ 1 then items.union else { items.union with depth := items.union.depth + 1 }

end Items

/-- An operator between unions. -/
inductive SetOperator where
  | intersection
  | difference
  | symmetricDifference
  deriving DecidableEq, Repr

/-- An open bracket. -/
structure Bracket where
  negated : Bool
  /-- What stands before the last operator, combined. -/
  left : Option (Nested × SetOperator)
  /-- The items since. -/
  items : Items
  deriving DecidableEq, Repr

namespace Bracket

/-- A set of which case is ignored if the flags say so. -/
def fold (flags : Flags) (set : CharSet) : CharSet :=
  if flags.ignoreCase then .folded flags.alphabet set else set

/-- Everything in a bracket so far. -/
def combined (flags : Flags) (bracket : Bracket) : Nested :=
  let right := bracket.items.close
  match bracket.left with
  | none => right
  | some (left, operator) =>
      let depth := max left.depth right.depth + 1
      let leftSet := fold flags left.set
      let rightSet := fold flags right.set
      match operator with
      | .intersection => ⟨.intersection leftSet rightSet, depth⟩
      | .difference => ⟨.difference leftSet rightSet, depth⟩
      | .symmetricDifference => ⟨.symmetricDifference leftSet rightSet, depth⟩

/-- Adds an item. -/
def add (bracket : Bracket) (item : Nested) : Bracket :=
  { bracket with items := bracket.items.add item }

/-- Adds an operator. -/
def operate (flags : Flags) (bracket : Bracket) (operator : SetOperator) : Bracket :=
  { bracket with left := some (bracket.combined flags, operator), items := .none }

/-- The set of a bracket that ends. -/
def close (flags : Flags) (bracket : Bracket) : Except Fault Nested := do
  let inner := bracket.combined flags
  let set ← Escape.finishSet flags bracket.negated inner.set
  return ⟨set, inner.depth + 1⟩

/-! ## Opening -/

/-- Takes leading hyphens as items; `fuel` bounds their number. -/
def takeHyphens (flags : Flags) : Nat → Items → List Char → Items × List Char
  | 0, items, cs => (items, cs)
  | fuel + 1, items, cs =>
      match cs with
      | '-' :: rest => takeHyphens flags fuel (items.add ⟨.single '-', 0⟩) (flags.skip rest)
      | _ => (items, cs)

/-- Reads the start of a bracket: a caret, hyphens, and a closing bracket that
comes first and so is an item. -/
def start (flags : Flags) (cs : List Char) : Bracket × List Char :=
  let cs := flags.skip cs
  let (negated, cs) :=
    match cs with
    | '^' :: rest => (true, flags.skip rest)
    | _ => (false, cs)
  let (items, cs) := takeHyphens flags cs.length .none cs
  match cs with
  | ']' :: rest =>
      if items.count = 0 then
        (⟨negated, none, items.add ⟨.single ']', 0⟩⟩, flags.skip rest)
      else (⟨negated, none, items⟩, cs)
  | _ => (⟨negated, none, items⟩, cs)

/-! ## Items -/

/-- Splits a text at its first colon. -/
def untilColon : List Char → Option (List Char × List Char)
  | [] => none
  | c :: rest =>
      if c = ':' then some ([], rest)
      else (untilColon rest).map fun (name, rest) => (c :: name, rest)

/-- Reads a named ASCII class after its opening bracket, if there is one. -/
def named? (cs : List Char) : Option (Bool × CharSet × List Char) :=
  match cs with
  | ':' :: rest =>
      let (negated, rest) :=
        match rest with
        | '^' :: rest => (true, rest)
        | _ => (false, rest)
      match untilColon rest with
      | some (name, ']' :: rest) =>
          (CharSet.ascii? (String.ofList name)).map fun set => (negated, set, rest)
      | _ => none
  | _ => none

/-- Reads one character or escape of a class. -/
def readPart (flags : Flags) : List Char → Except Fault (Escape × List Char)
  | [] => unreadable "unclosed class"
  | '\\' :: rest => Escape.read flags rest
  | c :: rest => .ok (.literal c false, rest)

/-- A character of a class, which without Unicode is ASCII. -/
def literal (flags : Flags) (part : Escape) : Except Fault Char :=
  match part with
  | .literal c _ =>
      if flags.unicode || c.toNat ≤ 127 then .ok c else unreadable "character without Unicode"
  | _ => unreadable "range of sets"

/-- A character or escape as an item. -/
def item (flags : Flags) (part : Escape) : Except Fault CharSet :=
  match part with
  | .literal _ _ => do
      let c ← literal flags part
      return .single c
  | .oneOf set => .ok set
  | .boundary _ => unreadable "boundary in a class"

/-- Reads an item: a range if a hyphen follows that is neither last nor part of
an operator. -/
def readItem (flags : Flags) (cs : List Char) : Except Fault (CharSet × List Char) := do
  let (first, rest) ← readPart flags cs
  let rest := flags.skip rest
  match rest with
  | [] => unreadable "unclosed class"
  | '-' :: after =>
      if flags.peek after = some ']' || flags.peek after = some '-' then
        return (← item flags first, rest)
      else
        let (last, rest) ← readPart flags (flags.skip after)
        let low ← literal flags first
        let high ← literal flags last
        if low ≤ high then return (.between low high, rest)
        else unreadable "inverted range"
  | _ => return (← item flags first, rest)

/-! ## Classes -/

/-- Reads a class of which `bracket` is open, inside the brackets `outer`;
`fuel` bounds the number of steps. -/
def readFrom (flags : Flags) :
    Nat → Bracket → List Bracket → List Char → Except Fault (Nested × List Char)
  | 0, _, _, _ => unreadable "unclosed class"
  | fuel + 1, bracket, outer, cs =>
      match flags.skip cs with
      | [] => unreadable "unclosed class"
      | '[' :: rest =>
          match named? rest with
          | some (negated, set, rest) => do
              let set ← Escape.finishSet flags negated set
              readFrom flags fuel (bracket.add ⟨set, 0⟩) outer rest
          | none =>
              let (inner, rest) := start flags rest
              readFrom flags fuel inner (bracket :: outer) rest
      | ']' :: rest => do
          let closed ← bracket.close flags
          match outer with
          | [] => return (closed, rest)
          | bracket :: outer => readFrom flags fuel (bracket.add closed) outer rest
      | '&' :: '&' :: rest => readFrom flags fuel (bracket.operate flags .intersection) outer rest
      | '-' :: '-' :: rest => readFrom flags fuel (bracket.operate flags .difference) outer rest
      | '~' :: '~' :: rest =>
          readFrom flags fuel (bracket.operate flags .symmetricDifference) outer rest
      | cs => do
          let (set, rest) ← readItem flags cs
          readFrom flags fuel (bracket.add ⟨set, 0⟩) outer rest

/-- Reads a class after its opening bracket. -/
def read (flags : Flags) (cs : List Char) : Except Fault (Nested × List Char) :=
  let (bracket, rest) := start flags cs
  readFrom flags (cs.length + 1) bracket [] rest

end Bracket
end Regex
end IndexBench
