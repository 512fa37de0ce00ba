/-!
# Ranges of characters as data

Tables of character properties are kept as text: each range is the distance
from the end of the range before it and, when it has more than one member, a
minus sign and its length, all in hexadecimal.  This module reads such tables
and searches them.

Main definitions:

- `Ranges.decode` reads a table, `Orbits.decode` reads groups of code points.
- `inRanges` and `lookup` search sorted tables by bisection.
- `PropertyData` and `Property` are a named table before and after reading.
-/

namespace IndexBench
namespace Unicode

/-- The value of a hexadecimal digit in lower case. -/
def hexDigit? (c : Char) : Option Nat :=
  if 48 ≤ c.toNat ∧ c.toNat ≤ 57 then some (c.toNat - 48)
  else if 97 ≤ c.toNat ∧ c.toNat ≤ 102 then some (c.toNat - 87)
  else none

/-! ## Reading tables -/

namespace Ranges

/-- The state of a reader of ranges. -/
structure Scan where
  /-- The number being read. -/
  value : Nat
  /-- The distance read before it. -/
  gap : Option Nat
  /-- The code point after the last range. -/
  position : Nat
  /-- The ranges read so far. -/
  found : Array (Nat × Nat)

/-- Ends a range. -/
def Scan.flush (s : Scan) : Scan :=
  let (gap, length) :=
    match s.gap with
    | none => (s.value, 1)
    | some gap => (gap, s.value)
  let low := s.position + gap
  { value := 0
    gap := none
    position := low + length
    found := s.found.push (low, low + length - 1) }

/-- Reads one character of a table. -/
def Scan.step (s : Scan) (c : Char) : Scan :=
  match hexDigit? c with
  | some d => { s with value := s.value * 16 + d }
  | none => if c = '-' then { s with value := 0, gap := some s.value } else s.flush

/-- Reads a table of ranges, by their first and last code points. -/
def decode (text : String) : Array (Nat × Nat) :=
  if text.isEmpty then #[]
  else (text.toList.foldl Scan.step ⟨0, none, 0, #[]⟩).flush.found

end Ranges

namespace Orbits

/-- The state of a reader of groups: the number being read, the members of the
group before it and the groups before that. -/
structure Scan where
  value : Nat
  members : List Nat
  found : List (List Nat)

/-- Ends a group. -/
def Scan.flush (s : Scan) : Scan :=
  ⟨0, [], (s.value :: s.members).reverse :: s.found⟩

/-- Reads one character of a table. -/
def Scan.step (s : Scan) (c : Char) : Scan :=
  match hexDigit? c with
  | some d => { s with value := s.value * 16 + d }
  | none => if c = '=' then { s with value := 0, members := s.value :: s.members } else s.flush

/-- Reads groups of code points: an equals sign joins the members of a group. -/
def decode (text : String) : List (List Nat) :=
  (text.toList.foldl Scan.step ⟨0, [], []⟩).flush.found.reverse

end Orbits

/-! ## Searching tables -/

/-- Whether one of the sorted ranges from `low` up to `high` has `c`; the fuel
bounds the number of halvings. -/
def bisectRanges (ranges : Array (Nat × Nat)) (c : Nat) : Nat → Nat → Nat → Bool
  | 0, _, _ => false
  | fuel + 1, low, high =>
      if low < high then
        let middle := (low + high) / 2
        match ranges[middle]? with
        | none => false
        | some (first, last) =>
            if c < first then bisectRanges ranges c fuel low middle
            else if last < c then bisectRanges ranges c fuel (middle + 1) high
            else true
      else false

/-- Whether one of the sorted ranges has `c`. -/
def inRanges (ranges : Array (Nat × Nat)) (c : Nat) : Bool :=
  bisectRanges ranges c (ranges.size + 1) 0 ranges.size

/-- The entry for `c` among the sorted entries from `low` up to `high`. -/
def bisectEntries {α : Type} (entries : Array (Nat × α)) (c : Nat) : Nat → Nat → Nat → Option α
  | 0, _, _ => none
  | fuel + 1, low, high =>
      if low < high then
        let middle := (low + high) / 2
        match entries[middle]? with
        | none => none
        | some (key, value) =>
            if c < key then bisectEntries entries c fuel low middle
            else if key < c then bisectEntries entries c fuel (middle + 1) high
            else some value
      else none

/-- The entry for `c` in a sorted table. -/
def lookup {α : Type} (entries : Array (Nat × α)) (c : Nat) : Option α :=
  bisectEntries entries c (entries.size + 1) 0 entries.size

/-! ## Named tables -/

/-- A property as data: its names and its ranges. -/
structure PropertyData where
  names : List String
  ranges : String

/-- A property that can be searched. -/
structure Property where
  names : List String
  ranges : Array (Nat × Nat)

/-- Reads the ranges of a property. -/
def PropertyData.property (data : PropertyData) : Property :=
  ⟨data.names, Ranges.decode data.ranges⟩

/-- The place of the property called `name` in a table. -/
def find? (table : Array Property) (name : String) : Option Nat :=
  table.findIdx? fun property => property.names.contains name

/-- Whether `c` has the property at place `i` of a table. -/
def hasProperty (table : Array Property) (i c : Nat) : Bool :=
  match table[i]? with
  | none => false
  | some property => inRanges property.ranges c

end Unicode
end IndexBench
