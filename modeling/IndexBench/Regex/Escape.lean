import IndexBench.Regex.Boundary
import IndexBench.Regex.Flags
import IndexBench.Regex.Property

/-!
# Escapes

A backslash takes the meaning from a character that has one, and gives one to a
character that has none.

Main definitions:

- `Escape` is what an escape stands for.
- `Escape.read` reads what follows a backslash.
-/

namespace IndexBench
namespace Regex

/-- What an escape stands for. -/
inductive Escape where
  /-- A character; `byte` says that it is written as one byte. -/
  | literal (c : Char) (byte : Bool)
  | oneOf (set : CharSet)
  | boundary (condition : Boundary)
  deriving DecidableEq, Repr

namespace Escape

/-! ## Characters by number -/

/-- The value of a hexadecimal digit. -/
def hexDigit? (c : Char) : Option Nat :=
  if 48 ≤ c.toNat ∧ c.toNat ≤ 57 then some (c.toNat - 48)
  else if 97 ≤ c.toNat ∧ c.toNat ≤ 102 then some (c.toNat - 87)
  else if 65 ≤ c.toNat ∧ c.toNat ≤ 70 then some (c.toNat - 55)
  else none

/-- The character with a code point. -/
def charOf (n : Nat) (byte : Bool) (rest : List Char) : Except Fault (Escape × List Char) :=
  if n.isValidChar then .ok (.literal (Char.ofNat n) byte, rest)
  else unreadable "no such character"

/-- Reads a fixed number of hexadecimal digits onto `acc`. -/
def readDigits (flags : Flags) : Nat → Nat → List Char → Except Fault (Nat × List Char)
  | 0, acc, cs => .ok (acc, cs)
  | _ + 1, _, [] => unreadable "unfinished escape"
  | count + 1, acc, c :: rest =>
      match hexDigit? c with
      | none => unreadable "invalid hexadecimal digit"
      | some d => readDigits flags count (acc * 16 + d) (flags.skip rest)

/-- Reads hexadecimal digits up to a closing brace; `fuel` bounds their number. -/
def readBraced (flags : Flags) : Nat → Option Nat → List Char → Except Fault (Nat × List Char)
  | 0, _, _ => unreadable "unfinished escape"
  | fuel + 1, acc, cs =>
      match cs with
      | [] => unreadable "unfinished escape"
      | c :: rest =>
          if c = '\x7d' then
            match acc with
            | none => unreadable "empty escape"
            | some n => .ok (n, flags.skip rest)
          else
            match hexDigit? c with
            | none => unreadable "invalid hexadecimal digit"
            | some d => readBraced flags fuel (some (acc.getD 0 * 16 + d)) (flags.skip rest)

/-- Reads the number of a character: `count` digits, or any number in braces. -/
def readNumbered (flags : Flags) (count : Nat) (cs : List Char) :
    Except Fault (Escape × List Char) :=
  match flags.skip cs with
  | [] => unreadable "unfinished escape"
  | c :: rest =>
      if c = '\x7b' then do
        let (n, rest) ← readBraced flags (rest.length + 1) none (flags.skip rest)
        charOf n false rest
      else do
        let (n, rest) ← readDigits flags count 0 (c :: rest)
        charOf n (count == 2) rest

/-! ## Classes -/

/-- A set as written under flags: case is ignored before the complement is
taken, and without Unicode a set must not leave ASCII. -/
def finishSet (flags : Flags) (negated : Bool) (set : CharSet) : Except Fault CharSet :=
  let set := if flags.ignoreCase then .folded flags.alphabet set else set
  let set := CharSet.negatedIf negated set
  if flags.unicode || set.asciiOnly then .ok set else unreadable "set is not made of characters"

/-- A class with a letter of its own, which is the same in either case. -/
def letterSet (flags : Flags) (negated : Bool) (set : Alphabet → CharSet) (rest : List Char) :
    Except Fault (Escape × List Char) :=
  let set := CharSet.negatedIf negated (set flags.alphabet)
  if flags.unicode || set.asciiOnly then .ok (.oneOf set, rest)
  else unreadable "set is not made of characters"

/-- Reads up to a closing brace; `fuel` bounds the number of characters. -/
def readName (flags : Flags) : Nat → List Char → Except Fault (List Char × List Char)
  | 0, _ => unreadable "unclosed property"
  | fuel + 1, cs =>
      match cs with
      | [] => unreadable "unclosed property"
      | c :: rest =>
          if c = '\x7d' then .ok ([], rest)
          else do
            let (name, rest) ← readName flags fuel (flags.skip rest)
            return (c :: name, rest)

/-- The parts of a name before and after the first separator. -/
def splitAt? (separator : List Char) : List Char → Option (List Char × List Char)
  | [] => none
  | c :: rest =>
      if separator.isPrefixOf (c :: rest) then some ([], (c :: rest).drop separator.length)
      else (splitAt? separator rest).map fun (name, value) => (c :: name, value)

/-- The set that a property in braces asks for, and whether it asks for what is
outside of it. -/
def propertySet? (name : List Char) : Option (Bool × CharSet) :=
  match splitAt? ['!', '='] name with
  | some (table, value) => (Property.findIn? table value).map (true, ·)
  | none =>
      match (splitAt? [':'] name).or (splitAt? ['='] name) with
      | some (table, value) => (Property.findIn? table value).map (false, ·)
      | none => (Property.find? name).map (false, ·)

/-- Reads a property. -/
def readProperty (flags : Flags) (negated : Bool) (cs : List Char) :
    Except Fault (Escape × List Char) :=
  match flags.skip cs with
  | [] => unreadable "unfinished escape"
  | c :: rest => do
      let (name, rest) ←
        if c = '\x7b' then readName flags (rest.length + 1) (flags.skip rest)
        else if c = '\\' then unreadable "unfinished escape"
        else .ok ([c], flags.skip rest)
      if flags.unicode then
        match propertySet? name with
        | none => unreadable "no such property"
        | some (excluded, set) =>
            let set ← finishSet flags (negated != excluded) set
            return (.oneOf set, rest)
      else unreadable "property without Unicode"

/-! ## Boundaries -/

/-- A character of the name of a word boundary. -/
def isBoundaryLetter (c : Char) : Bool :=
  c.isAlpha || c == '-'

/-- Reads the name of a word boundary; `fuel` bounds the number of characters. -/
def readBoundaryName (flags : Flags) : Nat → List Char → Except Fault (List Char × List Char)
  | 0, _ => unreadable "unclosed word boundary"
  | fuel + 1, cs =>
      match cs with
      | [] => unreadable "unclosed word boundary"
      | c :: rest =>
          if c = '\x7d' then .ok ([], rest)
          else if isBoundaryLetter c then do
            let (name, rest) ← readBoundaryName flags fuel (flags.skip rest)
            return (c :: name, rest)
          else unreadable "unclosed word boundary"

/-- Reads what follows a word boundary: a name in braces, unless the braces hold
a count. -/
def readBoundary (flags : Flags) (cs : List Char) : Except Fault (Escape × List Char) :=
  match cs with
  | '\x7b' :: rest =>
      match flags.skip rest with
      | [] => unreadable "unfinished word boundary"
      | c :: inner =>
          if isBoundaryLetter c then do
            let (name, rest) ← readBoundaryName flags (inner.length + 2) (c :: inner)
            match String.ofList name with
            | "start" => return (.boundary (.wordStart flags.alphabet), rest)
            | "end" => return (.boundary (.wordEnd flags.alphabet), rest)
            | "start-half" => return (.boundary (.wordStartHalf flags.alphabet), rest)
            | "end-half" => return (.boundary (.wordEndHalf flags.alphabet), rest)
            | _ => unreadable "no such word boundary"
          else .ok (.boundary (.word flags.alphabet), cs)
  | _ => .ok (.boundary (.word flags.alphabet), cs)

/-! ## Escapes -/

/-- Whether an escaped character stands for itself. -/
def isPlain (c : Char) : Bool :=
  c.toNat ≤ 127 && !c.isAlphanum && c != '<' && c != '>'

/-- Reads what follows a backslash. -/
def read (flags : Flags) : List Char → Except Fault (Escape × List Char)
  | [] => unreadable "unfinished escape"
  | c :: rest =>
      match c with
      | 'x' => readNumbered flags 2 rest
      | 'u' => readNumbered flags 4 rest
      | 'U' => readNumbered flags 8 rest
      | 'p' => readProperty flags false rest
      | 'P' => readProperty flags true rest
      | 'd' => letterSet flags false .digit rest
      | 'D' => letterSet flags true .digit rest
      | 's' => letterSet flags false .space rest
      | 'S' => letterSet flags true .space rest
      | 'w' => letterSet flags false .word rest
      | 'W' => letterSet flags true .word rest
      | 'a' => .ok (.literal '\x07' false, rest)
      | 'f' => .ok (.literal '\x0c' false, rest)
      | 't' => .ok (.literal '\t' false, rest)
      | 'n' => .ok (.literal '\n' false, rest)
      | 'r' => .ok (.literal '\r' false, rest)
      | 'v' => .ok (.literal '\x0b' false, rest)
      | 'A' => .ok (.boundary .textStart, rest)
      | 'z' => .ok (.boundary .textEnd, rest)
      | 'b' => readBoundary flags rest
      | 'B' => .ok (.boundary (.notWord flags.alphabet), rest)
      | '<' => .ok (.boundary (.wordStart flags.alphabet), rest)
      | '>' => .ok (.boundary (.wordEnd flags.alphabet), rest)
      | _ =>
          if isPlain c then .ok (.literal c false, rest)
          else unreadable "unrecognized escape"

end Escape
end Regex
end IndexBench
