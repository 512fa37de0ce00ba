import IndexBench.Regex.Basic
import IndexBench.Regex.Bracket
import IndexBench.Regex.Shape
import IndexBench.Unicode.Recent

/-!
# Patterns

The written form of regular expressions.  A pattern is read from left to right
in one pass; open groups wait on a stack while their contents are read.

Main definitions:

- `Part` is a piece of a pattern, `Group` an open group.
- `Reader.step` reads one piece, `Reader.finish` ends a pattern.
- `Regex.parse` reads a pattern.
-/

namespace IndexBench
namespace Regex

/-- A piece of a pattern. -/
structure Part where
  regex : Regex
  /-- What decides the size of the piece. -/
  shape : Shape
  /-- How deeply the notation of the piece is nested. -/
  depth : Nat
  /-- Whether the piece can be repeated; a change of flags cannot. -/
  repeatable : Bool
  deriving Repr

namespace Part

/-- A piece that describes the empty text. -/
def empty : Part :=
  ⟨.empty, .empty, 0, true⟩

/-- A piece that is one character of a set, with the depth of its notation. -/
def chars (flags : Flags) (set : CharSet) (depth : Nat) : Part :=
  ⟨.chars set, .ofSet flags.alphabet set, depth, true⟩

/-- A piece that is a condition. -/
def boundary (condition : Boundary) : Part :=
  ⟨.boundary condition, .look condition, 0, true⟩

/-- A change of flags. -/
def change : Part :=
  { empty with repeatable := false }

/-- The depth of pieces side by side. -/
def depthOf (parts : List Part) : Nat :=
  (parts.map Part.depth).foldl max 0 + 1

/-- Pieces in a row, last one first. -/
def sequence : List Part → Part
  | [] => empty
  | [part] => part
  | part :: parts =>
      { regex := parts.foldl (fun regex before => .seq before.regex regex) part.regex
        shape := .sequence ((part :: parts).reverse.map Part.shape)
        depth := depthOf (part :: parts)
        repeatable := true }

/-- Alternatives, last one first. -/
def alternatives : List Part → Part
  | [] => empty
  | [part] => part
  | part :: parts =>
      { regex := parts.foldl (fun regex before => .alt before.regex regex) part.regex
        shape := .choice ((part :: parts).reverse.map Part.shape)
        depth := depthOf (part :: parts)
        repeatable := true }

/-- A piece repeated. -/
def repeated (part : Part) (min : Nat) (max : Option Nat) (greedy : Bool) : Part where
  regex := .rep part.regex min max
  shape := part.shape.repeated min max greedy
  depth := part.depth + 1
  repeatable := true

/-- A piece in parentheses, which may remember what it describes. -/
def grouped (part : Part) (captured : Bool) : Part where
  regex := part.regex
  shape := if captured then .capture part.shape else part.shape
  depth := part.depth + 1
  repeatable := true

end Part

/-- An open group, or the pattern as a whole: what has been read of it. -/
structure Group where
  /-- The flags before the group. -/
  outside : Flags
  /-- Whether the group remembers what it describes. -/
  captured : Bool
  /-- The alternatives before the current one, last one first. -/
  branches : List Part
  /-- The pieces of the current alternative, last one first. -/
  parts : List Part
  deriving Repr

namespace Group

/-- A group that has just been opened. -/
def opened (outside : Flags) (captured : Bool) : Group :=
  ⟨outside, captured, [], []⟩

/-- Adds a piece. -/
def add (group : Group) (part : Part) : Group :=
  { group with parts := part :: group.parts }

/-- Begins a new alternative. -/
def branch (group : Group) : Group :=
  { group with branches := .sequence group.parts :: group.branches, parts := [] }

/-- The contents of a group that ends. -/
def close (group : Group) : Part :=
  .alternatives (.sequence group.parts :: group.branches)

end Group

/-- The state of a reader of patterns. -/
structure Reader where
  flags : Flags
  group : Group
  /-- The groups around the current one, innermost first. -/
  outer : List Group
  /-- The names of groups so far. -/
  names : List (List Char)
  deriving Repr

namespace Reader

/-- The state before a pattern is read. -/
def start : Reader where
  flags := .initial
  group := .opened .initial false
  outer := []
  names := []

/-- Adds a piece to the current group. -/
def add (reader : Reader) (part : Part) : Reader :=
  { reader with group := reader.group.add part }

/-- Opens a group. -/
def openGroup (reader : Reader) (captured : Bool) : Reader :=
  { reader with
    group := .opened reader.flags captured
    outer := reader.group :: reader.outer }

/-! ## Single characters -/

/-- The piece of one character. -/
def literal (flags : Flags) (c : Char) (byte : Bool) : Except Fault Part :=
  if byte && !flags.unicode && c.toNat > 127 then unreadable "byte that is no character"
  else .ok (.chars flags (Bracket.fold flags (.single c)) 0)

/-- The set of a dot. -/
def dot (flags : Flags) : CharSet :=
  if flags.dotAll then .all
  else if flags.crlf then .complement (.union (.single '\r') (.single '\n'))
  else .complement (.single '\n')

/-- The piece of a dot. -/
def readDot (flags : Flags) : Except Fault Part :=
  if flags.unicode then .ok (.chars flags (dot flags) 0) else unreadable "dot without Unicode"

/-- The condition of a caret. -/
def caret (flags : Flags) : Boundary :=
  if !flags.multiLine then .textStart
  else if flags.crlf then .lineStartCRLF
  else .lineStart

/-- The condition of a dollar sign. -/
def dollar (flags : Flags) : Boundary :=
  if !flags.multiLine then .textEnd
  else if flags.crlf then .lineEndCRLF
  else .lineEnd

/-- The piece of an escape. -/
def escape (flags : Flags) : Escape → Except Fault Part
  | .literal c byte => literal flags c byte
  | .oneOf set => .ok (.chars flags set 0)
  | .boundary condition => .ok (.boundary condition)

/-! ## Repetitions -/

/-- Repeats the last piece.  A question mark after the repetition makes it lazy,
and the flags may turn lazy and greedy around. -/
def repeatLast (reader : Reader) (min : Nat) (max : Option Nat) (rest : List Char) :
    Except Fault (Reader × List Char) :=
  let (isLazy, rest) :=
    match rest with
    | '?' :: rest => (true, rest)
    | _ => (false, rest)
  match reader.group.parts with
  | part :: parts =>
      if part.repeatable then
        let repeated := part.repeated min max (isLazy == reader.flags.swapped)
        .ok ({ reader with group := { reader.group with parts := repeated :: parts } }, rest)
      else unreadable "nothing to repeat"
  | [] => unreadable "nothing to repeat"

/-- Reads digits and the blanks between them; `fuel` bounds their number. -/
def readDigits (flags : Flags) : Nat → Option Nat → List Char → Option Nat × List Char
  | 0, acc, cs => (acc, cs)
  | fuel + 1, acc, cs =>
      match cs with
      | [] => (acc, [])
      | c :: rest =>
          if 48 ≤ c.toNat ∧ c.toNat ≤ 57 then
            readDigits flags fuel (some (acc.getD 0 * 10 + (c.toNat - 48))) (flags.skip rest)
          else (acc, cs)

/-- The greatest bound of a repetition. -/
def maxCount : Nat := 4294967295

/-- What follows blanks, and comments where flags allow them. -/
def skipAround (flags : Flags) (cs : List Char) : List Char :=
  flags.skip (cs.dropWhile Flags.isBlank)

/-- Reads a bound with blanks around it: none, if there are no digits. -/
def readBound (flags : Flags) (cs : List Char) : Except Fault (Option Nat × List Char) :=
  let cs := cs.dropWhile Flags.isBlank
  let (bound, rest) := readDigits flags cs.length none cs
  let rest := if rest.head?.any Flags.isBlank then skipAround flags rest else rest
  match bound with
  | some n => if n ≤ maxCount then .ok (bound, rest) else unreadable "bound out of range"
  | none => .ok (none, rest)

/-- Reads the upper bound of a repetition of at least `min`: the same bound, or
after a comma another one or none. -/
def readUpper (flags : Flags) (min : Nat) (cs : List Char) :
    Except Fault (Option Nat × List Char) :=
  match cs with
  | ',' :: rest =>
      match flags.skip rest with
      | '\x7d' :: rest => .ok (none, '\x7d' :: rest)
      | rest => do
          let (high, rest) ← readBound flags rest
          if high.isSome then return (high, rest) else unreadable "missing bound"
  | _ => .ok (some min, cs)

/-- Reads a counted repetition after its opening brace. -/
def readCounts (reader : Reader) (cs : List Char) : Except Fault (Reader × List Char) := do
  let flags := reader.flags
  let (low, rest) ← readBound flags (flags.skip cs)
  match low with
  | none => unreadable "missing bound"
  | some min =>
      let (max, rest) ← readUpper flags min rest
      match rest with
      | '\x7d' :: rest =>
          if max.all (min ≤ ·) then reader.repeatLast min max (flags.skip rest)
          else unreadable "inverted bounds"
      | _ => unreadable "unclosed bounds"

/-! ## Groups -/

/-- The letters of natural languages. -/
def isLetter (c : Char) : Bool :=
  (CharSet.named .binary "alphabetic").contains c ||
    Unicode.inRanges Unicode.recentLetters c.toNat

/-- Letters and numbers of any kind. -/
def isLetterOrNumber (c : Char) : Bool :=
  isLetter c || (CharSet.named .category "nd").contains c ||
    (CharSet.named .category "nl").contains c || (CharSet.named .category "no").contains c ||
    Unicode.inRanges Unicode.recentNumbers c.toNat

/-- Whether a character can begin the name of a group. -/
def beginsName (c : Char) : Bool :=
  c == '_' || isLetter c

/-- Whether a character can stand inside the name of a group. -/
def continuesName (c : Char) : Bool :=
  c == '_' || c == '.' || c == '[' || c == ']' || isLetterOrNumber c

/-- Reads the name of a group up to its angle bracket. -/
def readGroupName (acc : List Char) : List Char → Except Fault (List Char × List Char)
  | [] => unreadable "unclosed group name"
  | c :: rest =>
      if c = '>' then
        if acc.isEmpty then unreadable "empty group name" else .ok (acc.reverse, rest)
      else if (if acc.isEmpty then beginsName c else continuesName c) then
        readGroupName (c :: acc) rest
      else unreadable "invalid group name"

/-- Opens a group with a name. -/
def openNamed (reader : Reader) (cs : List Char) : Except Fault (Reader × List Char) := do
  let (name, rest) ← readGroupName [] cs
  if reader.names.contains name then unreadable "repeated group name"
  else return ({ reader.openGroup true with names := name :: reader.names }, rest)

/-- Reads what follows an opening parenthesis. -/
def readGroup (reader : Reader) (cs : List Char) : Except Fault (Reader × List Char) :=
  match reader.flags.skip cs with
  | '?' :: '=' :: _ | '?' :: '!' :: _ => unreadable "look-around"
  | '?' :: '<' :: '=' :: _ | '?' :: '<' :: '!' :: _ => unreadable "look-around"
  | '?' :: 'P' :: '<' :: rest | '?' :: '<' :: rest => reader.openNamed rest
  | '?' :: rest => do
      let change ← reader.flags.change rest
      if change.opens then
        return ({ reader.openGroup false with flags := change.flags }, change.rest)
      else if change.present then
        return ({ reader.add .change with flags := change.flags }, change.rest)
      else unreadable "nothing to repeat"
  | rest => .ok (reader.openGroup true, rest)

/-- Closes the current group, which becomes a piece of the one around it. -/
def closeGroup (reader : Reader) : Except Fault Reader :=
  match reader.outer with
  | [] => unreadable "unopened group"
  | group :: outer =>
      .ok
        { reader with
          flags := reader.group.outside
          group := group.add (reader.group.close.grouped reader.group.captured)
          outer := outer }

/-! ## Patterns -/

/-- Reads one piece, which starts with `c`. -/
def step (reader : Reader) (c : Char) (rest : List Char) : Except Fault (Reader × List Char) :=
  match c with
  | '(' => reader.readGroup rest
  | ')' => do return (← reader.closeGroup, rest)
  | '|' => .ok ({ reader with group := reader.group.branch }, rest)
  | '[' => do
      let (nested, rest) ← Bracket.read reader.flags rest
      return (reader.add (.chars reader.flags nested.set nested.depth), rest)
  | '?' => reader.repeatLast 0 (some 1) rest
  | '*' => reader.repeatLast 0 none rest
  | '+' => reader.repeatLast 1 none rest
  | '\x7b' => reader.readCounts rest
  | '\\' => do
      let (escaped, rest) ← Escape.read reader.flags rest
      return (reader.add (← escape reader.flags escaped), rest)
  | '.' => do return (reader.add (← readDot reader.flags), rest)
  | '^' => .ok (reader.add (.boundary (caret reader.flags)), rest)
  | '$' => .ok (reader.add (.boundary (dollar reader.flags)), rest)
  | _ => do return (reader.add (← literal reader.flags c false), rest)

/-- Reads all pieces; `fuel` bounds their number. -/
def readAll : Nat → Reader → List Char → Except Fault Reader
  | fuel, reader, cs =>
      match reader.flags.skip cs, fuel with
      | [], _ => .ok reader
      | _ :: _, 0 => unreadable "unfinished pattern"
      | c :: rest, fuel + 1 => do
          let (reader, rest) ← reader.step c rest
          readAll fuel reader rest

/-- How deeply a pattern may be nested. -/
def maxDepth : Nat := 250

/-- The whole of a pattern that ends. -/
def finish (reader : Reader) : Except Fault Part :=
  match reader.outer with
  | _ :: _ => unreadable "unclosed group"
  | [] =>
      let part := reader.group.close
      if part.depth ≤ maxDepth then .ok part else unreadable "nested too deeply"

end Reader

/-- Reads a pattern with all that is known of it. -/
def parsePart (pattern : String) : Except Fault Part := do
  let cs := pattern.toList
  let reader ← Reader.start.readAll cs.length cs
  reader.finish

/-- Reads a pattern. -/
def parse (pattern : String) : Except Fault Regex := do
  let part ← parsePart pattern
  return part.regex

end Regex
end IndexBench
