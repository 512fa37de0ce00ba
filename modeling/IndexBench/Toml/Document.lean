import IndexBench.Toml.Number

/-!
# Settings documents

A document is a run of lines: keys with values, and headers that name the table
to which the keys after them belong.

Main definitions:

- `Toml.readValue` reads a value.
- `Toml.Document` is a document being read, `Toml.parse` reads one.
-/

namespace IndexBench
namespace Toml

/-! ## Values -/

/-- The parts of a key before the last one, and the last one. -/
def splitLast (parts : List String) : List String × String :=
  (parts.dropLast, parts.getLastD "")

/-- Reads a key and the equals sign after it. -/
def readKeyEquals (cs : List Char) : Except DocumentFault (List String × List Char) := do
  let (parts, rest) ← readKey cs
  match rest with
  | '=' :: rest => return (parts, skipBlanks rest)
  | _ => refuse rest

/-- Reads a value that is no string and has no brackets. -/
def readWord (cs : List Char) : Except DocumentFault (Value × List Char) :=
  let word := cs.takeWhile isNumeral
  if word = ['t', 'r', 'u', 'e'] then .ok (.boolean true, cs.drop 4)
  else if word = ['f', 'a', 'l', 's', 'e'] then .ok (.boolean false, cs.drop 5)
  else readNumber cs

mutual

/-- Reads a value at a depth of nesting; `fuel` bounds the number of steps. -/
def readValue : Nat → Nat → List Char → Except DocumentFault (Value × List Char)
  | 0, _, cs => refuse cs
  | fuel + 1, depth, cs =>
      match cs with
      | '[' :: rest =>
          if depth + 1 < depthLimit then readItems fuel (depth + 1) [] rest else .error .depth
      | '\x7b' :: rest =>
          if depth + 1 < depthLimit then readPairs fuel (depth + 1) [] (skipBlanks rest)
          else .error .depth
      | '"' :: _ | '\'' :: _ => do
          let (text, rest) ← readString cs
          return (.string text, rest)
      | _ => readWord cs

/-- Reads the items of an array, of which those before are given, last one
first. -/
def readItems : Nat → Nat → List Value → List Char → Except DocumentFault (Value × List Char)
  | 0, _, _, cs => refuse cs
  | fuel + 1, depth, items, cs =>
      match skipLines cs.length cs with
      | ']' :: rest => .ok (.array items.reverse, rest)
      | cs => do
          let (item, rest) ← readValue fuel depth cs
          match skipLines rest.length rest with
          | ',' :: rest => readItems fuel depth (item :: items) rest
          | ']' :: rest => return (.array (item :: items).reverse, rest)
          | rest => refuse rest

/-- Reads the entries of a table in braces, of which those before are given. -/
def readPairs : Nat → Nat → Entries → List Char → Except DocumentFault (Value × List Char)
  | 0, _, _, cs => refuse cs
  | fuel + 1, depth, entries, cs =>
      match cs, entries with
      | '\x7d' :: rest, [] => .ok (.table .braces [], rest)
      | cs, entries => do
          let (parts, rest) ← readKeyEquals cs
          let (value, rest) ← readValue fuel depth rest
          let (path, key) := splitLast parts
          let entries ← insertAt path key value entries
          match skipBlanks rest with
          | ',' :: rest => readPairs fuel depth entries (skipBlanks rest)
          | '\x7d' :: rest => return (.table .braces entries, rest)
          | rest => refuse rest

end

/-! ## Documents -/

/-- A document being read. -/
structure Document where
  root : Entries
  /-- The parts of the last header. -/
  header : List String
  deriving Repr

namespace Document

/-- The document before its first line. -/
def empty : Document :=
  ⟨[], []⟩

/-- Reads a header after its first bracket. -/
def readHeader (document : Document) (cs : List Char) :
    Except DocumentFault (Document × List Char) := do
  let (element, cs) :=
    match cs with
    | '[' :: rest => (true, rest)
    | _ => (false, cs)
  let (parts, rest) ← readKey cs
  let rest ←
    match element, rest with
    | true, ']' :: ']' :: rest => endLine rest
    | false, ']' :: rest => endLine rest
    | _, rest => refuse rest
  let (path, key) := splitLast parts
  let root ← openAt element path key document.root
  return (⟨root, parts⟩, rest)

/-- Reads a key with its value. -/
def readEntry (document : Document) (cs : List Char) :
    Except DocumentFault (Document × List Char) := do
  let (parts, rest) ← readKeyEquals cs
  let (value, rest) ← readValue (rest.length + 1) 0 rest
  let rest ← endLine rest
  let (path, key) := splitLast parts
  let root ← withinHeader document.header (insertAt path key value) document.root
  return ({ document with root := root }, rest)

/-- Reads lines up to the end; `fuel` bounds their number. -/
def readLines : Nat → Document → List Char → Except DocumentFault Document
  | fuel, document, cs =>
      match skipBlanks cs, fuel with
      | [], _ => .ok document
      | cs, 0 => refuse cs
      | '[' :: rest, fuel + 1 => do
          let (document, rest) ← document.readHeader rest
          readLines fuel document rest
      | '#' :: rest, fuel + 1 => do
          let rest ← endLine ('#' :: rest)
          readLines fuel document rest
      | cs, fuel + 1 =>
          match newline? cs with
          | some rest => readLines fuel document rest
          | none => do
              let (document, rest) ← document.readEntry cs
              readLines fuel document rest

end Document

/-- What follows a byte order mark, if there is one. -/
def skipMark : List Char → List Char
  | '\ufeff' :: rest => rest
  | cs => cs

/-- A fault with its place counted from the start of a text of a given length. -/
def locate (length : Nat) : DocumentFault → DocumentFault
  | .grammar left => .grammar (length - left)
  | fault => fault

/-- Reads a document. -/
def parse (text : String) : Except DocumentFault Entries :=
  let cs := skipMark text.toList
  match Document.empty.readLines (cs.length + 1) cs with
  | .ok document => .ok document.root
  | .error fault => .error (locate text.toList.length fault)

end Toml
end IndexBench
