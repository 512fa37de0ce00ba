import IndexBench.Store.Kept

/-!
# Images of databases

A database is kept in a file as its image.  After a mark the image is the name
of a journal and a list of tables: a number stands before a space, a text after
its length and a list after the number of its items.

Main definitions:

- `Image.encode` writes the image of a database and `Image.decode` reads it.
- `Kept.ofBytes` is the database that a file keeps.
-/

namespace IndexBench
namespace Store
namespace Image

/-! ## Writing -/

/-- The start of every image. -/
def mark : List Char :=
  "path/value store 1\n".toList

/-- Writes a number. -/
def putNumber (n : Nat) : List Char :=
  Natural.digits n ++ [' ']

/-- Writes a text after its length. -/
def putText (text : String) : List Char :=
  putNumber text.toList.length ++ text.toList

/-- Writes a list after the number of its items. -/
def putList {α : Type} (put : α → List Char) (items : List α) : List Char :=
  putNumber items.length ++ items.flatMap put

/-- Writes a row. -/
def putRow (row : Row) : List Char :=
  putText row.path ++ putText (Integer.render row.value) ++ putText row.revision

/-- Writes an index. -/
def putIndex (index : Index) : List Char :=
  putText index.name ++ putText index.order.tag

/-- Writes a table. -/
def putTable (table : Table) : List Char :=
  putText table.name ++ putList putRow table.rows ++ putList putIndex table.indexes

/-- The image of a database. -/
def encode (kept : Kept) : List UInt8 :=
  Utf8.encode (String.ofList
    (mark ++ putText kept.journal.tag ++ putList putTable kept.database.tables))

/-! ## Reading -/

/-- A reader takes a value off the start of an image. -/
abbrev Reader (α : Type) : Type := StateT (List Char) Option α

/-- Takes digits up to the space after them, onto the number read so far. -/
def takeDigits : Nat → List Char → Option (Nat × List Char)
  | _, [] => none
  | n, c :: rest =>
      if c = ' ' then some (n, rest)
      else
        match Natural.digit? c with
        | some d => takeDigits (n * 10 + d) rest
        | none => none

/-- Takes a number. -/
def takeNumber : Reader Nat :=
  takeDigits 0

/-- Takes a number of characters. -/
def takeChars (n : Nat) : Reader String := fun cs =>
  if n ≤ cs.length then some (String.ofList (cs.take n), cs.drop n) else none

/-- Takes a text. -/
def takeText : Reader String := do
  takeChars (← takeNumber)

/-- Takes a number of items. -/
def takeItems {α : Type} (take : Reader α) : Nat → Reader (List α)
  | 0 => pure []
  | n + 1 => do
      let item ← take
      let items ← takeItems take n
      return item :: items

/-- Takes a list. -/
def takeList {α : Type} (take : Reader α) : Reader (List α) := do
  takeItems take (← takeNumber)

/-- Takes what a text is read as, if it can be read. -/
def takeRead {α : Type} (read : String → Option α) : Reader α := do
  let text ← takeText
  StateT.lift (read text)

/-- Takes a row. -/
def takeRow : Reader Row := do
  let path ← takeText
  let value ← takeRead fun text => (Integer.parse text).toOption
  let revision ← takeText
  return ⟨path, value, revision⟩

/-- Takes an index. -/
def takeIndex : Reader Index := do
  let name ← takeText
  let order ← takeRead fun text => (IndexOrder.parse text).toOption
  return ⟨name, order⟩

/-- Takes a table. -/
def takeTable : Reader Table := do
  let name ← takeText
  let rows ← takeList takeRow
  let indexes ← takeList takeIndex
  return ⟨name, rows, indexes⟩

/-- Takes the mark. -/
def takeMark : Reader Unit := do
  let text ← takeChars mark.length
  if text.toList = mark then pure () else StateT.lift none

/-- Takes all that follows the mark. -/
def takeKept : Reader Kept := do
  let journal ← takeRead Journal.ofTag?
  let tables ← takeList takeTable
  return ⟨⟨tables⟩, journal, ⟨tables⟩⟩

/-- Reads the image of a database to its end. -/
def decode (bytes : List UInt8) : Option Kept := do
  let text ← Utf8.decode bytes
  let (kept, rest) ← (do takeMark; takeKept : Reader Kept) text.toList
  if rest.isEmpty then some kept else none

end Image

/-- The database that a file keeps.  One of a single byte counts as empty, since
that byte may have been written to try the file. -/
def Kept.ofBytes : List UInt8 → Except StoreFault Kept
  | [] => .ok .fresh
  | [_] => .ok .fresh
  | bytes =>
      match Image.decode bytes with
      | some kept => .ok kept
      | none => .error .notDatabase

end Store
end IndexBench
