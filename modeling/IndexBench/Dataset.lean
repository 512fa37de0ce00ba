import IndexBench.Catalog
import IndexBench.FileState
import IndexBench.Row

/-!
# Datasets

A dataset lists the rows of a table, one record `<path>;<value>[;<revision>]`
each.  It is read in batches, and reading goes on after a bad record with the
next one.  An import may be limited to a start of a file, which is extended to
the end of its last line so that no row is cut.

Main definitions:

- `Row.ofRecord` reads one record.
- `Dataset.Reader.nextBatch` reads up to a given number of rows, and
  `Dataset.Reader.batches` all rows in such batches.
- `Dataset.exposed` is the part of a file that a limited import reads.

Main results:

- Theorem `Dataset.exposed_prefix`: a limited import reads a start of the file.
-/

namespace IndexBench

/-- Reads a dataset record: its text, its number of fields, then its value. -/
def Row.ofRecord (record : RawRecord) : Except Failure Row :=
  match record.decode with
  | .error fault => .error (.record fault)
  | .ok [path, value] => do
      let value ← readNumber record.line "value" value
      return ⟨path, value, ""⟩
  | .ok [path, value, revision] => do
      let value ← readNumber record.line "value" value
      return ⟨path, value, revision⟩
  | .ok fields => .error (.format record.line (.datasetFields fields.length))

namespace Dataset

/-! ## Batches -/

/-- What one read leaves: the rows read, and the failure that ended the read. -/
structure Batch where
  rows : List Row
  failure : Option Failure
  deriving DecidableEq, Repr

/-- Reads up to `max` rows, stopping at the end and at the first bad record. -/
def readBatch : Nat → Cursor → Batch × Cursor
  | 0, c => (⟨[], none⟩, c)
  | max + 1, c =>
      match c.next with
      | none => (⟨[], none⟩, c)
      | some (record, c') =>
          match Row.ofRecord record with
          | .error failure => (⟨[], some failure⟩, c')
          | .ok row =>
              let (batch, c'') := readBatch max c'
              (⟨row :: batch.rows, batch.failure⟩, c'')

/-- A reader of rows over a source that may have failed. -/
structure Reader where
  cursor : Cursor
  /-- Why the source cannot be read, if it cannot. -/
  broken : Option IoFault
  deriving DecidableEq, Repr

namespace Reader

/-- A reader of the rows in a run of bytes. -/
def ofBytes (bytes : List UInt8) : Reader :=
  ⟨.ofBytes bytes, none⟩

/-- Reads up to `max` rows. -/
def nextBatch (reader : Reader) (max : Nat) : Batch × Reader :=
  match reader.broken with
  | some cause =>
      (⟨[], if max = 0 then none else some (.record (.io cause))⟩, reader)
  | none =>
      let (batch, cursor) := readBatch max reader.cursor
      (batch, { reader with cursor := cursor })

/-- The full batches that are left, and the failure that ends them; `fuel`
bounds the number of batches. -/
def batchesWithin (max : Nat) : Nat → Reader → List (List Row) × Option Failure
  | 0, _ => ([], none)
  | fuel + 1, reader =>
      match reader.nextBatch max with
      | (⟨_, some failure⟩, _) => ([], some failure)
      | (⟨[], none⟩, _) => ([], none)
      | (⟨row :: rows, none⟩, reader') =>
          let (later, failure) := batchesWithin max fuel reader'
          ((row :: rows) :: later, failure)

/-- The batches of at most `max` rows that are left up to the end or up to the
batch with the first bad record, and the failure of that record.  Every batch
takes at least one byte. -/
def batches (reader : Reader) (max : Nat) : List (List Row) × Option Failure :=
  batchesWithin max (reader.cursor.rest.length + 1) reader

end Reader

/-! ## Limited imports -/

/-- A run of bytes up to and including its first line feed. -/
def throughLineFeed : List UInt8 → List UInt8
  | [] => []
  | b :: rest => if b = lineFeed then [b] else b :: throughLineFeed rest

/-- The part of a file that an import limited to `limit` bytes reads: up to and
including the first line feed at or after the limit.  Zero sets no limit. -/
def exposed (limit : Nat) (bytes : List UInt8) : List UInt8 :=
  if limit = 0 || bytes.length ≤ limit then bytes
  else bytes.take limit ++ throughLineFeed (bytes.drop limit)

/-- A run of bytes starts with what goes up to its first line feed. -/
theorem throughLineFeed_prefix (bytes : List UInt8) : throughLineFeed bytes <+: bytes := by
  induction bytes with
  | nil => exact List.prefix_rfl
  | cons b rest ih =>
      unfold throughLineFeed
      split
      · exact ⟨rest, rfl⟩
      · exact (List.prefix_cons_inj b).2 ih

/-- A limited import reads a start of the file. -/
theorem exposed_prefix (limit : Nat) (bytes : List UInt8) : exposed limit bytes <+: bytes := by
  unfold exposed
  split
  · exact List.prefix_rfl
  · obtain ⟨rest, h⟩ := throughLineFeed_prefix (bytes.drop limit)
    exact ⟨rest, by rw [List.append_assoc, h, List.take_append_drop]⟩

/-- A limit of zero exposes the whole file. -/
@[simp]
theorem exposed_zero (bytes : List UInt8) : exposed 0 bytes = bytes := by
  simp [exposed]

/-- A limit that the file does not exceed exposes the whole file. -/
theorem exposed_of_length_le {limit : Nat} {bytes : List UInt8} (h : bytes.length ≤ limit) :
    exposed limit bytes = bytes := by
  simp [exposed, h]

/-- Length that a directory reports as a file. -/
def directorySize : Nat := 4096

/-- Opens a dataset file.  A directory opens like a file and fails when it is
read, which a limit does at once. -/
def Reader.openFile (file : FileState) (limit : Nat) : Except Failure Reader :=
  match file with
  | .file bytes => .ok (.ofBytes (exposed limit bytes))
  | .directory =>
      if limit = 0 || directorySize ≤ limit then .ok ⟨.ofBytes [], some .isDirectory⟩
      else .error (.io .isDirectory)
  | .absent => .error (.io .notFound)
  | .blocked => .error (.io .notDirectory)
  | .tooLong => .error (.io .nameTooLong)

end Dataset
end IndexBench
