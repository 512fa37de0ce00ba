import IndexBench.Failure
import IndexBench.Text.Utf8

/-!
# Delimited records

Catalogs and datasets are runs of records without header or quoting.  A record
is a maximal non-empty run of bytes between line feeds and carriage returns,
and semicolons separate its fields.  A byte order mark at the very start is
dropped.

A record is located by the state of the reader before anything is skipped: one
more than the line feeds consumed so far, and the bytes consumed so far.  Ending
a record consumes one terminator byte only, so the line feed of a two-byte line
end, and every blank line, belongs to the read that follows it.

Main definitions:

- `Cursor` is what a reader has left and where it stands; `Cursor.next` reads
  one record.
- `RawRecord` is a located record of bytes; `RawRecord.decode` is its text.
- `Cursor.records` lists all records that are left.

Main results:

- Theorem `intercalate_splitFields`: the fields of a record, put together again, are the record.
- Theorem `Cursor.next_rest_lt`: a record that is read leaves fewer bytes.
-/

namespace IndexBench

/-! ## Bytes of the notation -/

/-- The byte of a line feed. -/
def lineFeed : UInt8 := 10

/-- The bytes that end a record. -/
def isTerminator (b : UInt8) : Bool :=
  b == lineFeed || b == 13

/-- The byte between two fields. -/
def fieldSeparator : UInt8 := 59

/-- The bytes of a byte order mark. -/
def byteOrderMark : List UInt8 := [0xEF, 0xBB, 0xBF]

/-- Splits a record into its fields. -/
def splitFields : List UInt8 → List (List UInt8)
  | [] => [[]]
  | b :: rest =>
      if b = fieldSeparator then [] :: splitFields rest
      else
        match splitFields rest with
        | [] => [[b]]
        | field :: fields => (b :: field) :: fields

/-- A record has a field, if only an empty one. -/
theorem splitFields_ne_nil (bytes : List UInt8) : splitFields bytes ≠ [] := by
  cases bytes with
  | nil => simp [splitFields]
  | cons b rest =>
      unfold splitFields
      split
      · simp
      · split <;> simp

/-- The fields of a record, put together again, are the record. -/
theorem intercalate_splitFields (bytes : List UInt8) :
    [fieldSeparator].intercalate (splitFields bytes) = bytes := by
  induction bytes with
  | nil => rfl
  | cons b rest ih =>
      have hne := splitFields_ne_nil rest
      unfold splitFields
      cases hs : splitFields rest with
      | nil => exact absurd hs hne
      | cons field fields =>
          rw [hs] at ih
          split
          · rename_i hb
            subst hb
            cases fields <;> simp_all [List.intercalate, List.intersperse]
          · cases fields <;> simp_all [List.intercalate, List.intersperse]

/-- Number of line feeds in a run of bytes. -/
def lineFeeds (bytes : List UInt8) : Nat :=
  bytes.count lineFeed

/-! ## Located records -/

/-- A record of bytes with its place in the input. -/
structure RawRecord where
  /-- Number of records read before it. -/
  number : Nat
  /-- One more than the number of line feeds consumed before it. -/
  line : Nat
  /-- Number of bytes consumed before it. -/
  offset : Nat
  fields : List (List UInt8)
  deriving DecidableEq, Repr

namespace RawRecord

/-- Decodes fields from the given number on, naming the first one that is no
text. -/
def decodeFields (record : RawRecord) : Nat → List (List UInt8) → Except RecordFault (List String)
  | _, [] => .ok []
  | i, field :: fields =>
      match Utf8.decode field with
      | none =>
          .error (.notText record.number record.line record.offset i (Utf8.validLength field))
      | some text => (decodeFields record (i + 1) fields).map (text :: ·)

/-- The fields of a record as text. -/
def decode (record : RawRecord) : Except RecordFault (List String) :=
  record.decodeFields 0 record.fields

end RawRecord

/-! ## Reading -/

/-- The state of a reader of records. -/
structure Cursor where
  /-- The bytes that are left. -/
  rest : List UInt8
  /-- Whether the start of the input is behind the reader. -/
  started : Bool
  /-- One more than the number of line feeds consumed. -/
  line : Nat
  /-- Number of bytes consumed. -/
  offset : Nat
  /-- Number of records read. -/
  count : Nat
  deriving DecidableEq, Repr

namespace Cursor

/-- A reader at the start of an input. -/
def ofBytes (bytes : List UInt8) : Cursor where
  rest := bytes
  started := false
  line := 1
  offset := 0
  count := 0

/-- The bytes that are left once a byte order mark at the start of the input is
dropped. -/
def body (c : Cursor) : List UInt8 :=
  if !c.started && c.rest.take 3 == byteOrderMark then c.rest.drop 3 else c.rest

/-- Reads the next record, if there is one. -/
def next (c : Cursor) : Option (RawRecord × Cursor) :=
  let body := c.body
  let start := body.dropWhile isTerminator
  match start with
  | [] => none
  | _ =>
      let content := start.takeWhile fun b => !isTerminator b
      let rest := (start.dropWhile fun b => !isTerminator b).drop 1
      let consumed := c.rest.length - rest.length
      some
        ({ number := c.count
           line := c.line
           offset := c.offset
           fields := splitFields content },
         { rest := rest
           started := true
           line := c.line + lineFeeds (body.take (body.length - rest.length))
           offset := c.offset + consumed
           count := c.count + 1 })

/-- Dropping a byte order mark adds nothing. -/
theorem body_length_le (c : Cursor) : c.body.length ≤ c.rest.length := by
  unfold body
  split
  · simp
  · exact Nat.le_refl _

/-- A record that is read leaves fewer bytes. -/
theorem next_rest_lt {c c' : Cursor} {record : RawRecord}
    (h : c.next = some (record, c')) : c'.rest.length < c.rest.length := by
  have hbody := body_length_le c
  have hskip : (c.body.dropWhile isTerminator).length ≤ c.body.length :=
    (List.dropWhile_sublist _).length_le
  unfold next at h
  simp only at h
  split at h
  · simp at h
  · rename_i hstart
    cases hs : c.body.dropWhile isTerminator with
    | nil => exact absurd hs hstart
    | cons b start =>
        have hb : isTerminator b = false := by
          have hne : c.body.dropWhile isTerminator ≠ [] := by simp [hs]
          have hhead := List.head_dropWhile_not isTerminator hne
          simpa [hs] using hhead
        have hrest : (start.dropWhile fun b => !isTerminator b).length ≤ start.length :=
          (List.dropWhile_sublist _).length_le
        simp only [Option.some.injEq, Prod.mk.injEq] at h
        obtain ⟨_, rfl⟩ := h
        have hlen : start.length + 1 ≤ c.rest.length := by
          have : (b :: start).length ≤ c.body.length := hs ▸ hskip
          simp only [List.length_cons] at this
          omega
        simp only [hs, List.dropWhile_cons, hb, Bool.not_false, ↓reduceIte, List.length_drop]
        omega

/-- All records that are left. -/
def records (c : Cursor) : List RawRecord :=
  match h : c.next with
  | none => []
  | some (record, c') =>
      have := next_rest_lt h
      record :: c'.records
termination_by c.rest.length

end Cursor
end IndexBench
