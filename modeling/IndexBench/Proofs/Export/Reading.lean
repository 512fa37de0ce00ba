import IndexBench.Export

/-!
# Reading a table back

A table with semicolons between its fields and quotes around those that need them is read
character by character.  A quote inside a quoted field is doubled, and a line end outside of
one ends a record; blank lines are no records.  Every field that is written is found again,
whatever it holds.

Main definitions:

- `Export.Reader` is the state of a reader and `Export.Reader.step` what a character makes of it.
- `Export.read` reads the records of a table.

Main results:

- Theorem `Export.Reader.foldlM_record`: a reader gets over a record to what it was written from.
- Theorem `Export.read_records`: records of at least two fields are read back.
-/

namespace IndexBench
namespace Export

/-! ## The reader -/

/-- Where a reader stands. -/
inductive Mode where
  /-- At the start of a record. -/
  | record
  /-- At the start of a field that is not the first of its record, or has a first character. -/
  | field
  /-- In a field without quotes. -/
  | plain
  /-- Between quotes. -/
  | quoted
  /-- Behind a quote that ends its field unless another one follows. -/
  | closed
  deriving DecidableEq, Repr

/-- The state of a reader: what it has read of a field, of a record and of a table. -/
structure Reader where
  mode : Mode
  chars : List Char
  fields : List String
  records : List (List String)
  deriving DecidableEq, Repr

/-- Whether a character ends a record. -/
def endsRecord (c : Char) : Bool :=
  c == '\n' || c == '\r'

namespace Reader

/-- A reader at the start of a table. -/
def start : Reader :=
  ⟨.record, [], [], []⟩

/-- Adds a character to the field. -/
def push (reader : Reader) (mode : Mode) (c : Char) : Reader :=
  { reader with mode := mode, chars := reader.chars ++ [c] }

/-- Adds the field to the record. -/
def endField (reader : Reader) : Reader :=
  ⟨.field, [], reader.fields ++ [String.ofList reader.chars], reader.records⟩

/-- Adds the field to the record, and the record to the table. -/
def endRecord (reader : Reader) : Reader :=
  ⟨.record, [], [], reader.records ++ [reader.fields ++ [String.ofList reader.chars]]⟩

/-- Ends the field, if a character does so. -/
def leave? (reader : Reader) (c : Char) : Option Reader :=
  if c = ';' then some reader.endField
  else if endsRecord c then some reader.endRecord
  else none

/-- Reads a character outside of quotes that is none. -/
def plainly (reader : Reader) (c : Char) : Reader :=
  (reader.leave? c).getD (reader.push .plain c)

/-- Reads the first character of a field, or what ends it. -/
def enter (reader : Reader) (c : Char) : Reader :=
  if c = '"' then { reader with mode := .quoted } else reader.plainly c

/-- Reads a character.  There is no quote in a field without quotes, and nothing stands behind
the quote that ends a field. -/
def step (reader : Reader) (c : Char) : Option Reader :=
  match reader.mode with
  | .record => some (if endsRecord c then reader else reader.enter c)
  | .field => some (reader.enter c)
  | .plain => if c = '"' then none else some (reader.plainly c)
  | .quoted =>
      some (if c = '"' then { reader with mode := .closed } else reader.push .quoted c)
  | .closed => if c = '"' then some (reader.push .quoted '"') else reader.leave? c

/-- The table, unless a quote is missing at its end. -/
def finish (reader : Reader) : Option (List (List String)) :=
  match reader.mode with
  | .record => some reader.records
  | .quoted => none
  | _ => some reader.endRecord.records

end Reader

/-- Reads the records of a table. -/
def read (bytes : List UInt8) : Option (List (List String)) := do
  let text ← Utf8.decode bytes
  let reader ← text.toList.foldlM Reader.step .start
  reader.finish

namespace Reader

/-! ## Fields -/

variable {fields : List String} {records : List (List String)} {acc cs : List Char} {c : Char}

/-- A character that needs no quotes is neither a semicolon nor a quote and ends no record. -/
theorem needsQuotes_eq_false_iff :
    needsQuotes c = false ↔ c ≠ ';' ∧ c ≠ '"' ∧ endsRecord c = false := by
  simp [needsQuotes, endsRecord, and_assoc]

/-- A character that needs no quotes is added to a field without them. -/
theorem plainly_of_needsQuotes {reader : Reader} (h : needsQuotes c = false) :
    reader.plainly c = reader.push .plain c := by
  obtain ⟨hsemicolon, -, hend⟩ := needsQuotes_eq_false_iff.mp h
  simp [plainly, leave?, hsemicolon, hend]

/-- Characters that need no quotes are read as they are. -/
theorem foldlM_plain (h : ∀ c ∈ cs, needsQuotes c = false) :
    cs.foldlM step ⟨.plain, acc, fields, records⟩ =
      some ⟨.plain, acc ++ cs, fields, records⟩ := by
  induction cs generalizing acc with
  | nil => simp
  | cons c cs ih =>
      obtain ⟨hc, hcs⟩ := List.forall_mem_cons.mp h
      have hstep : step ⟨.plain, acc, fields, records⟩ c =
          some ⟨.plain, acc ++ [c], fields, records⟩ := by
        rw [step, if_neg (needsQuotes_eq_false_iff.mp hc).2.1, plainly_of_needsQuotes hc]
        rfl
      rw [List.foldlM_cons, hstep]
      refine (ih hcs).trans ?_
      rw [List.append_assoc, List.singleton_append]

/-- Between quotes, characters whose quotes are doubled are read as they were. -/
theorem foldlM_doubleQuotes :
    (doubleQuotes cs).foldlM step ⟨.quoted, acc, fields, records⟩ =
      some ⟨.quoted, acc ++ cs, fields, records⟩ := by
  induction cs generalizing acc with
  | nil => simp [doubleQuotes]
  | cons c cs ih =>
      have hlater : (doubleQuotes cs).foldlM step ⟨.quoted, acc ++ [c], fields, records⟩ =
          some ⟨.quoted, acc ++ c :: cs, fields, records⟩ := by
        rw [ih, List.append_assoc, List.singleton_append]
      rw [doubleQuotes]
      by_cases hc : c = '"'
      · subst hc
        rw [if_pos rfl]
        exact hlater
      · have hstep : step ⟨.quoted, acc, fields, records⟩ c =
            some ⟨.quoted, acc ++ [c], fields, records⟩ := by
          simp only [step, if_neg hc, push]
        rw [if_neg hc, List.foldlM_cons, hstep]
        exact hlater

/-- Whether a character ends a field or a record. -/
def Ends (c : Char) : Prop :=
  c = ';' ∨ endsRecord c = true

/-- What ends a field is no quote. -/
theorem Ends.ne_quote (h : Ends c) : c ≠ '"' := by
  rintro rfl
  rcases h with h | h <;> cases h

/-- What ends a field is seen outside of quotes. -/
theorem Ends.leave?_eq (h : Ends c) (reader : Reader) :
    reader.leave? c = some (if c = ';' then reader.endField else reader.endRecord) := by
  rcases h with rfl | h
  · rfl
  · by_cases hc : c = ';' <;> simp [leave?, hc, h]

/-- A field that was written is read as it was, up to what ends it. -/
theorem foldlM_field (h : Ends c) :
    (field cs ++ [c]).foldlM step ⟨.field, [], fields, records⟩ =
      some (if c = ';' then ⟨.field, [], fields ++ [String.ofList cs], records⟩
        else ⟨.record, [], [], records ++ [fields ++ [String.ofList cs]]⟩) := by
  -- wherever a reader stands behind the field, the next character ends it
  suffices hread : ∃ mode, (field cs).foldlM step ⟨.field, [], fields, records⟩ =
      some ⟨mode, cs, fields, records⟩ ∧
        step ⟨mode, cs, fields, records⟩ c = leave? ⟨mode, cs, fields, records⟩ c by
    obtain ⟨mode, hfield, hstep⟩ := hread
    rw [List.foldlM_append, hfield, Option.bind_eq_bind, Option.bind_some, List.foldlM_cons, hstep,
      h.leave?_eq]
    split <;> rfl
  have hplainly (reader : Reader) : some (reader.plainly c) = reader.leave? c := by
    rw [plainly, h.leave?_eq, Option.getD_some]
  rw [field]
  by_cases hquotes : cs.any needsQuotes = true
  · rw [if_pos hquotes]
    refine ⟨.closed, ?_, by simp only [step, if_neg h.ne_quote]⟩
    rw [List.foldlM_cons]
    change (doubleQuotes cs ++ ['"']).foldlM step ⟨.quoted, [], fields, records⟩ = _
    rw [List.foldlM_append, foldlM_doubleQuotes]
    rfl
  · rw [if_neg hquotes]
    rw [Bool.not_eq_true, List.any_eq_false] at hquotes
    have hplain : ∀ c ∈ cs, needsQuotes c = false := fun c hc => by simpa using hquotes c hc
    cases cs with
    | nil => exact ⟨.field, rfl, by simp only [step, enter, if_neg h.ne_quote, hplainly]⟩
    | cons first cs =>
        obtain ⟨hfirst, hcs⟩ := List.forall_mem_cons.mp hplain
        refine ⟨.plain, ?_, by simp only [step, if_neg h.ne_quote, hplainly]⟩
        have hstep : step ⟨.field, [], fields, records⟩ first =
            some ⟨.plain, [first], fields, records⟩ := by
          rw [step, enter, if_neg (needsQuotes_eq_false_iff.mp hfirst).2.1,
            plainly_of_needsQuotes hfirst]
          rfl
        rw [List.foldlM_cons, hstep]
        exact foldlM_plain hcs

/-! ## Records -/

/-- The text of a record of several fields is that of the first, a semicolon and that of the
others. -/
theorem record_cons_cons (first second : String) (later : List String) :
    record (first :: second :: later) =
      field first.toList ++ [';'] ++ record (second :: later) := by
  simp [record, List.intercalate]

/-- The fields of a record are read one after the other. -/
theorem foldlM_fields (first : String) (later : List String) :
    (record (first :: later)).foldlM step ⟨.field, [], fields, records⟩ =
      some ⟨.record, [], [], records ++ [fields ++ first :: later]⟩ := by
  induction later generalizing first fields with
  | nil =>
      have hrecord : record [first] = field first.toList ++ ['\n'] := by
        simp [record, List.intercalate]
      rw [hrecord, foldlM_field (.inr rfl), String.ofList_toList]
      rfl
  | cons second later ih =>
      rw [record_cons_cons, List.foldlM_append, foldlM_field (.inl rfl), String.ofList_toList]
      refine (ih second).trans ?_
      rw [List.append_assoc, List.singleton_append]

/-- A record of several fields does not start with a line end. -/
theorem exists_record_eq_cons (first second : String) (later : List String) :
    ∃ c rest, record (first :: second :: later) = c :: rest ∧ endsRecord c = false := by
  rw [record_cons_cons, field]
  by_cases hquotes : first.toList.any needsQuotes = true
  · rw [if_pos hquotes]
    exact ⟨'"', _, rfl, rfl⟩
  · rw [if_neg hquotes]
    cases hfirst : first.toList with
    | nil => exact ⟨';', _, rfl, rfl⟩
    | cons c cs =>
        rw [hfirst, List.any_cons, Bool.or_eq_true, not_or, Bool.not_eq_true] at hquotes
        exact ⟨c, _, rfl, (needsQuotes_eq_false_iff.mp hquotes.1).2.2⟩

/-- A reader gets over a record of at least two fields to what it was written from. -/
theorem foldlM_record {written : List String} (h : 2 ≤ written.length) :
    (record written).foldlM step ⟨.record, [], [], records⟩ =
      some ⟨.record, [], [], records ++ [written]⟩ := by
  obtain ⟨first, second, later, rfl⟩ :
      ∃ first second later, written = first :: second :: later := by
    cases written with
    | nil => cases h
    | cons first written =>
        cases written with
        | nil => exact absurd h (by simp)
        | cons second later => exact ⟨first, second, later, rfl⟩
  obtain ⟨c, rest, hrecord, hc⟩ := exists_record_eq_cons first second later
  have hfields : (record (first :: second :: later)).foldlM step ⟨.field, [], [], records⟩ =
      some ⟨.record, [], [], records ++ [first :: second :: later]⟩ :=
    foldlM_fields first (second :: later)
  have hstep : step ⟨.record, [], [], records⟩ c = step ⟨.field, [], [], records⟩ c := by
    rw [step, hc]
    rfl
  rw [hrecord, List.foldlM_cons] at hfields ⊢
  rw [hstep]
  exact hfields

/-- Records in a row are read one after the other. -/
theorem foldlM_records {table : List (List String)} (h : ∀ written ∈ table, 2 ≤ written.length) :
    (table.flatMap record).foldlM step ⟨.record, [], [], records⟩ =
      some ⟨.record, [], [], records ++ table⟩ := by
  induction table generalizing records with
  | nil => simp
  | cons written table ih =>
      obtain ⟨hwritten, htable⟩ := List.forall_mem_cons.mp h
      rw [List.flatMap_cons, List.foldlM_append, foldlM_record hwritten]
      refine (ih htable).trans ?_
      rw [List.append_assoc, List.singleton_append]

end Reader

/-- Records of at least two fields are read back. -/
theorem read_records {table : List (List String)} (h : ∀ written ∈ table, 2 ≤ written.length) :
    read (Utf8.encode (String.ofList (table.flatMap record))) = some table := by
  have hread : (table.flatMap record).foldlM Reader.step ⟨.record, [], [], []⟩ =
      some ⟨.record, [], [], [] ++ table⟩ := Reader.foldlM_records h
  simp only [read, Utf8.decode_encode, Option.bind_eq_bind, Option.bind_some,
    String.toList_ofList, Reader.start, hread, List.nil_append]
  rfl

end Export
end IndexBench
