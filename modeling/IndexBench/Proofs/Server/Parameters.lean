import IndexBench.Server.Statement

/-!
# Parameters of statements

The text of a statement says what is asked and of which table and index.  Everything else
travels beside it, as parameters that the text numbers in order.

Main definitions:

- `Operation` is a request without its values; `Operation.request?` puts values into it.
- `Statement.placeholders` are the places of parameters in a text.
- `Statement.Numbered` says that a text has a place for each parameter of its statement.

Main results:

- Theorem `Operation.request?_ofRequest`: a request is its operation with the parameters of its
  statements.
- Theorem `Statement.text_ofRequest`: the texts of statements depend on the operation only.
- Theorem `Statement.numbered_of_mem`: every statement of a request is numbered.
-/

namespace IndexBench
namespace Server

/-! ## Operations -/

/-- A request without its values: what is asked, and of which table and index. -/
inductive Operation where
  | setScanFallback
  | setIndexEligible
  | scanFallback
  | indexEligibility
  | countMatches (table : TableName)
  | enumerateMatches (table : TableName)
  | recreateTable (table : TableName)
  | insertRows (table : TableName)
  | createIndex (table : TableName) (order : IndexOrder)
  | close
  deriving DecidableEq, Repr

/-- The operation of a request. -/
def Operation.ofRequest : Request → Operation
  | .setScanFallback _ => .setScanFallback
  | .setIndexEligible _ _ => .setIndexEligible
  | .scanFallback => .scanFallback
  | .indexEligibility _ => .indexEligibility
  | .countMatches table _ => .countMatches table
  | .enumerateMatches table _ => .enumerateMatches table
  | .recreateTable table => .recreateTable table
  | .insertRows table _ => .insertRows table
  | .createIndex table order => .createIndex table order
  | .close => .close

namespace Operation

/-- Whether scans are allowed under a value of the setting. -/
def readSwitch? (value : String) : Option Bool :=
  if value = "on" then some true else if value = "off" then some false else none

/-- Rows from their columns. -/
def rowsOf : List String → List Int64 → List String → List Row
  | path :: paths, value :: values, revision :: revisions =>
      ⟨path, value, revision⟩ :: rowsOf paths values revisions
  | _, _, _ => []

/-- The request of an operation whose values are given in order, if they suit it. -/
def request? : Operation → List Parameter → Option Request
  | setScanFallback, [.text value] => (readSwitch? value).map .setScanFallback
  | setIndexEligible, [.boolean eligible, .text index] => some (.setIndexEligible index eligible)
  | scanFallback, [] => some .scanFallback
  | indexEligibility, [.text index] => some (.indexEligibility index)
  | countMatches table, [.text matcher, .integer low, .integer high] =>
      some (.countMatches table ⟨matcher, low, high⟩)
  | enumerateMatches table, [.text matcher, .integer low, .integer high] =>
      some (.enumerateMatches table ⟨matcher, low, high⟩)
  | recreateTable table, [] => some (.recreateTable table)
  | insertRows table, [.texts paths, .integers values, .texts revisions] =>
      some (.insertRows table (rowsOf paths values revisions))
  | createIndex table order, [] => some (.createIndex table order)
  | close, [] => some .close
  | _, _ => none

/-- Rows are put together again from their columns. -/
theorem rowsOf_columns (rows : List Row) :
    rowsOf (rows.map Row.path) (rows.map Row.value) (rows.map Row.revision) = rows := by
  induction rows with
  | nil => rfl
  | cons row rows ih =>
      simp only [List.map_cons, rowsOf, ih]

/-- A request is its operation with the parameters of its statements: every value travels as a
parameter, in a fixed order. -/
theorem request?_ofRequest (request : Request) :
    (ofRequest request).request?
      ((Statement.ofRequest request).flatMap Statement.parameters) = some request := by
  cases request with
  | setScanFallback enabled => cases enabled <;> rfl
  | insertRows table rows => exact congrArg (some ∘ Request.insertRows table) (rowsOf_columns rows)
  | _ => rfl

end Operation

namespace Statement

/-- The texts of the statements of a request depend on its operation only. -/
theorem text_ofRequest {first second : Request}
    (h : Operation.ofRequest first = Operation.ofRequest second) :
    (ofRequest first).map text = (ofRequest second).map text := by
  cases first <;> cases second <;> cases h <;> rfl

/-! ## Placeholders -/

/-- The characters behind the dollar signs of a text: the numbers of its placeholders. -/
def placeholders : List Char → List Char
  | [] => []
  | c :: rest => if c = '$' then rest.take 1 ++ placeholders rest else placeholders rest

/-- The numbers from one on, as they stand in placeholders. -/
def numbers (n : Nat) : List Char :=
  (List.range n).map fun k => Nat.digitChar (k + 1)

/-- Whether the placeholders of a statement number its parameters, in order. -/
def Numbered (statement : Statement) : Prop :=
  placeholders statement.text.toList = numbers statement.parameters.length

/-- The placeholders behind a text without a dollar sign are those of what follows. -/
theorem placeholders_append {before : List Char} (h : '$' ∉ before) (rest : List Char) :
    placeholders (before ++ rest) = placeholders rest := by
  induction before with
  | nil => rfl
  | cons c before ih =>
      have hc : c ≠ '$' := by
        intro heq
        exact h (heq ▸ List.mem_cons_self)
      have hbefore : '$' ∉ before := by
        intro hmem
        exact h (List.mem_cons_of_mem c hmem)
      rw [List.cons_append, placeholders, if_neg hc, ih hbefore]

/-- A text without a dollar sign has no placeholder at all. -/
theorem placeholders_eq_nil {cs : List Char} (h : '$' ∉ cs) : placeholders cs = [] := by
  have happend := placeholders_append h []
  rw [List.append_nil] at happend
  exact happend

/-- A statement without a dollar sign and without parameters is numbered. -/
theorem numbered_of_notMem {text : String} (h : '$' ∉ text.toList) : Numbered ⟨text, []⟩ := by
  unfold Numbered
  rw [placeholders_eq_nil h]
  rfl

/-- A table name has no dollar sign. -/
theorem dollar_notMem_text (table : TableName) : '$' ∉ table.text.toList := by
  intro hmem
  exact absurd (TableName.isWord_of_mem_text hmem) (by decide)

/-- The placeholders of a text that has a table name in it are those behind the name. -/
theorem placeholders_spliced (before : String) (h : '$' ∉ before.toList) (table : TableName)
    (after : String) :
    placeholders (before ++ table.text ++ after).toList = placeholders after.toList := by
  rw [String.toList_append, String.toList_append, List.append_assoc, placeholders_append h,
    placeholders_append (dollar_notMem_text table)]

/-- The placeholders of a query are its three values. -/
theorem query_numbered {columns : String} (h : '$' ∉ columns.toList) (table : TableName)
    (selector : Selector) : (query columns table selector).Numbered := by
  have hbefore : '$' ∉ ("SELECT " ++ columns ++ " FROM ").toList := by
    simp only [String.toList_append, List.mem_append, not_or]
    exact ⟨⟨by decide, h⟩, by decide⟩
  have hafter : placeholders " WHERE kpath ~ $1 AND kvalue BETWEEN $2 AND $3".toList =
      numbers 3 := by decide
  exact (placeholders_spliced _ hbefore table _).trans hafter

/-- The placeholders of every statement are numbered like its parameters. -/
theorem numbered_of_mem {request : Request} {statement : Statement}
    (h : statement ∈ ofRequest request) : statement.Numbered := by
  cases request with
  | setScanFallback enabled =>
      obtain rfl := List.mem_singleton.mp h
      have htext : placeholders "SELECT set_config('enable_seqscan', $1, false)".toList =
          numbers 1 := by decide
      exact htext
  | setIndexEligible index eligible =>
      obtain rfl := List.mem_singleton.mp h
      have htext : placeholders
          "UPDATE pg_index SET indisvalid = $1 WHERE indexrelid = $2::text::regclass".toList =
          numbers 2 := by decide
      exact htext
  | scanFallback =>
      obtain rfl := List.mem_singleton.mp h
      have htext : placeholders "SELECT current_setting('enable_seqscan')".toList =
          numbers 0 := by decide
      exact htext
  | indexEligibility index =>
      obtain rfl := List.mem_singleton.mp h
      have htext : placeholders
          "SELECT indisvalid FROM pg_index WHERE indexrelid = $1::text::regclass".toList =
          numbers 1 := by decide
      exact htext
  | countMatches table selector =>
      obtain rfl := List.mem_singleton.mp h
      exact query_numbered (by decide) table selector
  | enumerateMatches table selector =>
      obtain rfl := List.mem_singleton.mp h
      exact query_numbered (by decide) table selector
  | recreateTable table =>
      have htable := dollar_notMem_text table
      obtain rfl | hcreate := List.mem_cons.mp h
      · apply numbered_of_notMem
        simp only [String.toList_append, List.mem_append, not_or]
        exact ⟨by decide, htable⟩
      · obtain rfl := List.mem_singleton.mp hcreate
        apply numbered_of_notMem
        simp only [String.toList_append, List.mem_append, not_or]
        exact ⟨⟨by decide, htable⟩, by decide⟩
  | insertRows table rows =>
      obtain rfl := List.mem_singleton.mp h
      have hafter : placeholders (" (kpath, kvalue, revision) " ++
          "SELECT * FROM UNNEST($1::text[], $2::int8[], $3::text[])").toList =
          numbers 3 := by decide
      have htext := placeholders_spliced "INSERT INTO " (by decide) table
        (" (kpath, kvalue, revision) " ++
          "SELECT * FROM UNNEST($1::text[], $2::int8[], $3::text[])")
      rw [hafter, ← String.append_assoc] at htext
      exact htext
  | createIndex table order =>
      obtain rfl := List.mem_singleton.mp h
      have htable := dollar_notMem_text table
      have htag : '$' ∉ order.tag.toList := by cases order <;> decide
      have hcolumns : '$' ∉ order.columns.toList := by cases order <;> decide
      apply numbered_of_notMem
      simp only [IndexOrder.indexName, String.toList_append, List.mem_append, not_or]
      refine ⟨⟨⟨⟨⟨⟨by decide, ⟨htable, by decide⟩, htag⟩, by decide⟩, htable⟩, by decide⟩,
        hcolumns⟩, by decide⟩
  | close => cases h

end Statement
end Server
end IndexBench
