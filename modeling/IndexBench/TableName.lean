import IndexBench.Failure

/-!
# Table names

A table name is spliced into statements as it is, so it is a bare identifier:
an ASCII letter or an underscore, then ASCII letters, digits and underscores.
The rule is part of the type.
-/

namespace IndexBench

/-- The rule of a bare identifier. -/
def isIdentifier : List Char → Bool
  | [] => false
  | c :: rest => (c.isAlpha || c == '_') && rest.all fun d => d.isAlphanum || d == '_'

/-- The name of a table. -/
structure TableName where
  text : String
  isIdentifier_text : isIdentifier text.toList = true
  deriving DecidableEq

namespace TableName

/-- Reads a table name, refusing what is no bare identifier. -/
def parse (name : String) : Except Failure TableName :=
  if h : isIdentifier name.toList = true then .ok ⟨name, h⟩ else .error (.tableName name)

/-- The text of a table name reads as that name. -/
@[simp]
theorem parse_text (table : TableName) : parse table.text = .ok table := by
  simp [parse, table.isIdentifier_text]

/-- Nothing but its text reads as a table name. -/
theorem parse_eq_ok_iff {name : String} {table : TableName} :
    parse name = .ok table ↔ name = table.text := by
  constructor
  · intro h
    unfold parse at h
    split at h
    · cases h; rfl
    · cases h
  · rintro rfl
    exact parse_text table

/-- A table name has only letters, digits and underscores. -/
theorem isWord_of_mem_text {table : TableName} {c : Char} (h : c ∈ table.text.toList) :
    (c.isAlphanum || c == '_') = true := by
  have hname := table.isIdentifier_text
  cases htext : table.text.toList with
  | nil =>
      rw [htext] at h
      cases h
  | cons first rest =>
      rw [htext] at h hname
      obtain ⟨hfirst, hrest⟩ := Bool.and_eq_true_iff.mp hname
      rcases List.mem_cons.mp h with rfl | hlater
      · rw [Char.isAlphanum, Bool.or_right_comm, hfirst, Bool.true_or]
      · exact List.all_eq_true.mp hrest c hlater

instance : Repr TableName where
  reprPrec table _ := repr table.text

end TableName
end IndexBench
