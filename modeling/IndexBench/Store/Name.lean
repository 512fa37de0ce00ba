import IndexBench.TableName

/-!
# Names in the store

The store compares the names of tables and indexes without regard to ASCII case,
keeps names with a certain start to itself and takes no reserved word for a name.

Main definitions:

- `Store.sameName` compares names.
- `Store.isReserved` recognises reserved words.
- `Store.isInternal` recognises the names that the store keeps to itself.
-/

namespace IndexBench
namespace Store

/-- An ASCII letter in lower case; other characters stay as they are. -/
def lowerChar (c : Char) : Char :=
  if 65 ≤ c.toNat ∧ c.toNat ≤ 90 then Char.ofNat (c.toNat + 32) else c

/-- A name in lower case. -/
def lowerName (name : String) : String :=
  String.ofList (name.toList.map lowerChar)

/-- Whether two names are equal up to ASCII case. -/
def sameName (a b : String) : Bool :=
  lowerName a == lowerName b

/-- A name is the same as itself. -/
@[simp]
theorem sameName_refl (name : String) : sameName name name = true := by
  simp [sameName]

/-- Names are the same in either order. -/
theorem sameName_comm (a b : String) : sameName a b = sameName b a := by
  simp only [sameName]
  exact BEq.comm

/-- Names that are the same as a third one are the same. -/
theorem sameName_trans {a b c : String} (hab : sameName a b = true)
    (hbc : sameName b c = true) : sameName a c = true := by
  simp only [sameName, beq_iff_eq] at *
  exact hab.trans hbc

/-- Names that are the same compare alike with every other. -/
theorem sameName_congr {a b : String} (h : sameName a b = true) (c : String) :
    sameName a c = sameName b c := by
  simp only [sameName, beq_iff_eq] at *
  rw [h]

/-- The words that cannot be names. -/
def reservedWords : List String :=
  [ "add", "all", "alter", "and", "as", "autoincrement", "between", "case", "check", "collate",
    "commit", "constraint", "create", "default", "deferrable", "delete", "distinct", "drop",
    "else", "escape", "except", "exists", "foreign", "from", "group", "having", "in", "index",
    "insert", "intersect", "into", "is", "isnull", "join", "limit", "not", "nothing", "notnull",
    "null", "on", "or", "order", "primary", "references", "returning", "select", "set", "table",
    "then", "to", "transaction", "union", "unique", "update", "using", "values", "when",
    "where" ]

/-- Whether a name is a reserved word. -/
def isReserved (name : String) : Bool :=
  reservedWords.contains (lowerName name)

/-- Whether a name belongs to the store itself. -/
def isInternal (name : String) : Bool :=
  "sqlite_".toList.isPrefixOf (lowerName name).toList

/-- Whether a name opens a condition where a statement that creates has its
name. -/
def opensCondition (name : String) : Bool :=
  sameName name "if"

end Store
end IndexBench
