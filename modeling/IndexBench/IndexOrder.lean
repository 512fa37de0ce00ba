import IndexBench.TableName

/-!
# Composite index orders

A table of paths and values can be indexed with either column first.  A run
keeps exactly one of the two orders eligible, so the order that a run selects
says for each index whether it may be used.

Main definitions:

- `IndexOrder.tag` is the selector of an order, `IndexOrder.parse` reads it.
- `IndexOrder.indexName` is the name of the index of an order on a table.
- `IndexOrder.enables` is the eligibility of an order under a selection.
-/

namespace IndexBench

/-- The order of the two columns of a composite index. -/
inductive IndexOrder where
  /-- The value first, then the path. -/
  | valueFirst
  /-- The path first, then the value. -/
  | pathFirst
  deriving DecidableEq, Repr

namespace IndexOrder

/-- The selector of an order, on the command line and in index names. -/
def tag : IndexOrder → String
  | .valueFirst => "vp"
  | .pathFirst => "pv"

/-- The columns of an index, most significant first. -/
def columns : IndexOrder → String
  | .valueFirst => "kvalue, kpath"
  | .pathFirst => "kpath, kvalue"

/-- Reads a selector. -/
def parse (value : String) : Except Failure IndexOrder :=
  if value = "vp" then .ok .valueFirst
  else if value = "pv" then .ok .pathFirst
  else .error (.indexSelector value)

/-- The selector of an order reads as that order. -/
@[simp]
theorem parse_tag (order : IndexOrder) : parse order.tag = .ok order := by
  cases order <;> rfl

/-- Nothing but its selector reads as an order. -/
theorem parse_eq_ok_iff {value : String} {order : IndexOrder} :
    parse value = .ok order ↔ value = order.tag := by
  unfold parse
  cases order <;> grind [tag]

/-- The name of the index of this order on a table. -/
def indexName (order : IndexOrder) (table : TableName) : String :=
  table.text ++ "_idx_" ++ order.tag

/-- Both orders, as a load builds their indexes. -/
def buildSequence : List IndexOrder :=
  [.pathFirst, .valueFirst]

/-- Both orders, as a report lists their indexes. -/
def reportSequence : List IndexOrder :=
  [.valueFirst, .pathFirst]

/-- Whether a run that selects `selected` leaves the index of `order` eligible. -/
def enables (selected order : IndexOrder) : Bool :=
  selected == order

/-- A run enables the index that it selects and no other. -/
@[simp]
theorem enables_iff {selected order : IndexOrder} :
    selected.enables order = true ↔ selected = order := by
  simp [enables]

end IndexOrder
end IndexBench
