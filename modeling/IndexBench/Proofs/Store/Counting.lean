import IndexBench.Machine
import IndexBench.Plan
import IndexBench.Proofs.Run.Trace
import IndexBench.Proofs.Store.Reachable

/-!
# Queries count what they select

Switches and marks decide how a query is planned, and its shape how it is stated.
Neither changes the number of rows that it selects.

Main definitions:

- `Table.selected` is the number of rows of a table that a selector selects.
- `Connection.query` is the number of rows that a query selects, in whatever shape.
- `Connection.Plannable` says that a forced index is there.

Main results:

- Theorems `Connection.countMatches_eq_query` and `Connection.enumerateMatches_eq_query`: the
  number that the store counts is the number of rows that it sends.
- Theorem `Connection.countP_visited`: a plan may leave out rows that are not selected.
- Theorem `Connection.queries_exact`: where requests lead, both shapes count what is
  selected under all switches and marks, and executing them yields the same count.
-/

namespace IndexBench
namespace Store

/-- Number of rows of a table, each as often as it is stored, whose path is matched and
whose value lies between the bounds of a selector. -/
def Table.selected (table : Table) (regex : Regex) (selector : Selector) : Nat :=
  table.rows.countP fun row =>
    decide (selector.low ≤ row.value ∧ row.value ≤ selector.high) && regex.isMatch row.path

namespace Connection

/-! ## Plans -/

/-- Rows out of range are not selected, so a plan need not visit them. -/
theorem countP_visited (table : Table) (order : Option IndexOrder) (regex : Regex)
    (selector : Selector) :
    ((visited table order selector).countP fun row =>
        regex.isMatch row.path && inRange selector row) =
      table.selected regex selector := by
  have hrow : ∀ row : Row, (regex.isMatch row.path && inRange selector row) =
      (decide (selector.low ≤ row.value ∧ row.value ≤ selector.high) &&
        regex.isMatch row.path) := by
    intro row
    rw [Bool.and_comm, inRange, Bool.decide_and]
  unfold visited Table.selected
  split
  · rw [List.countP_filter]
    refine List.countP_congr fun row _ => ?_
    rw [← hrow, Bool.and_assoc, Bool.and_self]
  · exact List.countP_congr fun row _ => by rw [hrow]

/-- Number of visited rows that a selector selects. -/
def countVisited (rows : List Row) (selector : Selector) : Except StoreFault Nat :=
  (selectVisited rows selector).map List.length

/-- Rows are counted by a matcher that can be read. -/
theorem countVisited_of_compile {selector : Selector} {regex : Regex}
    (h : Regex.compile selector.matcher = .ok regex) (rows : List Row) :
    countVisited rows selector =
      .ok (rows.countP fun row => regex.isMatch row.path && inRange selector row) := by
  unfold countVisited selectVisited
  cases rows with
  | nil => rfl
  | cons row rows =>
      simp only [h]
      exact congrArg Except.ok List.countP_eq_length_filter.symm

/-- Counting visited rows counts what is selected, if the matcher can be read. -/
theorem countVisited_visited (table : Table) (order : Option IndexOrder) {regex : Regex}
    {selector : Selector} (h : Regex.compile selector.matcher = .ok regex) :
    countVisited (visited table order selector) selector =
      .ok (table.selected regex selector) := by
  rw [countVisited_of_compile h, countP_visited table order]

/-- A matcher that cannot be read is no reason to fail if no row is visited. -/
theorem countVisited_of_error {selector : Selector} {fault : Regex.Fault}
    (h : Regex.compile selector.matcher = .error fault) (rows : List Row) :
    countVisited rows selector = .ok 0 ∨
      countVisited rows selector = .error (.matcher fault) := by
  unfold countVisited selectVisited
  cases rows with
  | nil => exact .inl rfl
  | cons row rows =>
      right
      rw [h]
      rfl

/-- Whether an index that queries on a table force is one of the table. -/
def Plannable (connection : Connection) (name : TableName) (table : Table) : Prop :=
  ∀ index, connection.hint name = some index → (table.index? index).isSome

/-- A forced index that is there can be used. -/
theorem Plannable.plan {connection : Connection} {name : TableName} {table : Table}
    (h : connection.Plannable name table) :
    ∃ order, plan table (connection.hint name) = .ok order := by
  unfold Connection.plan
  cases hhint : connection.hint name with
  | none => exact ⟨_, rfl⟩
  | some index =>
      obtain ⟨found, hfound⟩ := Option.isSome_iff_exists.mp (h index hhint)
      simp [hfound]

/-! ## Queries -/

/-- Number of rows that a query selects whose statement starts with `head`. -/
def query (connection : Connection) (head : String) (table : TableName) (selector : Selector) :
    Except StoreFault Nat :=
  (connection.results head table selector).map List.length

/-- The number in the one row that answers a counting query is that of the rows selected. -/
theorem countMatches_eq_query (connection : Connection) (table : TableName)
    (selector : Selector) :
    connection.countMatches table selector =
      connection.query Statement.countHead table selector := by
  rw [countMatches, query]
  cases connection.results Statement.countHead table selector with
  | error fault => rfl
  | ok rows => rfl

/-- Rows that are taken one by one are all counted. -/
theorem drain_eq (count : Nat) (rows : List Row) : drain count rows = count + rows.length := by
  induction rows generalizing count with
  | nil => rfl
  | cons row rows ih => rw [drain, ih, List.length_cons, Nat.add_right_comm, Nat.add_assoc]

/-- An enumerating query takes every row that is selected. -/
theorem enumerateMatches_eq_query (connection : Connection) (table : TableName)
    (selector : Selector) :
    connection.enumerateMatches table selector =
      connection.query Statement.enumerateHead table selector := by
  rw [enumerateMatches, query]
  cases connection.results Statement.enumerateHead table selector with
  | error fault => rfl
  | ok rows => exact congrArg Except.ok ((drain_eq 0 rows).trans (Nat.zero_add _))

/-- What a query in a shape answers. -/
def counts (connection : Connection) (name : TableName) (selector : Selector) :
    QueryShape → Except Failure Nat
  | .count => (connection.answer (.countMatches name selector)).outcome
  | .enumerate => (connection.answer (.enumerateMatches name selector)).outcome

/-- Where requests lead, a query in either shape counts the rows that its plan visits, if it
can be planned. -/
theorem counts_eq_plan {connection : Connection} (hreached : connection.database.Reached)
    {name : TableName} {table : Table} (hfound : connection.database.find? name.text = some table)
    (selector : Selector) (shape : QueryShape) :
    connection.counts name selector shape = failed (do
      let order ← plan table (connection.hint name)
      countVisited (visited table order selector) selector) := by
  obtain ⟨hreserved, hbuiltIn⟩ := hreached.named.isFree hfound
  have hquery (head : String) : (connection.noteUse name).query head name selector = (do
      let order ← plan table (connection.hint name)
      countVisited (visited table order selector) selector) := by
    have hhint : (connection.noteUse name).hint name = connection.hint name := rfl
    simp only [query, results, builtIn?, hreserved, hbuiltIn, database_noteUse, hfound, hhint]
    cases plan table (connection.hint name) with
    | error fault => rfl
    | ok order => rfl
  cases shape with
  | count =>
      exact congrArg failed ((countMatches_eq_query _ name selector).trans
        (hquery Statement.countHead))
  | enumerate =>
      exact congrArg failed ((enumerateMatches_eq_query _ name selector).trans
        (hquery Statement.enumerateHead))

/-- Where a forced index is there, a query in either shape counts the rows that its plan
visits. -/
theorem counts_eq_countVisited {connection : Connection} (hreached : connection.database.Reached)
    {name : TableName} {table : Table} (hfound : connection.database.find? name.text = some table)
    (hplan : connection.Plannable name table) :
    ∃ order, ∀ selector shape, connection.counts name selector shape =
      failed (countVisited (visited table order selector) selector) := by
  obtain ⟨order, horder⟩ := hplan.plan
  refine ⟨order, fun selector shape => ?_⟩
  rw [counts_eq_plan hreached hfound, horder]
  rfl

/-- Where a forced index is there, a query in either shape counts the rows that its selector
selects, if the matcher can be read. -/
theorem counts_eq_selected {connection : Connection} (hreached : connection.database.Reached)
    {name : TableName} {table : Table} (hfound : connection.database.find? name.text = some table)
    (hplan : connection.Plannable name table) {selector : Selector} {regex : Regex}
    (hregex : Regex.compile selector.matcher = .ok regex) (shape : QueryShape) :
    connection.counts name selector shape = .ok (table.selected regex selector) := by
  obtain ⟨order, hcounts⟩ := counts_eq_countVisited hreached hfound hplan
  rw [hcounts, countVisited_visited table order hregex]
  rfl

/-- A query that forces an index that is not there fails with its name. -/
theorem counts_eq_noSuchIndex {connection : Connection} (hreached : connection.database.Reached)
    {name : TableName} {table : Table} (hfound : connection.database.find? name.text = some table)
    {index : String} (hhint : connection.hint name = some index)
    (hmissing : (table.index? index).isSome = false) (selector : Selector) (shape : QueryShape) :
    connection.counts name selector shape = .error (.store (.noSuchIndex index)) := by
  have hnone : table.index? index = none := by simpa using hmissing
  rw [counts_eq_plan hreached hfound, hhint, Connection.plan]
  simp only [hnone]
  rfl

/-- Executing a query yields the count that is measured. -/
theorem count_execute_eq {σ : Type} (env : Environment σ) (name : TableName) (query : RangeQuery)
    (shape : QueryShape) (world : World σ) :
    ((execute shape name query).run env world).1.map Reading.count =
      ((measureQuery shape name query.selector).run env world).1.map Prod.fst := by
  rw [execute, Script.run_bind]
  rcases ((measureQuery shape name query.selector).run env world).1 with failure | ⟨count, elapsed⟩
  · rfl
  · rfl

/-- Executing a query on a store yields what the query answers. -/
theorem count_execute {connection : Connection} (name : TableName) (query : RangeQuery)
    (shape : QueryShape) (stopwatch : Nat → Nat) {world : World Machine} {anchor : Anchor}
    {pages : Option Pages} (hlink : world.state.link = some (.store anchor pages connection)) :
    ((execute shape name query).run (Machine.environment stopwatch) world).1.map Reading.count =
      connection.counts name query.selector shape := by
  have hanswer : ∀ request, (Machine.answer request world.state).outcome =
      (connection.answer request).outcome := by
    intro request
    simp [Machine.answer, hlink]
  rw [count_execute_eq]
  cases shape with
  | count =>
      exact (Script.outcome_measure _ (.countMatches name query.selector) world).trans (hanswer _)
  | enumerate =>
      exact (Script.outcome_measure _ (.enumerateMatches name query.selector) world).trans
        (hanswer _)

/-- Where requests lead and a forced index is there, both shapes count the rows that
a selector selects, whatever the switches and marks.  If the matcher cannot be read
they fail alike, or alike count nothing.  Executing a query in either shape yields the
same count. -/
theorem queries_exact {connection : Connection} (hreached : connection.database.Reached)
    {name : TableName} {table : Table} (hfound : connection.database.find? name.text = some table)
    (hplan : connection.Plannable name table) :
    (∀ selector regex, Regex.compile selector.matcher = .ok regex →
      ∀ shape, connection.counts name selector shape = .ok (table.selected regex selector)) ∧
    (∀ selector fault, Regex.compile selector.matcher = .error fault →
      (∀ shape, connection.counts name selector shape = .ok 0) ∨
        ∀ shape, connection.counts name selector shape = .error (.store (.matcher fault))) ∧
    ∀ (query : RangeQuery) (stopwatch : Nat → Nat) (world : World Machine) (anchor : Anchor)
      (pages : Option Pages), world.state.link = some (.store anchor pages connection) →
      ∀ shape, ((execute shape name query).run (Machine.environment stopwatch) world).1.map
        Reading.count = connection.counts name query.selector .count := by
  obtain ⟨order, hcounts⟩ := counts_eq_countVisited hreached hfound hplan
  refine ⟨?_, ?_, ?_⟩
  · exact fun selector regex hregex shape => counts_eq_selected hreached hfound hplan hregex shape
  · intro selector fault hfault
    rcases countVisited_of_error hfault (visited table order selector) with hzero | hfails
    · left
      intro shape
      rw [hcounts, hzero]
      rfl
    · right
      intro shape
      rw [hcounts, hfails]
      rfl
  · intro query stopwatch world anchor pages hlink shape
    rw [count_execute name query shape stopwatch hlink, hcounts, hcounts]

/-- Rows stored twice are counted twice, also by an index that is forced. -/
theorem queries_exact_forced :
    let records : TableName := ⟨"records", rfl⟩
    let row : Row := ⟨"/a", 1, ""⟩
    let connection := (opened .empty none).after
      [ .recreateTable records, .insertRows records [row, row, ⟨"/b", 5, ""⟩],
        .createIndex records .pathFirst, .setIndexEligible "records_idx_pv" true,
        .setScanFallback false ]
    connection.hint records = some "records_idx_pv" ∧
      connection.counts records ⟨"^", 0, 3⟩ .enumerate = .ok 2 := by
  intro records row connection
  let table : Table :=
    ⟨"records", [row, row, ⟨"/b", 5, ""⟩], [⟨"records_idx_pv", .pathFirst⟩]⟩
  have hconnection : connection =
      ⟨⟨[table]⟩, none, false, [("records_idx_pv", true)], []⟩ := by
    decide
  have hhint : connection.hint records = some "records_idx_pv" := by
    rw [hconnection]
    decide
  have hfound : connection.database.find? records.text = some table := by
    rw [hconnection]
    decide
  have hplan : connection.Plannable records table := by
    intro index hindex
    cases hhint.symm.trans hindex
    decide
  have hcounts := (queries_exact (reached_after .empty _) hfound hplan).1 ⟨"^", 0, 3⟩ _ rfl
    .enumerate
  exact ⟨hhint, hcounts.trans (congrArg Except.ok (by decide))⟩

end Connection
end Store
end IndexBench
