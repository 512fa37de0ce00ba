import IndexBench.Proofs.Store.Counting
import IndexBench.Proofs.Store.Settling

/-!
# Statements and matchers that are kept

A connection keeps the statements that it has prepared, by their texts, and executes them
again for queries with other matchers.  While it is executed a statement keeps the matcher
that it has read for its first row, and when it ends, or has failed on the way, it forgets
it.  So nothing of an execution is left for a later one, and a query counts as if there were
no earlier ones.

Main definitions:

- `Prepared` is a statement with the matcher that it keeps; `Prepared.execute` executes it.
- `Connection.ask` evaluates a query by a statement that is prepared or kept.
- `Inquiry` is a query on a table, and `Connection.inquire` answers one after others.

Main results:

- Theorem `Prepared.scan_eq`: a statement counts row by row what is counted at once.
- Theorem `Connection.counts_noteUses`: what a query answers does not depend on the tables
  that were used before.
- Theorem `Connection.inquire_inquired`: what a query answers does not depend on the queries
  before it.
-/

namespace IndexBench
namespace Store

/-! ## Matchers -/

/-- A prepared statement, with the matcher that it keeps. -/
structure Prepared where
  text : String
  kept : Option Regex

namespace Prepared

/-- The matcher of a statement: the one that is kept, or else the one that is bound. -/
def matcher (statement : Prepared) (bound : String) : Except StoreFault Regex :=
  match statement.kept with
  | some regex => .ok regex
  | none => (Regex.compile bound).mapError .matcher

/-- Tests rows one after the other, each with the matcher that was kept for the one before
it.  If the matcher cannot be read, no more rows are tested. -/
def scan (selector : Selector) : List Row → Prepared → Except StoreFault Nat × Prepared
  | [], statement => (.ok 0, statement)
  | row :: rows, statement =>
      match statement.matcher selector.matcher with
      | .error fault => (.error fault, statement)
      | .ok regex =>
          let (outcome, ran) := scan selector rows { statement with kept := some regex }
          let tested := if regex.isMatch row.path && Connection.inRange selector row then 1 else 0
          (outcome.map (· + tested), ran)

/-- A statement that has ended keeps no matcher. -/
def reset (statement : Prepared) : Prepared :=
  { statement with kept := none }

/-- Executes a statement. -/
def execute (statement : Prepared) (selector : Selector) (rows : List Row) :
    Except StoreFault Nat × Prepared :=
  let (outcome, ran) := scan selector rows statement
  (outcome, ran.reset)

/-- Whether a statement keeps no matcher but the one that is bound. -/
def Fits (statement : Prepared) (bound : String) : Prop :=
  ∀ regex, statement.kept = some regex → Regex.compile bound = .ok regex

/-- A kept matcher that fits is the one that is bound. -/
theorem Fits.matcher_eq {statement : Prepared} {bound : String} (h : statement.Fits bound) :
    statement.matcher bound = (Regex.compile bound).mapError .matcher := by
  unfold matcher
  cases hkept : statement.kept with
  | none => rfl
  | some regex => rw [h regex hkept]; rfl

/-- A statement counts row by row what is counted at once. -/
theorem scan_eq {statement : Prepared} {selector : Selector}
    (h : statement.Fits selector.matcher) (rows : List Row) :
    (scan selector rows statement).1 = Connection.countVisited rows selector := by
  induction rows generalizing statement with
  | nil => rfl
  | cons row rows ih =>
      rw [scan, h.matcher_eq]
      cases hcompile : Regex.compile selector.matcher with
      | error fault =>
          simp only [Connection.countVisited, Connection.selectVisited, hcompile]
          rfl
      | ok regex =>
          have hlater := @ih { statement with kept := some regex } fun other hother =>
            Option.some.inj hother ▸ hcompile
          rw [Connection.countVisited_of_compile hcompile] at hlater ⊢
          simp only [Except.mapError, hlater, List.countP_cons]
          rfl

end Prepared

/-! ## Statements -/

/-- Statements that are kept, the last one used first. -/
abbrev Statements := List Prepared

namespace Statements

/-- The statement of a text: the one that is kept, or else a new one. -/
def obtain (statements : Statements) (text : String) : Prepared :=
  (statements.find? fun statement => statement.text == text).getD ⟨text, none⟩

/-- Statements after one was used.  Of too many the one that was not used for longest goes. -/
def giveBack (capacity : Nat) (statements : Statements) (used : Prepared) : Statements :=
  (used :: statements.filter fun statement => statement.text != used.text).take capacity

/-- Whether no statement keeps a matcher. -/
def Idle (statements : Statements) : Prop :=
  ∀ statement ∈ statements, statement.kept = none

/-- A statement of idle ones keeps no matcher. -/
theorem Idle.kept_obtain {statements : Statements} (h : statements.Idle) (text : String) :
    (statements.obtain text).kept = none := by
  unfold obtain
  cases hfind : statements.find? fun statement => statement.text == text with
  | none => rfl
  | some statement => exact h statement (List.mem_of_find?_eq_some hfind)

/-- Idle statements stay idle when one is given back that keeps no matcher. -/
theorem Idle.giveBack {statements : Statements} (h : statements.Idle) (capacity : Nat)
    {used : Prepared} (hused : used.kept = none) :
    (statements.giveBack capacity used).Idle := by
  intro statement hstatement
  rcases List.mem_cons.mp (List.mem_of_mem_take hstatement) with rfl | hother
  · exact hused
  · exact h statement (List.mem_filter.mp hother).1

end Statements

/-! ## Queries -/

/-- The start of the statement of a query in a shape. -/
def queryHead : QueryShape → String
  | .count => Statement.countHead
  | .enumerate => Statement.enumerateHead

namespace Connection

variable {connection : Connection}

/-- The statement of a query and the rows that its plan visits, or why it is not executed. -/
def planned (connection : Connection) (head : String) (table : TableName)
    (selector : Selector) : Except StoreFault (String × List Row) :=
  let name := table.text
  let statement := connection.matchText head table
  if isReserved name then .error (.unexpected name statement head.length)
  else if (connection.builtIn? name).isSome then
    .error (.noSuchColumn "kpath" statement (columnOffset head table))
  else
    match connection.database.find? name with
    | none => .error (BuiltIn.absence name name)
    | some found => do
        let order ← plan found (connection.hint table)
        return (statement, visited found order selector)

/-- A query counts the rows that its plan visits. -/
theorem query_eq_planned (head : String) (table : TableName) (selector : Selector) :
    connection.query head table selector = (do
      let (_, rows) ← connection.planned head table selector
      countVisited rows selector) := by
  simp only [query, results, planned]
  split
  · rfl
  · split
    · rfl
    · cases connection.database.find? table.text with
      | none => rfl
      | some found =>
          cases hplan : plan found (connection.hint table) with
          | error fault => simp only [hplan]; rfl
          | ok order => simp only [hplan]; rfl

/-- Evaluates a query by a statement that is kept or prepared for it. -/
def ask (connection : Connection) (capacity : Nat) (statements : Statements) (head : String)
    (table : TableName) (selector : Selector) : Except StoreFault Nat × Statements :=
  match connection.planned head table selector with
  | .error fault => (.error fault, statements)
  | .ok (text, rows) =>
      let (outcome, ended) := (statements.obtain text).execute selector rows
      (outcome, statements.giveBack capacity ended)

/-- Where statements are idle, a query counts what it counts without them, and leaves them
idle, also if it fails on the way. -/
theorem ask_eq (connection : Connection) {statements : Statements} (h : statements.Idle)
    (capacity : Nat) (head : String) (table : TableName) (selector : Selector) :
    (connection.ask capacity statements head table selector).1 =
        connection.query head table selector ∧
      (connection.ask capacity statements head table selector).2.Idle := by
  rw [ask, query_eq_planned]
  rcases connection.planned head table selector with fault | ⟨text, rows⟩
  · exact ⟨rfl, h⟩
  · refine ⟨Prepared.scan_eq (fun regex hkept => ?_) rows, h.giveBack capacity rfl⟩
    rw [h.kept_obtain] at hkept
    cases hkept

/-! ## Queries before a query -/

/-- A query does not depend on the tables that were used before. -/
theorem query_noteUses (tables : List TableName) (head : String) (table : TableName)
    (selector : Selector) :
    (connection.noteUses tables).query head table selector =
      connection.query head table selector := by
  have hbuiltIn : ((connection.noteUses tables).builtIn? table.text).isSome =
      (connection.builtIn? table.text).isSome := by
    rw [Bool.eq_iff_iff, ← not_iff_not]
    simp only [Bool.not_eq_true, Option.isSome_eq_false_iff, Option.isNone_iff_eq_none]
    exact ⟨fun h => BuiltIn.find?_eq_none_of h _, fun h => BuiltIn.find?_eq_none_of h _⟩
  have hhint : (connection.noteUses tables).hint table = connection.hint table := rfl
  have hdatabase : (connection.noteUses tables).database = connection.database := rfl
  simp only [query, results, matchText, hbuiltIn, hhint, hdatabase]

/-- What a query answers is what it counts. -/
theorem counts_eq_query (name : TableName) (selector : Selector) (shape : QueryShape) :
    connection.counts name selector shape =
      failed (connection.query (queryHead shape) name selector) := by
  have huse : connection.noteUse name = connection.noteUses [name] := rfl
  cases shape with
  | count => simp only [counts, answer, huse, countMatches_eq_query, query_noteUses, queryHead]
  | enumerate =>
      simp only [counts, answer, huse, enumerateMatches_eq_query, query_noteUses, queryHead]

/-- What a query answers does not depend on the tables that were used before. -/
theorem counts_noteUses (tables : List TableName) (name : TableName) (selector : Selector)
    (shape : QueryShape) :
    (connection.noteUses tables).counts name selector shape =
      connection.counts name selector shape := by
  rw [counts_eq_query, counts_eq_query, query_noteUses]

end Connection

/-- A query in a shape on a table. -/
structure Inquiry where
  shape : QueryShape
  table : TableName
  selector : Selector

/-- The request of a query. -/
def Inquiry.request (inquiry : Inquiry) : Request :=
  match inquiry.shape with
  | .count => .countMatches inquiry.table inquiry.selector
  | .enumerate => .enumerateMatches inquiry.table inquiry.selector

namespace Connection

/-- Answers a query by a connection and the statements that it keeps. -/
def inquire (capacity : Nat) (state : Connection × Statements) (inquiry : Inquiry) :
    Except Failure Nat × (Connection × Statements) :=
  let connection := state.1.noteUse inquiry.table
  let (outcome, statements) := connection.ask capacity state.2 (queryHead inquiry.shape)
    inquiry.table inquiry.selector
  (failed outcome, (connection, statements))

/-- A connection and the statements that it keeps after queries. -/
def inquired (capacity : Nat) (state : Connection × Statements) (inquiries : List Inquiry) :
    Connection × Statements :=
  inquiries.foldl (fun state inquiry => (inquire capacity state inquiry).2) state

/-- Where statements are idle a query answers what it answers without them, and leaves them
idle. -/
theorem inquire_eq {state : Connection × Statements} (h : state.2.Idle) (capacity : Nat)
    (inquiry : Inquiry) :
    (inquire capacity state inquiry).1 =
        state.1.counts inquiry.table inquiry.selector inquiry.shape ∧
      (inquire capacity state inquiry).2.1 = state.1.noteUses [inquiry.table] ∧
      (inquire capacity state inquiry).2.2.Idle := by
  obtain ⟨houtcome, hidle⟩ := (state.1.noteUses [inquiry.table]).ask_eq h capacity
    (queryHead inquiry.shape) inquiry.table inquiry.selector
  refine ⟨?_, rfl, hidle⟩
  rw [counts_eq_query, ← query_noteUses [inquiry.table], ← houtcome]
  rfl

/-- Queries leave statements idle, and note the uses of their tables. -/
theorem inquired_eq (state : Connection × Statements) (h : state.2.Idle) (capacity : Nat)
    (inquiries : List Inquiry) :
    (inquired capacity state inquiries).1 =
        state.1.noteUses (inquiries.map Inquiry.table) ∧
      (inquired capacity state inquiries).2.Idle := by
  induction inquiries generalizing state with
  | nil => exact ⟨rfl, h⟩
  | cons inquiry inquiries ih =>
      obtain ⟨-, hconnection, hidle⟩ := inquire_eq h capacity inquiry
      obtain ⟨hlater, hlast⟩ := ih _ hidle
      exact ⟨hlater.trans (by rw [hconnection, ← noteUses_append]; rfl), hlast⟩

/-- What a query answers does not depend on the queries before it, in whatever order they are,
whichever of them fail, and however many statements are kept. -/
theorem inquire_inquired (connection : Connection) {statements : Statements}
    (h : statements.Idle) (capacity : Nat) (earlier : List Inquiry) (inquiry : Inquiry) :
    (inquire capacity (inquired capacity (connection, statements) earlier) inquiry).1 =
      connection.counts inquiry.table inquiry.selector inquiry.shape := by
  obtain ⟨hconnection, hidle⟩ := inquired_eq (connection, statements) h capacity earlier
  rw [(inquire_eq hidle capacity inquiry).1, hconnection, counts_noteUses]

end Connection
end Store
end IndexBench
