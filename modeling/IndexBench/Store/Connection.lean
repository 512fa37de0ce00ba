import IndexBench.Regex.Size
import IndexBench.Store.BuiltIn
import IndexBench.Store.Database
import IndexBench.Store.Statement
import IndexBench.World

/-!
# Connections to the store

The store has no switches for its planner.  A connection keeps them instead:
while scans are forbidden and exactly one composite index of a table is marked
eligible, queries on the table force that index.

Main definitions:

- `Connection` is a connection with its switches.
- `Connection.hint` is the index that a query forces, `Connection.matchText` its statement.
- `Connection.results` are the rows that a query selects.
- `Connection.countMatches` and `Connection.enumerateMatches` evaluate a query in either shape.
- `Connection.answer` answers every request.

Main results:

- Theorem `Connection.mark?_setMark`: marking an index changes its own mark only.
- Theorem `Connection.database_answer_of_refusal`: a connection that refuses changes makes none.
-/

namespace IndexBench
namespace Store

/-- A connection to a database. -/
structure Connection where
  database : Database
  /-- Why changes to the database are refused, if they are. -/
  refusal : Option StoreFault
  scanFallback : Bool
  /-- The indexes marked eligible or not, by the exact names used to mark them. -/
  eligibility : List (String × Bool)
  /-- The tables of settings that were used, by the names they were first used
  under. -/
  usedSettings : List String
  deriving DecidableEq, Repr

namespace Connection

/-- A connection that has just been opened. -/
def opened (database : Database) (refusal : Option StoreFault) : Connection :=
  ⟨database, refusal, true, [], []⟩

/-- Another connection to the same pages. -/
def renewed (connection : Connection) : Connection :=
  opened connection.database connection.refusal

/-! ## Switches -/

/-- The mark of an index, if it has one. -/
def mark? (connection : Connection) (index : String) : Option Bool :=
  connection.eligibility.lookup index

/-- Marks an index. -/
def setMark (connection : Connection) (index : String) (eligible : Bool) : Connection :=
  { connection with
    eligibility :=
      (index, eligible) :: connection.eligibility.filter fun entry => entry.1 != index }

/-- The index that queries on a table force. -/
def hint (connection : Connection) (table : TableName) : Option String :=
  if connection.scanFallback then none
  else
    match (IndexOrder.buildSequence.map fun order => order.indexName table).filter fun index =>
        connection.mark? index == some true with
    | [index] => some index
    | _ => none

/-- A new connection has marked nothing. -/
@[simp]
theorem mark?_opened (database : Database) (refusal : Option StoreFault) (index : String) :
    (opened database refusal).mark? index = none :=
  rfl

/-- A new connection forces no index. -/
@[simp]
theorem hint_opened (database : Database) (refusal : Option StoreFault) (table : TableName) :
    (opened database refusal).hint table = none :=
  rfl

/-- Marking an index changes its own mark only. -/
theorem mark?_setMark (connection : Connection) (index other : String) (eligible : Bool) :
    (connection.setMark index eligible).mark? other =
      if other = index then some eligible else connection.mark? other := by
  unfold mark? setMark
  split
  · rename_i h
    simp [h]
  · rename_i h
    have hne : (other == index) = false := by simpa using h
    rw [List.lookup_cons, hne]
    exact lookup_filter_ne h connection.eligibility

/-- The text of a switch. -/
def switchText (enabled : Bool) : String :=
  if enabled then "on" else "off"

/-- The text of a mark; an index without a mark is eligible. -/
def markText (mark : Option Bool) : String :=
  if mark.getD true then "t" else "f"

/-! ## Queries -/

/-- Whether a value lies in the range of a selector. -/
def inRange (selector : Selector) (row : Row) : Bool :=
  selector.low ≤ row.value && row.value ≤ selector.high

/-- The rows that a plan visits: an index with the value first leads to the rows
in range, any other plan to all rows. -/
def visited (table : Table) (order : Option IndexOrder) (selector : Selector) : List Row :=
  if order = some .valueFirst then table.rows.filter (inRange selector) else table.rows

/-- The visited rows that a selector selects.  Its matcher is read when there is a row to be
tested. -/
def selectVisited (rows : List Row) (selector : Selector) : Except StoreFault (List Row) :=
  match rows with
  | [] => .ok []
  | _ =>
      match Regex.compile selector.matcher with
      | .error fault => .error (.matcher fault)
      | .ok regex => .ok (rows.filter fun row => regex.isMatch row.path && inRange selector row)

/-- The order of the index that a query uses, or why it cannot be planned. -/
def plan (table : Table) (hint : Option String) : Except StoreFault (Option IndexOrder) :=
  match hint with
  | none => .ok ((table.indexOf? .valueFirst).map Index.order)
  | some name =>
      match table.index? name with
      | some index => .ok (some index.order)
      | none => .error (.noSuchIndex name)

/-- The place of the column `kpath` in a query on a table that lacks it. -/
def columnOffset (head : String) (table : TableName) : Nat :=
  if head = Statement.countHead then (head ++ table.text ++ " WHERE ").length else 7

/-- The built-in table of a name. -/
def builtIn? (connection : Connection) (name : String) : Option BuiltIn :=
  BuiltIn.find? connection.usedSettings name

/-- A connection after a use of a table. -/
def noteUse (connection : Connection) (table : TableName) : Connection :=
  { connection with usedSettings := BuiltIn.remember connection.usedSettings table.text }

/-- The statement of a query on a table.  It starts with `head` and names the index that is
forced. -/
def matchText (connection : Connection) (head : String) (table : TableName) : String :=
  head ++ Statement.queryTail table.text (connection.hint table)

/-- The rows that a query selects whose statement starts with `head`. -/
def results (connection : Connection) (head : String) (table : TableName) (selector : Selector) :
    Except StoreFault (List Row) :=
  let name := table.text
  let statement := connection.matchText head table
  if isReserved name then .error (.unexpected name statement head.length)
  else if (connection.builtIn? name).isSome then
    .error (.noSuchColumn "kpath" statement (columnOffset head table))
  else
    match connection.database.find? name with
    | none => .error (BuiltIn.absence name name)
    | some found => do
        let order ← plan found (connection.hint table)
        selectVisited (visited found order selector) selector

/-- Counts the rows that a query selects: the store answers one row with their number, which is
a signed integer. -/
def countMatches (connection : Connection) (table : TableName) (selector : Selector) :
    Except StoreFault Nat := do
  let rows ← connection.results Statement.countHead table selector
  let number : Int := rows.length
  return number.toNat

/-- Takes rows one by one and counts them, on top of those that were taken before. -/
def drain (count : Nat) : List Row → Nat
  | [] => count
  | _ :: rows => drain (count + 1) rows

/-- Enumerates the rows that a query selects and counts them. -/
def enumerateMatches (connection : Connection) (table : TableName) (selector : Selector) :
    Except StoreFault Nat := do
  let rows ← connection.results Statement.enumerateHead table selector
  return drain 0 rows

/-! ## Changes -/

/-- Whether a mark is on an index of a table, going by its name. -/
def marksIndexOf (table : TableName) (entry : String × Bool) : Bool :=
  (table.text ++ "_idx_").toList.isPrefixOf entry.1.toList

/-- Drops a table, if there is one. -/
def drop (connection : Connection) (table : TableName) : Except StoreFault Connection :=
  let name := table.text
  if isReserved name then
    .error (.unexpected name (Statement.recreate name) Statement.dropHead.length)
  else
    match connection.builtIn? name with
    | some builtIn => .error builtIn.dropFault
    | none =>
        match connection.refusal, connection.database.find? name with
        | some fault, some _ => .error fault
        | _, _ => .ok { connection with database := connection.database.drop name }

/-- Why a table of a name that is free cannot be created, if there is a
reason. -/
def creationFault? (connection : Connection) (name : String) : Option StoreFault :=
  if opensCondition name then
    some (.unexpected "(" (Statement.create name) (Statement.createHead name).length)
  else if isInternal name then some (.reservedName name)
  else if connection.database.hasIndex name then some (.namedIndex name)
  else connection.refusal

/-- Creates a table anew.  The old table is gone even if the new one is refused;
the marks on its indexes go only with success. -/
def recreate (connection : Connection) (table : TableName) :
    Except StoreFault Unit × Connection :=
  match connection.drop table with
  | .error fault => (.error fault, connection)
  | .ok dropped =>
      match dropped.creationFault? table.text with
      | some fault => (.error fault, dropped)
      | none =>
          (.ok (),
            { dropped with
              database := dropped.database.create table.text
              eligibility := dropped.eligibility.filter fun entry =>
                !marksIndexOf table entry })

/-- Why rows cannot be inserted into a table, if there is a reason. -/
def insertionFault? (connection : Connection) (name : String) (rows : List Row) :
    Option StoreFault :=
  if isReserved name then
    some (.unexpected name (Statement.insert name) Statement.insertHead.length)
  else
    match connection.builtIn? name with
    | some builtIn => some builtIn.insertFault
    | none =>
        if (connection.database.find? name).isNone then some (BuiltIn.absence name name)
        else if rows.isEmpty then none
        else connection.refusal

/-- Appends rows to a table. -/
def insert (connection : Connection) (table : TableName) (rows : List Row) :
    Except StoreFault Nat × Connection :=
  match connection.insertionFault? table.text rows with
  | some fault => (.error fault, connection)
  | none =>
      (.ok rows.length,
        { connection with
          database := connection.database.modify table.text fun found =>
            { found with rows := found.rows ++ rows } })

/-- Why an index of a table cannot be built, if there is a reason. -/
def indexingFault? (connection : Connection) (table : TableName) (order : IndexOrder) :
    Option StoreFault :=
  let name := table.text
  let index := order.indexName table
  if isReserved name then
    some (.unexpected name (Statement.createIndex name index order.columns)
      (Statement.createIndexHead index).length)
  else
    match connection.builtIn? name with
    | some builtIn => some builtIn.indexFault
    | none =>
        if (connection.database.find? name).isNone then
          some (BuiltIn.absence name ("main." ++ name))
        else if isInternal index then some (.reservedName index)
        else if (connection.database.find? index).isSome then some (.namedTable index)
        else if connection.database.hasIndex index then some (.indexExists index)
        else connection.refusal

/-- Builds an index. -/
def createIndex (connection : Connection) (table : TableName) (order : IndexOrder) :
    Except StoreFault Unit × Connection :=
  match connection.indexingFault? table order with
  | some fault => (.error fault, connection)
  | none =>
      (.ok (),
        { connection with
          database := connection.database.modify table.text fun found =>
            { found with indexes := found.indexes ++ [⟨order.indexName table, order⟩] } })

/-! ## Requests -/

/-- An outcome of the store as an outcome of a request. -/
def failed {α : Type} : Except StoreFault α → Except Failure α
  | .ok value => .ok value
  | .error fault => .error (.store fault)

/-- Answers a request. -/
def answer : (request : Request) → Connection → Response request.Reply Connection
  | .setScanFallback enabled, connection =>
      ⟨.ok (), [], { connection with scanFallback := enabled }⟩
  | .setIndexEligible index eligible, connection =>
      if connection.database.hasIndexExactly index then
        ⟨.ok (), [], connection.setMark index eligible⟩
      else ⟨.error (.unknownIndex index), [], connection⟩
  | .scanFallback, connection => ⟨.ok (some (switchText connection.scanFallback)), [], connection⟩
  | .indexEligibility index, connection =>
      ⟨.ok (if connection.database.hasIndexExactly index then
          some (markText (connection.mark? index)) else none), [], connection⟩
  | .countMatches table selector, connection =>
      let connection := connection.noteUse table
      ⟨failed (connection.countMatches table selector), [], connection⟩
  | .enumerateMatches table selector, connection =>
      let connection := connection.noteUse table
      ⟨failed (connection.enumerateMatches table selector), [], connection⟩
  | .recreateTable table, connection =>
      let (outcome, connection) := (connection.noteUse table).recreate table
      ⟨failed outcome, [], connection⟩
  | .insertRows table rows, connection =>
      match (connection.noteUse table).insert table rows with
      | (.ok count, connection) =>
          ⟨.ok count, [.batchInserted table rows.length], connection⟩
      | (.error fault, connection) => ⟨.error (.store fault), [], connection⟩
  | .createIndex table order, connection =>
      let (outcome, connection) := (connection.noteUse table).createIndex table order
      ⟨failed outcome, [], connection⟩
  | .close, connection => ⟨.ok (), [], connection⟩

/-! ## Refused changes -/

/-- A use of a table leaves the database as it is. -/
@[simp]
theorem database_noteUse (connection : Connection) (table : TableName) :
    (connection.noteUse table).database = connection.database :=
  rfl

/-- A use of a table leaves the reason to refuse changes as it is. -/
@[simp]
theorem refusal_noteUse (connection : Connection) (table : TableName) :
    (connection.noteUse table).refusal = connection.refusal :=
  rfl

/-- What is dropped in spite of a refusal was not there. -/
theorem drop_of_refusal {connection dropped : Connection} {table : TableName} {fault : StoreFault}
    (h : connection.refusal = some fault) (hdrop : connection.drop table = .ok dropped) :
    dropped = connection := by
  simp only [drop] at hdrop
  split at hdrop
  · cases hdrop
  · split at hdrop
    · cases hdrop
    · rw [h] at hdrop
      cases hfind : connection.database.find? table.text with
      | some found =>
          rw [hfind] at hdrop
          cases hdrop
      | none =>
          rw [hfind] at hdrop
          cases hdrop
          rw [Database.drop_of_find?_eq_none hfind, ← h]

/-- Where changes are refused, no table is created. -/
theorem isSome_creationFault?_of_refusal {connection : Connection} {fault : StoreFault}
    (h : connection.refusal = some fault) (name : String) :
    (connection.creationFault? name).isSome = true := by
  unfold creationFault?
  split
  · rfl
  · split
    · rfl
    · split
      · rfl
      · rw [h]
        rfl

/-- A refused new table leaves the database as it is. -/
theorem database_recreate_of_refusal {connection : Connection} {fault : StoreFault}
    (h : connection.refusal = some fault) (table : TableName) :
    (connection.recreate table).2.database = connection.database := by
  unfold recreate
  split
  · rfl
  · rename_i dropped hdrop
    rw [drop_of_refusal h hdrop]
    split
    · rfl
    · rename_i hcreate
      have hfault := isSome_creationFault?_of_refusal h table.text
      rw [hcreate] at hfault
      cases hfault

/-- Refused rows leave the database as it is. -/
theorem database_insert_of_refusal {connection : Connection} {fault : StoreFault}
    (h : connection.refusal = some fault) (table : TableName) (rows : List Row) :
    (connection.insert table rows).2.database = connection.database := by
  unfold insert
  cases hinsert : connection.insertionFault? table.text rows with
  | some _ => rfl
  | none =>
      have hrows : rows = [] := by
        unfold insertionFault? at hinsert
        rw [h] at hinsert
        grind
      subst hrows
      exact Database.modify_eq_self fun found => by simp

/-- A refused index leaves the database as it is. -/
theorem database_createIndex_of_refusal {connection : Connection} {fault : StoreFault}
    (h : connection.refusal = some fault) (table : TableName) (order : IndexOrder) :
    (connection.createIndex table order).2.database = connection.database := by
  unfold createIndex
  cases hindex : connection.indexingFault? table order with
  | some _ => rfl
  | none =>
      unfold indexingFault? at hindex
      rw [h] at hindex
      grind

/-- A connection that refuses changes makes none. -/
theorem database_answer_of_refusal {connection : Connection} {fault : StoreFault}
    (h : connection.refusal = some fault) (request : Request) :
    (connection.answer request).state.database = connection.database := by
  have huse (table : TableName) : (connection.noteUse table).refusal = some fault := h
  cases request with
  | recreateTable table => exact database_recreate_of_refusal (huse table) table
  | insertRows table rows =>
      have hinsert := database_insert_of_refusal (huse table) table rows
      simp only [answer]
      split <;> rename_i heq <;> rw [heq] at hinsert <;> exact hinsert
  | createIndex table order => exact database_createIndex_of_refusal (huse table) table order
  | setIndexEligible index eligible =>
      simp only [answer]
      split <;> rfl
  | _ => rfl

end Connection
end Store
end IndexBench
