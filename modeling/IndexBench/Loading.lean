import IndexBench.Dataset
import IndexBench.Script

/-!
# Loading

A table is loaded by creating it anew, inserting the rows of a dataset in
batches and building both indexes.  The first failure ends the load.  The
buffer of a batch is reserved at its full size when the table has been created,
so a size that no buffer can have ends the program there.

Main definitions:

- `Loading.load` loads a table that there is a buffer for.
- `Loading.prepareTable` reserves the buffer and loads a table.
-/

namespace IndexBench
namespace Loading

open Script

/-- Sends a request whose failure ends the script. -/
def require (request : Request) : Fallible request.Reply :=
  ExceptT.mk (call request)

/-! ## Rows -/

/-- Adds to a number of rows, which has 64 bits and wraps around. -/
def addRows (imported count : Nat) : Nat :=
  (imported + count) % UInt64.size

/-- Inserts batches in order and adds up the rows that the engine reports, to those that were
imported before. -/
def insertAll (table : TableName) (imported : Nat) : List (List Row) → Fallible Nat
  | [] => pure imported
  | rows :: batches => do
      let count ← require (.insertRows table rows)
      insertAll table (addRows imported count) batches

/-- Builds the index of an order. -/
def buildIndex (table : TableName) (order : IndexOrder) : Fallible Unit := do
  note (.creatingIndex table order)
  require (.createIndex table order)

/-! ## Buffers -/

/-- Number of rows in a batch, which is never empty. -/
def batchSize (size : Nat) : Nat :=
  max size 1

/-- Number of bytes of a row in a buffer: two texts of three words each, and a value. -/
def rowBytes : Nat := 56

/-- The most bytes that a buffer can have. -/
def maxBytes : Nat := UInt64.size / 2 - 1

/-- Whether a buffer can have a number of rows. -/
def hasRoom (rows : Nat) : Bool :=
  rows * rowBytes ≤ maxBytes

/-- Reserves a buffer for a number of rows. -/
def reserve (rows : Nat) : ExceptT Panic Fallible Unit :=
  if hasRoom rows then pure () else throw .capacityOverflow

/-! ## Loads -/

/-- Creates a table anew, up to its first row. -/
def start (engine : EngineKind) (table : TableName) (size : Nat) : Fallible Unit := do
  note (.creatingTable engine table)
  require (.recreateTable table)
  note (.importing table (batchSize size))

/-- Fills a table that was created anew, builds its indexes and answers the number of rows. -/
def fill (table : TableName) (reader : Dataset.Reader) (size : Nat) : Fallible Nat := do
  let (batches, failure) := reader.batches (batchSize size)
  let rows ← insertAll table 0 batches
  if let some failure := failure then throw failure
  note (.imported table rows)
  IndexOrder.buildSequence.forM (buildIndex table)
  note (.tableReady table)
  return rows

/-- Loads a table that there is a buffer for and answers the number of rows. -/
def load (engine : EngineKind) (table : TableName) (reader : Dataset.Reader) (size : Nat) :
    Fallible Nat := do
  start engine table size
  fill table reader size

/-- Loads a table and answers the number of rows. -/
def prepareTable (engine : EngineKind) (table : TableName) (reader : Dataset.Reader)
    (size : Nat) : ExceptT Panic Fallible Nat := do
  start engine table size
  reserve (batchSize size)
  fill table reader size

end Loading
end IndexBench
