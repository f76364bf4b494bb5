import ExpandContract.Backfill.Batch
import ExpandContract.Session.Config

/-!
# Running a backfill

The rows of a table are updated batch by batch, each batch in a transaction of its own, so that an
interrupted backfill keeps what it has done and only one batch of rows is locked at a time. A batch
begins after the last key of the batch before. The backfill is over with the first batch that is not
full.

The number of rows is not known beforehand. The server's estimate serves for the progress reports,
or a count where there is no estimate, and it is raised when more rows turn up.
-/

set_option autoImplicit false

namespace ExpandContract.Backfill

open Session

/-- What a backfill has done. -/
structure Progress where
  table : String
  rowsDone : Nat
  /-- The number of rows the table is believed to have. -/
  rowsTotal : Nat
  /-- The number of batches that wrote rows. -/
  batches : Nat
deriving DecidableEq, Repr

/-- The progress after a batch of rows. -/
def Progress.add (p : Progress) (rows : Nat) : Progress :=
  { p with
    rowsDone := p.rowsDone + rows
    rowsTotal := max p.rowsTotal (p.rowsDone + rows)
    batches := p.batches + 1 }

/-- Tells the progress to callbacks number `first` and following. -/
def reportProgress (p : Progress) : Nat → Nat → Procedure Unit
  | _, 0 => pure ()
  | first, count + 1 => do
      Procedure.emit (.progress p.rowsDone p.rowsTotal first)
      reportProgress p (first + 1) count

/-- The first number of a row, where the row must have one. -/
def countOfRow (row : Row) : Except Error Int :=
  row.value 0 (.place 0) Json.int?

/-- The number of rows a table is believed to have. -/
def believedRows (schema table : String) : Procedure Nat := do
  let estimate ← match ← Procedure.fetch? (.estimateRows schema table) with
    | some row => Procedure.ofExcept (countOfRow row)
    | none => pure (-1)
  if 0 < estimate then return estimate.toNat
  let count ← match ← Procedure.fetch? (.countRows schema table) with
    | some row => Procedure.ofExcept (countOfRow row)
    | none => pure 0
  return count.toNat

/-- A list of texts of which none is null. -/
def readKey? : Json → Option (List String) :=
  Json.list? Json.string?

/-- What a batch answers: how many rows it wrote, and the last key. -/
def batchOfRow (row : Row) : Except Error (Nat × Option (List String)) := do
  let count ← row.value 0 (.named "updated") Json.int?
  let last ← row.value? 1 (.named "last_key") readKey?
  return (count.toNat, last)

/-- The transaction of one batch. -/
def batchTransaction (batch : Batch) (limit : Nat) (cursor : Option (List String)) :
    Transaction (Nat × Option (List String)) := do
  let answer ← Transaction.call (.updateBatch batch limit cursor)
  match answer.rows with
  | [] => Transaction.fail (.database .noRow)
  | row :: _ => Transaction.ofExcept (batchOfRow row)

/-- Where a backfill stands between two batches. -/
structure Position where
  progress : Progress
  /-- The last key of the batch before. -/
  cursor : Option (List String)
deriving DecidableEq, Repr

/-- Runs one batch: the position after it, or the progress if it was the last. -/
def step (config : BackfillConfig) (batch : Batch) (position : Position) :
    Procedure (Position ⊕ Progress) := do
  let (count, last) ←
    Procedure.inTransaction (batchTransaction batch config.batchSize position.cursor)
  let progress := if 0 < count then position.progress.add count else position.progress
  if 0 < count then reportProgress progress 0 config.callbacks
  if count < config.batchSize then return .inr progress
  if lasting : config.batchDelay.isZero = false then Procedure.wait ⟨config.batchDelay, lasting⟩
  return .inl { progress, cursor := last }

/-- Updates every row of a table. -/
def run (config : BackfillConfig) (schema : String) (table : Table) : Procedure Progress := do
  let batch ← Procedure.ofExcept (Batch.ofTable schema table)
  let total ← believedRows schema table.name
  Procedure.loop (step config batch)
    { progress := { table := table.name, rowsDone := 0, rowsTotal := total, batches := 0 }
      cursor := none }

end ExpandContract.Backfill
