import SqlJob.Engine.Value
import SqlJob.Script.Mode

/-!
# Results

What the engine answers to one execution: columns and rows, a count of the rows written, the time
taken, and for the combined insert job its summary with one entry per insert.
-/

namespace SqlJob

/-- Name and type of a result column. -/
structure Column where
  name : String
  dataType : String
  deriving DecidableEq, Repr

/-- The rows one insert of a job wrote. -/
structure SinkWrite where
  table : String
  rowsAffected : UInt64
  deriving DecidableEq

/-- The summary of a combined insert job. -/
structure JobSummary where
  name : String
  mode : Mode
  /-- One entry per insert, in the order of submission. -/
  sinks : List SinkWrite
  deriving DecidableEq

/-- The sum of two words of 64 bits, if it is one. -/
def addWords? (a b : UInt64) : Option UInt64 :=
  if a.toNat + b.toNat < UInt64.size then some (a + b) else none

/-- The rows written by all inserts of the job, added up one after another. There is no result once
a sum is too great for a word: the program does not come to the end of the addition. -/
def JobSummary.rowsWritten (job : JobSummary) : Option UInt64 :=
  job.sinks.foldlM (fun sum sink => addWords? sum sink.rowsAffected) 0

/-- The result of one execution. -/
structure ExecutionResult where
  columns : List Column := []
  rows : List (List Value) := []
  rowsAffected : UInt64 := 0
  /-- The time taken, in whole milliseconds. -/
  millis : UInt64 := 0
  /-- The summary, when the execution was a combined insert job. -/
  job : Option JobSummary := none

namespace ExecutionResult

/-- Whether the result has no rows. -/
def isEmpty (r : ExecutionResult) : Bool :=
  r.rows.isEmpty

/-- The first field of the first row, if there is one. -/
def firstValue? (r : ExecutionResult) : Option Value :=
  match r.rows with
  | (v :: _) :: _ => some v
  | _ => none

/-- The result with a single text field, in a column of text. -/
def ofText (column text : String) : ExecutionResult :=
  { columns := [⟨column, "TEXT"⟩], rows := [[.text text]] }

/-- Whether the rows of the job of the result, if it has one, can be added up. -/
def isCounted (r : ExecutionResult) : Bool :=
  r.job.all (·.rowsWritten.isSome)

/-- The result of a job: its summary, and the sum of its sinks as the count of rows. Where there is
no sum the result stands for none, which `isCounted` tells, and its count means nothing. -/
def ofJob (job : JobSummary) : ExecutionResult :=
  { rowsAffected := job.rowsWritten.getD 0, job := some job }

end ExecutionResult

end SqlJob
