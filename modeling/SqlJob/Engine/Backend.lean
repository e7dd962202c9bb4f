import SqlJob.Engine.Plan
import SqlJob.Engine.Result

/-!
# What an engine needs of a database

The engine does not know what a database is. It only needs to have texts executed in it, to ask for
rows and plans, and to make several changes one. Everything may fail, and everything may change the
database also when it fails.
-/

namespace SqlJob

/-- Why a database does not do something. -/
structure BackendFailure where
  message : String
  /-- What is shown where nothing else is said. -/
  display : String
  deriving DecidableEq, Repr

/-- A database with states of type `δ`. -/
structure Backend (δ : Type) where
  /-- Executes a text and counts the rows that it wrote. -/
  execute : δ → String → δ × Except BackendFailure UInt64
  /-- Executes a text and gives the rows that it is answered with. -/
  query : δ → String → δ × Except BackendFailure (List Column × List (List Value))
  /-- The plan of a text, which is asked for by a text of its own (`planRequest`). -/
  plan : δ → String → δ × Except BackendFailure (List PlanNode)
  /-- Begins a transaction. -/
  begin : δ → δ × Except BackendFailure Unit
  /-- Makes what was done since the transaction began last. -/
  commit : δ → δ × Except BackendFailure Unit
  /-- Undoes what was done since the transaction began. -/
  rollBack : δ → δ

/-- The text that asks a database for the plan of a text. -/
def planRequest (text : String) : String := "EXPLAIN QUERY PLAN " ++ text

end SqlJob
