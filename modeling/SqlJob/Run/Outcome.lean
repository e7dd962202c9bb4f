import SqlJob.Engine.Result
import SqlJob.Failure
import SqlJob.Operation
import SqlJob.Text.Lines

/-!
# Outcomes

A run ends in one of three ways: all statements ran, a plan was requested, or a statement failed.
A failed statement is reported with its lines numbered from one.
-/

namespace SqlJob

/-- Inserts put off to the end of the script, in the order of the document. -/
structure PendingInserts where
  inserts : List Insert := []
  deriving DecidableEq, Repr

namespace PendingInserts

/-- Adds an insert at the end. -/
def push (p : PendingInserts) (i : Insert) : PendingInserts :=
  ⟨p.inserts ++ [i]⟩

/-- How many inserts there are. -/
def size (p : PendingInserts) : Nat :=
  p.inserts.length

/-- Whether there is no insert. -/
def isEmpty (p : PendingInserts) : Bool :=
  p.inserts.isEmpty

/-- All inserts as one script, each with a semicolon at its end. -/
def combinedSql (p : PendingInserts) : String :=
  String.intercalate "\n" (p.inserts.map (·.sql ++ ";"))

end PendingInserts

/-- A failed statement with its failure. -/
structure StatementFailure where
  statement : String
  failure : Failure
  deriving DecidableEq, Repr

namespace StatementFailure

/-- Puts its number, from `n` on, in front of each line. -/
def numberFrom (n : Nat) : List (List Char) → List String
  | [] => []
  | line :: rest => (toString n ++ ": " ++ String.ofList line) :: numberFrom (n + 1) rest

/-- The lines of the statement, numbered from one. -/
def numberedLines (f : StatementFailure) : List String :=
  numberFrom 1 (Text.splitOn '\n' f.statement.toList)

end StatementFailure

/-- How a run ended. -/
inductive Outcome where
  /-- Every statement ran; the result is that of the combined inserts, if there were any. -/
  | completed (result : Option ExecutionResult)
  /-- A statement asked for a plan, which ends the run. -/
  | explainRequested (statement plan : String)
  /-- A statement failed; nothing after it ran. -/
  | aborted (failure : StatementFailure)

namespace Outcome

/-- The process exit status that stands for the outcome. -/
def exitCode : Outcome → Nat
  | completed _ => 0
  | explainRequested _ _ => 0
  | aborted _ => 1

/-- Whether the rows that the outcome is to report can be added up. An outcome of an engine's job in
which they cannot stands for a run that has none: it ends with the addition. -/
def isCounted : Outcome → Bool
  | completed (some result) => result.isCounted
  | _ => true

/-- Whether the run succeeded. -/
def isSuccess (o : Outcome) : Bool :=
  o.exitCode == 0

end Outcome

end SqlJob
