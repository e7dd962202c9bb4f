import SqlJob.Engine.Basic
import SqlJob.Run.Outcome
import SqlJob.Session.Layers

/-!
# Running a script

Statements run strictly in order. Inserts are put off and submitted as one unit after the last
statement; a request for a plan ends the run early, and the inserts put off so far are dropped; the
first failure ends the run with that statement. The engine is told the mode of the run before
anything else, and `SET` statements with key and value reach it as options.
-/

namespace SqlJob

/-- What the run does after one statement. -/
inductive StepResult where
  /-- Goes on with these inserts put off. -/
  | next (pending : PendingInserts)
  /-- Ends with a plan. -/
  | plan (text : String)
  /-- Ends with a failure. -/
  | failed (failure : Failure)

/-- The plan in a result: its first field, which must be there and not null. -/
def planText (result : ExecutionResult) : Except Failure String :=
  match result.firstValue? with
  | some v =>
    if v.isNull then .error ⟨.execution, "EXPLAIN returned no plan"⟩ else .ok v.display
  | none => .error ⟨.execution, "EXPLAIN returned no plan"⟩

namespace Engine

variable {σ : Type} (E : Engine σ)

/-- Executes an operation that must succeed for the run to go on. -/
def stepExecute (s : σ) (pending : PendingInserts) (operation : Operation) : σ × StepResult :=
  match E.executeImmediate s operation with
  | (s, .ok _) => (s, .next pending)
  | (s, .error e) => (s, .failed e)

/-- Executes a request for a plan. -/
def stepExplain (s : σ) (operation : Operation) : σ × StepResult :=
  match E.executeImmediate s operation with
  | (s, .ok result) =>
    match planText result with
    | .ok text => (s, .plan text)
    | .error e => (s, .failed e)
  | (s, .error e) => (s, .failed e)

/-- Routes one operation. -/
def stepOperation (s : σ) (pending : PendingInserts) (operation : Operation) : σ × StepResult :=
  match operation with
  | .insert i => (s, .next (pending.push i))
  | .setOption command =>
    match command.assignment? with
    | some (key, value) => (E.setOption s key value, .next pending)
    | none => (s, .next pending)
  | .explain .. => E.stepExplain s operation
  | .createTable _ => E.stepExecute s pending operation
  | .other .. => E.stepExecute s pending operation

/-- Parses and routes one statement. -/
def step (s : σ) (pending : PendingInserts) (statement : String) : σ × StepResult :=
  match E.parse s statement with
  | (s, .ok operation) => E.stepOperation s pending operation
  | (s, .error e) => (s, .failed e)

/-- Submits the inserts that were put off, if there are any. -/
def flush (s : σ) (pending : PendingInserts) : σ × Outcome :=
  if pending.isEmpty then (s, .completed none)
  else match E.executeCombined s pending.inserts with
    | (s, .ok result) => (s, .completed (some result))
    | (s, .error e) => (s, .aborted ⟨pending.combinedSql, e⟩)

/-- Runs the statements that are left, with the inserts put off so far. -/
def runFrom (s : σ) (pending : PendingInserts) : List String → σ × Outcome
  | [] => E.flush s pending
  | statement :: rest =>
    match E.step s pending statement with
    | (s, .next pending) => runFrom s pending rest
    | (s, .plan text) => (s, .explainRequested statement text)
    | (s, .failed e) => (s, .aborted ⟨statement, e⟩)

/-- Runs a list of statements in the given mode. -/
def run (s : σ) (statements : List String) (mode : Mode) : σ × Outcome :=
  E.runFrom (E.setOption s runtimeModeKey mode.optionValue) {} statements

end Engine

end SqlJob
