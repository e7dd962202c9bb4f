import SqlJob.Engine.Backend
import SqlJob.Engine.Basic
import SqlJob.Operation.Reader
import SqlJob.Session.Layers

/-!
# The engine of a database

An engine that does what it is asked in a database. Statements that ask for rows are told by their
first word. The inserts of a job are one transaction: either all of them last or none. An option of
the session may name another dialect for the statements that follow.
-/

namespace SqlJob

/-- The state of an engine of a database. -/
structure ConnectedEngine (δ : Type) where
  database : δ
  /-- Reads statements, unless an option names another dialect. -/
  reader : StatementReader := .default
  options : Options := .empty
  isClosed : Bool := false

/-- The first words of statements that are answered with rows. -/
def queryKeywords : List String := ["SELECT", "WITH", "VALUES", "PRAGMA", "SHOW"]

/-- What a closed engine answers. -/
def closedFailure : BackendFailure :=
  ⟨"attempted to acquire a connection on a closed pool",
    "attempted to acquire a connection on a closed pool"⟩

namespace ConnectedEngine

variable {δ : Type} (B : Backend δ)

/-- The reader of statements that the options call for. -/
def activeReader (e : ConnectedEngine δ) : Except Failure StatementReader :=
  match e.options.get? sqlDialectKey with
  | none => .ok e.reader
  | some name =>
    if name.map Char.toLower = "default" then .ok e.reader
    else
      match StatementReader.ofName name with
      | .ok r => .ok r
      | .error _ =>
        .error ⟨.parse, "Unknown SQL dialect '" ++ name ++ "' in " ++ sqlDialectKey⟩

/-- Has something done in the database, unless the engine is closed. -/
def run {α : Type} (e : ConnectedEngine δ) (f : δ → δ × Except BackendFailure α) :
    ConnectedEngine δ × Except BackendFailure α :=
  if e.isClosed then (e, .error closedFailure)
  else
    let (d, answer) := f e.database
    ({ e with database := d }, answer)

/-- The answer of an immediate execution: a failure is shown by its message. -/
def immediate {α : Type} (f : α → ExecutionResult)
    (x : ConnectedEngine δ × Except BackendFailure α) :
    ConnectedEngine δ × Except Failure ExecutionResult :=
  match x with
  | (e, .ok a) => (e, .ok (f a))
  | (e, .error x) => (e, .error ⟨.execution, x.message⟩)

/-- Executes a statement that is not answered with rows. -/
def runUpdate (e : ConnectedEngine δ) (sql : String) :
    ConnectedEngine δ × Except Failure ExecutionResult :=
  immediate (fun n => { rowsAffected := n }) (e.run (B.execute · sql))

/-- Executes a statement that is answered with rows. Without rows the columns are not known. -/
def runQuery (e : ConnectedEngine δ) (sql : String) :
    ConnectedEngine δ × Except Failure ExecutionResult :=
  immediate (fun (columns, rows) => { columns := if rows.isEmpty then [] else columns, rows })
    (e.run (B.query · sql))

/-- Executes an operation at once. -/
def executeImmediate (e : ConnectedEngine δ) :
    Operation → ConnectedEngine δ × Except Failure ExecutionResult
  | .explain _ explained =>
    immediate (fun nodes => .ofText "plan" (renderPlan nodes)) (e.run (B.plan · explained))
  | .setOption c =>
    (e, .error ⟨.execution, "SET is not executable, apply it with mutate_config: " ++ c.sql⟩)
  | .insert i => runUpdate B e i.sql
  | .createTable sql => runUpdate B e sql
  | .other sql keyword => if keyword ∈ queryKeywords then runQuery B e sql else runUpdate B e sql

/-- Executes inserts in turn; the first failure ends it. -/
def writeAll (d : δ) : List Insert → δ × Except Failure (List SinkWrite)
  | [] => (d, .ok [])
  | i :: rest =>
    match B.execute d i.sql with
    | (d, .error x) =>
      (d, .error ⟨.execution, "Insert into " ++ i.target ++ " failed: " ++ x.message⟩)
    | (d, .ok n) =>
      match writeAll d rest with
      | (d, .ok sinks) => (d, .ok (⟨i.target, n⟩ :: sinks))
      | (d, .error x) => (d, .error x)

/-- Executes inserts as one transaction. -/
def submit (d : δ) (inserts : List Insert) : δ × Except Failure (List SinkWrite) :=
  match B.begin d with
  | (d, .error x) => (d, .error ⟨.execution, "Failed to begin insert job: " ++ x.display⟩)
  | (d, .ok ()) =>
    match writeAll B d inserts with
    | (d, .error x) => (B.rollBack d, .error x)
    | (d, .ok sinks) =>
      match B.commit d with
      | (d, .ok ()) => (d, .ok sinks)
      | (d, .error x) =>
        (B.rollBack d, .error ⟨.execution, "Failed to commit insert job: " ++ x.display⟩)

/-- The summary of a job. -/
def jobSummary (e : ConnectedEngine δ) (inserts : List Insert) (sinks : List SinkWrite) :
    JobSummary where
  name := e.options.jobName (inserts.map (·.target))
  mode := e.options.mode
  sinks

/-- Executes inserts as one job. -/
def executeCombined (e : ConnectedEngine δ) (inserts : List Insert) :
    ConnectedEngine δ × Except Failure ExecutionResult :=
  if e.isClosed then
    (e, .error ⟨.execution, "Failed to begin insert job: " ++ closedFailure.display⟩)
  else
    match submit B e.database inserts with
    | (d, .ok sinks) => ({ e with database := d }, .ok (.ofJob (e.jobSummary inserts sinks)))
    | (d, .error x) => ({ e with database := d }, .error x)

/-- Ends the use of the database. -/
def close (e : ConnectedEngine δ) : ConnectedEngine δ := { e with isClosed := true }

/-- The engine of a database at the engine boundary. -/
def engine : Engine (ConnectedEngine δ) where
  parse e statement := (e, e.activeReader.bind fun r => r.read statement)
  executeImmediate e o := executeImmediate B e o
  executeCombined e inserts := executeCombined B e inserts
  setOption e key value := { e with options := e.options.set key value }
  options e := e.options

end ConnectedEngine

end SqlJob
