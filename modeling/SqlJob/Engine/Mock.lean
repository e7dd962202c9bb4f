import SqlJob.Engine.Basic
import SqlJob.Operation.Reader
import SqlJob.Session.Layers

/-!
# The mock engine

An engine for rehearsals: it parses with the default dialect but executes nothing. An execution
fails when the statement contains one of the given patterns, a request for a plan is answered with
the statement to be explained, and every insert of a job counts as one row.
-/

namespace SqlJob

/-- The state of a mock engine. -/
structure MockEngine where
  options : Options := .empty
  /-- Executions of statements that contain one of these texts fail. -/
  failPatterns : List String := []
  /-- Whether a request for a plan is answered with one. -/
  givesPlan : Bool := true

namespace MockEngine

/-- Whether `part` occurs in a text. -/
def occursIn (part : List Char) : List Char → Bool
  | [] => part.isEmpty
  | c :: rest => part.isPrefixOf (c :: rest) || occursIn part rest

/-- The failure that the first pattern occurring in a statement calls for, if one occurs. -/
def failureFor? (m : MockEngine) (sql : String) : Option Failure :=
  (m.failPatterns.find? fun p => occursIn p.toList sql.toList).map fun p =>
    ⟨.execution, "Mock failure on '" ++ p ++ "'"⟩

/-- The answer to an operation that does not fail. -/
def answer (m : MockEngine) : Operation → ExecutionResult
  | .explain _ explained =>
    if m.givesPlan then .ofText "plan" ("== Plan ==\n" ++ explained) else { millis := 1 }
  | _ => { millis := 1 }

/-- The summary of a job: one row for each insert. -/
def jobSummary (m : MockEngine) (inserts : List Insert) : JobSummary where
  name := m.options.jobName (inserts.map (·.target))
  mode := m.options.mode
  sinks := inserts.map fun i => ⟨i.target, 1⟩

/-- The mock engine at the engine boundary. -/
def engine : Engine MockEngine where
  parse m statement := (m, StatementReader.default.read statement)
  executeImmediate m operation :=
    (m, match m.failureFor? operation.sql with
      | some e => .error e
      | none => .ok (m.answer operation))
  executeCombined m inserts :=
    (m, match inserts.findSome? fun i => m.failureFor? i.sql with
      | some e => .error e
      | none => .ok (.ofJob (m.jobSummary inserts)))
  setOption m key value := { m with options := m.options.set key value }
  options m := m.options

end MockEngine

end SqlJob
