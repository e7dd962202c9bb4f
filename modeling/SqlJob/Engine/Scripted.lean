import SqlJob.Engine.Basic

/-!
# The scripted engine

An engine whose answers are written down beforehand: by statement for parsing, by the text of the
operation for execution, and one for all combined submissions. What is not written down fails to
parse and executes with an empty result.
-/

namespace SqlJob

/-- The state of a scripted engine. -/
structure ScriptedEngine where
  options : Options := .empty
  /-- The answers to statements. -/
  parses : List (String × Except Failure Operation) := []
  /-- The answers to executions, by the text of the operation. -/
  executions : List (String × Except Failure ExecutionResult) := []
  /-- The answer to every combined submission. -/
  combined : Except Failure ExecutionResult := .ok {}

namespace ScriptedEngine

/-- The scripted engine at the engine boundary. -/
def engine : Engine ScriptedEngine where
  parse s statement :=
    (s, (s.parses.lookup statement).getD (.error ⟨.parse, "unscripted: " ++ statement⟩))
  executeImmediate s operation := (s, (s.executions.lookup operation.sql).getD (.ok {}))
  executeCombined s _ := (s, s.combined)
  setOption s key value := { s with options := s.options.set key value }
  options s := s.options

end ScriptedEngine

end SqlJob
