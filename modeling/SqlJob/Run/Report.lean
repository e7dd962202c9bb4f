import SqlJob.Json.Result
import SqlJob.Run.Outcome
import SqlJob.Text.Case

/-!
# Reports

What a finished run prints: the summary of the insert job as text or as JSON, the plan that was
asked for, or the numbered lines of the statement that failed. A run without inserts prints nothing.
-/

namespace SqlJob

/-- The form of the job summary. -/
inductive OutputFormat where
  | text
  | json
  deriving DecidableEq, Repr

/-- The form with the given name, in any case; or what to say about the name. -/
def OutputFormat.ofName (name : String) : Except String OutputFormat :=
  if Text.lower name = "text" then .ok .text
  else if Text.lower name = "json" then .ok .json
  else .error ("Invalid output format: " ++ name ++ ". Expected: text or json")

/-- The lines of a job summary in text form. There are none if the rows of the job cannot be added
up, since nothing is printed before they are. -/
def summaryLines (result : ExecutionResult) : List String :=
  match result.job with
  | none => [toString result.rowsAffected.toNat ++ " rows affected"]
  | some job =>
    match job.rowsWritten with
    | none => []
    | some n =>
      ("Job '" ++ job.name ++ "' finished (" ++ job.mode.display ++ "): " ++
        toString n.toNat ++ " rows written") ::
      job.sinks.map fun sink =>
        "  " ++ sink.table ++ ": " ++ toString sink.rowsAffected.toNat ++ " rows"

/-- The lines that report an outcome. -/
def reportLines (format : OutputFormat) : Outcome → List String
  | .completed none => []
  | .completed (some result) =>
    match format with
    | .text => summaryLines result
    | .json => [result.toJson.pretty]
  | .explainRequested _ plan => [plan]
  | .aborted failure => failure.numberedLines

/-- The report of an outcome as it is printed: every line is followed by a line feed. -/
def report (format : OutputFormat) (outcome : Outcome) : String :=
  String.join ((reportLines format outcome).map (· ++ "\n"))

end SqlJob
