/-!
# Failures

Everything that can end a submission early is a failure of one stage: reading the script, turning a
statement into an operation, executing it, or configuring the run. A failure carries the message
its cause was worded with; modules with causes of their own word them and name the stage.
-/

namespace SqlJob

/-- The stage at which a submission failed. -/
inductive Stage where
  /-- The script could not be read. -/
  | source
  /-- A statement could not be turned into an operation. -/
  | parse
  /-- An immediate or combined execution failed in the engine. -/
  | execution
  /-- The configuration or the command line is wrong. -/
  | config
  /-- Something else went wrong. -/
  | internal
  deriving DecidableEq, Repr

/-- What a failure's text starts with. -/
def Stage.label : Stage → String
  | .source => "Source error"
  | .parse => "Parse error"
  | .execution => "Execution error"
  | .config => "Configuration error"
  | .internal => "Internal error"

/-- The heading under which a failure is reported. -/
def Stage.category : Stage → String
  | .source => "Source Error"
  | .parse => "Parse Error"
  | .execution => "Execution Error"
  | .config => "Configuration Error"
  | .internal => "Internal Error"

/-- A failure: the stage and the message. -/
structure Failure where
  stage : Stage
  message : String
  deriving DecidableEq, Repr

namespace Failure

/-- The failure's text: the stage's label, a colon and the message. -/
def display (f : Failure) : String :=
  f.stage.label ++ ": " ++ f.message

/-- The heading under which the failure is reported. -/
def category (f : Failure) : String :=
  f.stage.category

end Failure

end SqlJob
