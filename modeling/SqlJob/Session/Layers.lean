import SqlJob.Script.Mode
import SqlJob.Session.Options

/-!
# Layers of session options

The options a run starts with come in layers. From the lowest: what is built in for the mode, the
configured options for both modes, the configured options for the run's mode, and the overrides of
the command line. Above all of them stands the run's mode itself.
-/

namespace SqlJob

/-- The option that holds the mode of the run. -/
def runtimeModeKey : String := "execution.runtime-mode"

/-- The option that names the job the inserts are submitted as. -/
def pipelineNameKey : String := "pipeline.name"

/-- The option that chooses the SQL dialect of the statements that follow. -/
def sqlDialectKey : String := "table.sql-dialect"

/-- The options that are built in for both modes. -/
def builtinCommon : List (String × String) := [
  ("table.local-time-zone", "+08:00"),
  ("table.dynamic-table-options.enabled", "true"),
  ("restart-strategy", "failure-rate"),
  ("restart-strategy.failure-rate.delay", "10s"),
  ("restart-strategy.failure-rate.failure-rate-interval", "5min"),
  ("restart-strategy.failure-rate.max-failures-per-interval", "3")]

/-- The options that are built in for streaming mode only. -/
def builtinStreaming : List (String × String) := [
  ("state.backend.incremental", "true"),
  ("execution.checkpointing.interval", "2min"),
  ("execution.checkpointing.min-pause", "10s"),
  ("execution.checkpointing.externalized-checkpoint-retention", "RETAIN_ON_CANCELLATION")]

/-- The options that are built in for a mode. -/
def builtinOptions (mode : Mode) : Options :=
  let common := Options.ofList builtinCommon
  match mode with
  | .streaming => common.extend builtinStreaming
  | .batch => common

/-- The configured layers of session options. -/
structure SessionDefaults where
  /-- Options for both modes. -/
  common : Options := .empty
  /-- Options for streaming mode only. -/
  streaming : Options := .empty
  /-- Options for batch mode only. -/
  batch : Options := .empty
  /-- Options from the command line. -/
  overrides : Options := .empty

/-- The configured options for one mode only. -/
def SessionDefaults.forMode (session : SessionDefaults) : Mode → Options
  | .streaming => session.streaming
  | .batch => session.batch

namespace Options

/-- The options a run in the given mode starts with. -/
def forMode (mode : Mode) (session : SessionDefaults) : Options :=
  let layered := (builtinOptions mode).extend session.common.toList
  let layered := layered.extend (session.forMode mode).toList
  let layered := layered.extend session.overrides.toList
  layered.set runtimeModeKey mode.optionValue

/-- The mode that the runtime-mode option stands for; without the option it is streaming. -/
def mode (o : Options) : Mode :=
  match o.get? runtimeModeKey with
  | some value => Mode.ofOptionValue value
  | none => .streaming

/-- The name of a job that writes to the given tables: the pipeline name, or else one made of the
tables. -/
def jobName (o : Options) (targets : List String) : String :=
  match o.get? pipelineNameKey with
  | some name => name
  | none => "insert-into_" ++ String.intercalate "," targets

/-- A value of the runtime-mode option stands for the mode that is read from it. -/
@[simp] theorem mode_set (o : Options) (value : String) :
    (o.set runtimeModeKey value).mode = Mode.ofOptionValue value := by
  simp [mode]

/-- A run starts in its own mode, whatever the layers say. -/
theorem mode_forMode (m : Mode) (session : SessionDefaults) : (forMode m session).mode = m := by
  simp [mode, forMode]

end Options

end SqlJob
