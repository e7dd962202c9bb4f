/-!
# Execution mode

A script runs as a whole either in streaming or in batch mode. The mode has three written forms:
the value of the runtime-mode option, the form in reports, and, for reading an option back, the
rule that any spelling of `batch` means batch and everything else means streaming.
-/

namespace SqlJob

/-- The mode of one script run. -/
inductive Mode where
  /-- Unbounded execution, chosen when nothing asks for batch. -/
  | streaming
  /-- Bounded execution. -/
  | batch
  deriving DecidableEq, Repr

namespace Mode

/-- The value of the runtime-mode option that stands for the mode. -/
def optionValue : Mode → String
  | .streaming => "streaming"
  | .batch => "batch"

/-- The mode as reports show it. -/
def display : Mode → String
  | .streaming => "STREAMING"
  | .batch => "BATCH"

/-- Whether the mode is streaming. -/
def isStreaming : Mode → Bool
  | .streaming => true
  | .batch => false

/-- The mode an option's value stands for: batch for the word `batch` in any ASCII case, streaming
for everything else. -/
def ofOptionValue (value : String) : Mode :=
  if value.toList.map Char.toLower = "batch".toList then .batch else .streaming

/-- A mode is read back from its own option value. -/
@[simp] theorem ofOptionValue_optionValue (m : Mode) : ofOptionValue m.optionValue = m := by
  cases m <;> rfl

end Mode

end SqlJob
