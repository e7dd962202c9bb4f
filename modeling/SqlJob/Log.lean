import SqlJob.FileTree

/-!
# The log

What is logged goes to the terminal or to a file, which is new with every run. How much is logged
is one of two levels.
-/

namespace SqlJob

/-- How much is logged. -/
inductive LogLevel where
  | info
  | debug
  deriving DecidableEq, Repr

namespace LogLevel

/-- The level that a switch chooses. -/
def ofVerbose (verbose : Bool) : LogLevel := if verbose then debug else info

/-- The name of the level. -/
def name : LogLevel → String
  | info => "info"
  | debug => "debug"

end LogLevel

/-- Makes an empty log file and the directories that lead to it, or leaves the files as they are
if that cannot be done. -/
def FileTree.startLog (t : FileTree) (path : String) : FileTree :=
  match t.makeDirectories (origin path) (parts path).dropLast with
  | .error _ => t
  | .ok withDirectories => (withDirectories.openFile path false).toOption.getD withDirectories

end SqlJob
