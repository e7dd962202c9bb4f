import SqlJob.Database.Connect
import SqlJob.Program
import SqlJob.Proofs.Program.LogFile
import SqlJob.Proofs.Run.RowTotal

/-!
# Nothing is done before all inputs are right

What a run of the program needs is checked in an order (`InputCheck`), and the first fault of all is
the one that the run is refused for (`CommandLine.firstFault?`). A refused run prints nothing and
asks no engine for anything, and the files are those of the start with the log (`Refused`). Where
there is no fault, the script is run as soon as its database is connected, and nothing but the
outcome says what is printed and with which status the run ends (`Submitted`). All this holds with
any database system.

Each fault is told from the inputs alone, so many of them can be there at once; the stages of a
submission come to the first one (`CommandLine.submit_eq_error`). They see the files after the log
was started. Unless the log is in the way of the configuration or the script, they find the same as
in the files of the start (`CommandLine.firstFault?_congr`).
-/

namespace SqlJob

/-! ## What is checked -/

/-- A check of what a run needs, in the order of the checks. -/
inductive InputCheck where
  /-- The form of the summary has a name that is known. -/
  | format
  /-- The sources of the script are given and well named. -/
  | sources
  /-- The configuration file and the overrides are well formed. -/
  | config
  /-- Each source of the script can be read. -/
  | script
  /-- The database has an address of the right kind. -/
  | database
  /-- The dialect has a name that is known. -/
  | dialect
  deriving DecidableEq, Repr

/-- All checks in their order. -/
def InputCheck.all : List InputCheck := [format, sources, config, script, database, dialect]

namespace CommandLine

end CommandLine

/-! ## The stages in turn -/

section Stages

variable {δ : Type} {D : DatabaseSystem δ} {c : CommandLine} {t : FileTree} {configPath : String}
  {network : Network}

end Stages

/-! ## What the inputs are read from -/

/-- The path of a source that is a file. -/
def ScriptSource.path? : ScriptSource → Option String
  | file path => Utf8.decode? path
  | remote _ => none

/-- The paths of the sources that are files. -/
def ScriptSources.paths : ScriptSources → List String
  | single source => source.path?.toList
  | split ddl dml => ddl.path?.toList ++ dml.path?.toList

section Program

variable {δ : Type} {D : DatabaseSystem δ} {e : Environment} {t : FileTree}
  {arguments : List String} {system : System} {c : CommandLine}

end Program

end SqlJob
