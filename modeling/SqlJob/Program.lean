import SqlJob.CommandLine
import SqlJob.Engine.DatabaseSystem
import SqlJob.Environment
import SqlJob.Log
import SqlJob.Run.Runner
import SqlJob.Script.Splitter

/-!
# The program

What a run of the program does, as a function of what it is given: the environment, the files, the
arguments, what the system has to say, and the database system that it is linked with. Everything
that the script needs is looked at before the script is started: the form of the summary, the
sources, the configuration, the text of the script and the database, in this order. The first that
is wrong ends the run with nothing printed.
-/

namespace SqlJob

/-- What a run of the program leaves. -/
structure Completion where
  exitCode : Nat
  /-- What it prints. -/
  output : String := ""
  files : FileTree

/-- What the system has to say to a run, besides its variables and files. -/
structure System where
  network : Network := .unreachable
  /-- The home directory of the account, if it has one. -/
  accountHome : Option String := none

/-- The variable that names a database. -/
def databaseVariable : String := "SQL_SUBMIT_DATABASE"

/-- The path of the configuration file if the command line names none. The home directory is that of
the environment, or else that of the account. -/
def usualConfigPath (e : Environment) (accountHome : Option String := none) : String :=
  let directory :=
    match e.get? "XDG_CONFIG_HOME" with
    | some d => if d.toList.head? = some '/' then some d else none
    | none => none
  let home := (e.get? "HOME").filter fun home => !home.isEmpty
  let directory := directory <|> (home <|> accountHome).map (· ++ "/.config")
  directory.getD "." ++ "/sql-submit/config.toml"

/-- What a command line asks for, as far as files and arguments tell. -/
structure Job where
  format : OutputFormat
  config : Config
  script : SplitScript

/-- What a command line asks for. -/
def CommandLine.job (c : CommandLine) (t : FileTree) (configPath : String)
    (network : Network := .unreachable) : Except Failure Job := do
  let format ← c.outputFormat
  let sources ← c.sources
  let config ← c.loadConfig t configPath
  let text ← sources.read t network
  return { format, config, script := splitScript text }

namespace Job

variable {δ : Type} (D : DatabaseSystem δ)

/-- The engine of a job in its first state, and the files with its database. -/
def connect (j : Job) (t : FileTree) : FileTree × Except Failure (ConnectedEngine δ) :=
  D.connect j.config.engine.database j.config.engine.dialect
    (.forMode j.script.mode j.config.session) t

/-- Runs the script of a job on an engine. -/
def run (j : Job) (e : ConnectedEngine δ) : ConnectedEngine δ × Outcome :=
  (ConnectedEngine.engine D.backend).run e j.script.statements j.script.mode

/-- What is left of a run whose script ended so: its report, unless the rows to report cannot be
added up. The run ends with the addition then, with the status of a fault in the program itself. -/
def completion (j : Job) (outcome : Outcome) (files : FileTree) : Completion :=
  if outcome.isCounted then
    { exitCode := outcome.exitCode, output := report j.format outcome, files }
  else { exitCode := 101, files }

end Job

/-- Runs what a command line asks for; a failure says why nothing was started, and which files there
are then. -/
def CommandLine.submit {δ : Type} (D : DatabaseSystem δ) (c : CommandLine) (t : FileTree)
    (configPath : String) (network : Network := .unreachable) :
    Except (Failure × FileTree) Completion :=
  match c.job t configPath network with
  | .error f => .error (f, t)
  | .ok job =>
    match job.connect D t with
    | (t, .error f) => .error (f, t)
    | (t, .ok engine) =>
      let (last, outcome) := job.run D engine
      .ok (job.completion outcome (D.close last.database t))

/-- The version of the program. -/
def versionText : String := "sql-submit 0.1.0\n"

/-- The lines of the help. -/
def helpLines : List String := [
  "Submit multi-statement SQL scripts with batched sink inserts",
  "",
  "Usage: sql-submit [OPTIONS]",
  "",
  "Options:",
  "      --sql <SOURCE>       SQL script (path, file:// or http(s):// URL)",
  "      --ddl <SOURCE>       DDL script, run before --dml",
  "      --dml <SOURCE>       DML script, run after --ddl",
  "      --config <PATH>      Config file path",
  "      --database <URL>     Engine database URL (overrides config) [env: SQL_SUBMIT_DATABASE=]",
  "      --dialect <NAME>     SQL dialect used to parse statements (overrides config)",
  "  -D, --set <KEY=VALUE>    Session option applied before the script runs (repeatable)",
  "      --output <FORMAT>    Output format for the job summary [default: text]",
  "  -v, --verbose            Enable debug logging",
  "      --log-file <PATH>    Write logs to a file instead of stderr",
  "  -h, --help               Print help",
  "  -V, --version            Print version"]

/-- What is left of a run whose arguments are not a command line. -/
def UsageFault.completion (f : UsageFault) (files : FileTree) : Completion :=
  match f with
  | .help => { exitCode := 0, output := String.join (helpLines.map (· ++ "\n")), files }
  | .version => { exitCode := 0, output := versionText, files }
  | _ => { exitCode := 2, files }

/-- Runs the program. -/
def runProgram {δ : Type} (D : DatabaseSystem δ) (e : Environment) (t : FileTree)
    (arguments : List String) (system : System := {}) : Completion :=
  let e := e.withFile t
  match CommandLine.read arguments (e.get? databaseVariable) with
  | .error f => f.completion t
  | .ok c =>
    let t := c.logFile.elim t t.startLog
    match c.submit D t (usualConfigPath e system.accountHome) system.network with
    | .ok done => done
    | .error (_, t) => { exitCode := 1, files := t }

/-- The paths that a run may look at, as far as they are known from some of the files. Addresses of
databases may name files too. -/
def namedPaths (databaseFile? : String → Option String) (e : Environment) (t : FileTree)
    (arguments : List String) : List String :=
  match CommandLine.read arguments (e.get? databaseVariable) with
  | .error _ => [".env"]
  | .ok c =>
    let configPath := c.config.getD (usualConfigPath e)
    let sourcePaths := [c.sql, c.ddl, c.dml].filterMap fun name =>
      match name.map ScriptSource.ofName with
      | some (.ok (.file path)) => Utf8.decode? path
      | _ => none
    let config := (c.loadConfig t configPath).toOption.getD {}
    [".env", configPath] ++ sourcePaths ++ c.logFile.toList ++
      (databaseFile? config.engine.database).toList

end SqlJob
