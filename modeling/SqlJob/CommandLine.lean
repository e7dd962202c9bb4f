import SqlJob.Config
import SqlJob.Run.Report
import SqlJob.Source

/-!
# The command line

The arguments are read from left to right. Options with a value take it from behind an equals sign,
from behind their letter, or from the next argument, which then must not look like an option. The
first thing that is wrong or that asks for help ends the reading; how the options go together is
looked at only after the last one.
-/

namespace SqlJob

/-- The options that have a value. -/
inductive ValueOption where
  | sql
  | ddl
  | dml
  | config
  | database
  | dialect
  | set
  | output
  | logFile
  deriving DecidableEq, Repr

/-- The options without a value. -/
inductive Switch where
  | verbose
  | help
  | version
  deriving DecidableEq, Repr

/-- What a name or a letter stands for. -/
inductive OptionKind where
  | value (o : ValueOption)
  | switch (s : Switch)
  deriving DecidableEq, Repr

/-- Why there is no command line to work with. -/
inductive UsageFault where
  /-- An argument is no option, or no option that is known. -/
  | unknown
  /-- An option lacks its value. -/
  | missingValue
  /-- A switch is given a value. -/
  | unexpectedValue
  /-- An option is given twice, or with one that excludes it. -/
  | conflict
  /-- An option is given without the one it needs. -/
  | missingCompanion
  /-- The help is asked for. -/
  | help
  /-- The version is asked for. -/
  | version
  deriving DecidableEq, Repr

/-- The options by name. -/
def longOptions : List (String × OptionKind) := [
  ("sql", .value .sql), ("ddl", .value .ddl), ("dml", .value .dml), ("config", .value .config),
  ("database", .value .database), ("dialect", .value .dialect), ("set", .value .set),
  ("output", .value .output), ("verbose", .switch .verbose), ("log-file", .value .logFile),
  ("help", .switch .help), ("version", .switch .version)]

/-- The options by letter. -/
def shortOptions : List (Char × OptionKind) := [
  ('D', .value .set), ('v', .switch .verbose), ('h', .switch .help), ('V', .switch .version)]

/-- A command line. -/
structure CommandLine where
  sql : Option String := none
  ddl : Option String := none
  dml : Option String := none
  config : Option String := none
  database : Option String := none
  dialect : Option String := none
  set : List String := []
  output : String := "text"
  verbose : Bool := false
  logFile : Option String := none
  deriving DecidableEq, Repr

/-- What is read of the arguments so far. -/
structure ArgumentState where
  /-- The values of options, in order. -/
  values : List (ValueOption × String) := []
  verbose : Bool := false
  /-- The latest option that takes its value from the next argument, and this value. It counts only
  when the next option comes. -/
  latest : Option (ValueOption × Option String) := none
  /-- Whether a `--` has ended the options. -/
  isDone : Bool := false
  deriving DecidableEq, Repr

namespace ArgumentState

/-- Gives an option its value. All but one are given only once, and paths are not empty. -/
def record (a : ArgumentState) (o : ValueOption) (value : String) :
    Except UsageFault ArgumentState :=
  if o ≠ .set ∧ (a.values.lookup o).isSome then .error .conflict
  else if (o = .config ∨ o = .logFile) ∧ value.isEmpty then .error .missingValue
  else .ok { a with values := a.values ++ [(o, value)] }

/-- Makes the latest option count. -/
def settle (a : ArgumentState) : Except UsageFault ArgumentState :=
  match a.latest with
  | none => .ok a
  | some (_, none) => .error .missingValue
  | some (o, some value) => { a with latest := none }.record o value

/-- An option with a value, which is there or will be the next argument. -/
def readValue (a : ArgumentState) (o : ValueOption) (value : Option String) :
    Except UsageFault ArgumentState := do
  let a ← a.settle
  match value with
  | some v => a.record o v
  | none => return { a with latest := some (o, none) }

/-- An option without a value. -/
def readSwitch (a : ArgumentState) (s : Switch) : Except UsageFault ArgumentState := do
  let a ← a.settle
  match s with
  | .help => throw .help
  | .version => throw .version
  | .verbose => if a.verbose then throw .conflict else return { a with verbose := true }

/-- An option by name, with the value behind its equals sign. -/
def readLong (a : ArgumentState) (name : String) (value : Option String) :
    Except UsageFault ArgumentState :=
  match longOptions.lookup name with
  | none => .error .unknown
  | some (.value o) => a.readValue o value
  | some (.switch s) => if value.isSome then .error .unexpectedValue else a.readSwitch s

/-- Options by letter; what stands behind the letter of one with a value is the value. -/
def readShort (a : ArgumentState) : List Char → Except UsageFault ArgumentState
  | [] => .ok a
  | c :: rest =>
    match shortOptions.lookup c with
    | none => .error .unknown
    | some (.switch s) =>
      match a.readSwitch s with
      | .ok a => a.readShort rest
      | .error f => .error f
    | some (.value o) =>
      match rest with
      | [] => a.readValue o none
      | '=' :: value => a.readValue o (some (.ofList value))
      | value => a.readValue o (some (.ofList value))

/-- An argument that is no option: the value of the latest option, if that has none. -/
def readPlain (a : ArgumentState) (text : String) : Except UsageFault ArgumentState :=
  match a.latest with
  | some (o, none) => .ok { a with latest := some (o, some text) }
  | _ => .error .unknown

/-- One argument. -/
def readArgument (a : ArgumentState) (text : String) : Except UsageFault ArgumentState :=
  if a.isDone then .error .unknown
  else
    match text.toList with
    | ['-', '-'] => .ok { a with isDone := true }
    | '-' :: '-' :: rest =>
      match Text.cutAt '=' rest with
      | some (name, value) => a.readLong (.ofList name) (some (.ofList value))
      | none => a.readLong (.ofList rest) none
    | '-' :: c :: rest => a.readShort (c :: rest)
    | _ => a.readPlain text

/-- Arguments in order. -/
def readArguments (a : ArgumentState) : List String → Except UsageFault ArgumentState
  | [] => a.settle
  | text :: rest =>
    match a.readArgument text with
    | .ok a => a.readArguments rest
    | .error f => .error f

/-- The value of an option. -/
def value? (a : ArgumentState) (o : ValueOption) : Option String := a.values.lookup o

/-- Whether the options go together: a whole script excludes its parts, and the parts need each
other. -/
def check (a : ArgumentState) : Option UsageFault :=
  let sql := (a.value? .sql).isSome
  let ddl := (a.value? .ddl).isSome
  let dml := (a.value? .dml).isSome
  if sql && (ddl || dml) then some .conflict
  else if ddl != dml then some .missingCompanion
  else none

end ArgumentState

namespace CommandLine

/-- The command line of arguments; a database that the environment names holds if the arguments
name none. -/
def read (arguments : List String) (database : Option String) : Except UsageFault CommandLine :=
  match ({} : ArgumentState).readArguments arguments with
  | .error f => .error f
  | .ok a =>
    match a.check with
    | some f => .error f
    | none =>
      .ok {
        sql := a.value? .sql
        ddl := a.value? .ddl
        dml := a.value? .dml
        config := a.value? .config
        database := a.value? .database <|> database
        dialect := a.value? .dialect
        set := (a.values.filter (·.1 = .set)).map (·.2)
        output := (a.value? .output).getD "text"
        verbose := a.verbose
        logFile := a.value? .logFile }

/-- The form of the job summary. -/
def outputFormat (c : CommandLine) : Except Failure OutputFormat :=
  (OutputFormat.ofName c.output).mapError fun m => ⟨.config, m⟩

/-- The sources of the script. -/
def sources (c : CommandLine) : Except Failure ScriptSources :=
  match c.sql, c.ddl, c.dml with
  | some sql, none, none =>
    match ScriptSource.ofName sql with
    | .ok source => .ok (.single source)
    | .error e => .error e.toFailure
  | none, some ddl, some dml =>
    match ScriptSource.ofName ddl with
    | .error e => .error e.toFailure
    | .ok ddl =>
      match ScriptSource.ofName dml with
      | .error e => .error e.toFailure
      | .ok dml => .ok (.split ddl dml)
  | _, _, _ => .error ⟨.config, "Provide a script with --sql, or both --ddl and --dml"⟩

/-- The configuration of the run: that of the file, over it the overrides, and over it the database
and the dialect of the command line. Without a path of its own the file is the usual one. -/
def loadConfig (c : CommandLine) (t : FileTree) (usual : String) : Except Failure Config :=
  match Config.load t (c.config.getD usual) with
  | .error e => .error e.toFailure
  | .ok config =>
    match config.applyOverrides c.set with
    | (_, some e) => .error e.toFailure
    | (config, none) => .ok (config.withEngine c.database c.dialect)

end CommandLine

end SqlJob
