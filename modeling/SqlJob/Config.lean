import SqlJob.Failure
import SqlJob.FileTree
import SqlJob.Session.Layers
import SqlJob.Session.Overrides
import SqlJob.Toml.Reader

/-!
# Configuration

The configuration of a run says which database the statements are for, in which dialect they are
written, and which session options hold in which mode. It comes from a file in TOML, if there is
one; what the file does not mention has its usual value, and what is not known in the file does not
count. Overrides never come from the file.
-/

namespace SqlJob

/-- The database of a run and the dialect of its statements. -/
structure EngineSettings where
  database : String := "sqlite::memory:"
  dialect : String := "sqlite"
  deriving DecidableEq, Repr

/-- The configuration of a run. -/
structure Config where
  engine : EngineSettings := {}
  session : SessionDefaults := {}

/-- What is wrong with a configuration file. -/
inductive ConfigError where
  /-- It cannot be read. -/
  | unreadable (fault : FileFault)
  /-- It is no TOML. -/
  | malformed (path : String)
  /-- Something in it has the wrong type. -/
  | misshapen (path : String)
  deriving DecidableEq

/-- The error in words. -/
def ConfigError.message : ConfigError → String
  | unreadable fault => "Failed to read config file: " ++ fault.message
  | malformed path => "Configuration error in " ++ path ++ ":\n  not a TOML document"
  | misshapen path => "Configuration error in " ++ path ++ ":\n  a value of the wrong type"

/-- An error of the file is one of the configuration. -/
def ConfigError.toFailure (e : ConfigError) : Failure := ⟨.config, e.message⟩

namespace Config

/-- A part of a value that stands for a record: by its name or, in an array, by its place. -/
def part? (record : Toml) (place : Nat) (name : String) : Option Toml :=
  match record.entries? with
  | some entries => entries.lookup name
  | none => (record.items?.getD [])[place]?

/-- Whether a value may stand for a record. -/
def isRecord (v : Toml) : Bool := v.entries?.isSome || v.items?.isSome

/-- What a part of a record stands for, which has a usual value if it is missing. -/
def orElse {α : Type} (usual : α) (f : Toml → Option α) : Option Toml → Option α
  | none => some usual
  | some v => f v

/-- The options that a table of strings stands for. -/
def optionsOf (v : Toml) : Option Options := do
  let entries ← v.entries?
  let pairs ← entries.mapM fun (name, v) => v.string?.map (name, ·)
  some (.ofList pairs)

/-- The engine settings that a value stands for. -/
def engineOf (v : Toml) : Option EngineSettings :=
  if isRecord v then do
    let usual : EngineSettings := {}
    let database ← orElse usual.database Toml.string? (part? v 0 "database")
    let dialect ← orElse usual.dialect Toml.string? (part? v 1 "dialect")
    some { database, dialect }
  else none

/-- The session options that a value stands for. -/
def sessionOf (v : Toml) : Option SessionDefaults :=
  if isRecord v then do
    let common ← orElse .empty optionsOf (part? v 0 "common")
    let streaming ← orElse .empty optionsOf (part? v 1 "streaming")
    let batch ← orElse .empty optionsOf (part? v 2 "batch")
    some { common, streaming, batch }
  else none

/-- The configuration that a document stands for. -/
def ofEntries (entries : List (String × Toml)) : Option Config := do
  let engine ← orElse {} engineOf (entries.lookup "engine")
  let session ← orElse {} sessionOf (entries.lookup "session")
  some { engine, session }

/-- The configuration in the text of a file. -/
def ofText (path text : String) : Except ConfigError Config :=
  match Toml.read text with
  | none => .error (.malformed path)
  | some entries =>
    match ofEntries entries with
    | none => .error (.misshapen path)
    | some c => .ok c

/-- The configuration in a file; a file that is not there holds the usual one. -/
def load (t : FileTree) (path : String) : Except ConfigError Config :=
  match t.locate path with
  | .error _ => .ok {}
  | .ok _ =>
    match t.readText path with
    | .error fault => .error (.unreadable fault)
    | .ok text => ofText path text

/-- Applies overrides in order up to the first bad one, and says which one that is, if any. -/
def applyOverrides (c : Config) (overrides : List String) : Config × Option OverrideError :=
  let (o, error) := c.session.overrides.applyOverrides overrides
  ({ c with session := { c.session with overrides := o } }, error)

/-- Replaces the database and the dialect where another one is given. -/
def withEngine (c : Config) (database dialect : Option String) : Config :=
  { c with
    engine :=
      { database := database.getD c.engine.database, dialect := dialect.getD c.engine.dialect } }

end Config

end SqlJob
