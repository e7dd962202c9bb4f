import SqlJob.Engine.Connected
import SqlJob.FileTree

/-!
# Database systems

What a program needs of a database system. The program does not know how an address is understood,
what opening a database does to the files, or what a database leaves in them. An engine is made from
the address of its database and the name of the dialect of its statements: the kind of the address
is looked at first, then the dialect, then the rest of the address, and only then the files are
touched.
-/

namespace SqlJob

/-- A database system whose databases have states of type `δ`. -/
structure DatabaseSystem (δ : Type) where
  backend : Backend δ
  /-- How the database of an address is opened among files, or in words what is wrong with the
  address. An attempt leaves files, and a database or in words why there is none. -/
  opening : String → Except String (FileTree → FileTree × Except String δ)
  /-- The files that are left once a database is closed. -/
  close : δ → FileTree → FileTree

namespace DatabaseSystem

variable {δ : Type} (D : DatabaseSystem δ)

/-- Connects an engine to the database of an address with statements of a dialect; and the files
then. -/
def connectTo (address dialect : String) (options : Options) (t : FileTree) :
    FileTree × Except Failure (ConnectedEngine δ) :=
  match StatementReader.ofName dialect with
  | .error f => (t, .error f)
  | .ok reader =>
    match D.opening address with
    | .error fault =>
      (t, .error ⟨.config, "Invalid engine database '" ++ address ++ "': " ++ fault⟩)
    | .ok openIn =>
      match openIn t with
      | (t, .ok database) => (t, .ok { database, reader, options })
      | (t, .error fault) =>
        (t, .error ⟨.execution, "Failed to open " ++ address ++ ": " ++ fault⟩)

/-- Connects an engine, if the address is one of a database that is known. -/
def connect (address dialect : String) (options : Options) (t : FileTree) :
    FileTree × Except Failure (ConnectedEngine δ) :=
  if "sqlite:".toList.isPrefixOf address.toList then D.connectTo address dialect options t
  else (t, .error ⟨.config, "Unsupported engine database '" ++ address ++
    "'. Expected a sqlite: URL"⟩)

end DatabaseSystem

end SqlJob
