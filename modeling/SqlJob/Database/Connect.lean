import SqlJob.Database.Link
import SqlJob.Database.Location
import SqlJob.Engine.DatabaseSystem

/-!
# Opening and closing databases

The databases of connections as a database system. A database that is kept in a file is read from it
when it is opened, and written to it when it is closed, with what no transaction holds back.
-/

namespace SqlJob.Database

namespace Link

/-- Opens the database at a location. -/
def openAt (format : FileFormat) (l : Location) (t : FileTree) : FileTree × Except String Link :=
  match l.openIn format t with
  | .ok (connection, t) => (t, .ok { connection, file := l.file? })
  | .error f => (t, .error f.display)

/-- The files once a database is closed. -/
def close (format : FileFormat) (l : Link) (t : FileTree) : FileTree :=
  match l.file with
  | none => t
  | some path =>
    if l.connection.obstacle.isSome then t
    else t.overwrite path (format.write l.connection.start)

/-- The database system of connections, with files of a format. -/
def system (format : FileFormat) : DatabaseSystem Link where
  backend := backend
  opening address :=
    match Location.ofAddress address with
    | .ok l => .ok (openAt format l)
    | .error f => .error ("error with configuration: " ++ f.message)
  close := close format

end Link

/-- An engine of a database that nobody else sees. -/
def inMemory (options : Options) : ConnectedEngine Link :=
  { database := { connection := {} }, options }

end SqlJob.Database
