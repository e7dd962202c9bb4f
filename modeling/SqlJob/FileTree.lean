import SqlJob.Text.Lines
import SqlJob.Text.Utf8

/-!
# File trees

The files that a program sees, as a value: what stands under each path below the working directory.
Reading, and making files and directories, fail as the system does, with its own wording. A path is
followed from its first name to its last, so that a file where a directory is needed shows.
-/

namespace SqlJob

/-- What stands under a path. -/
inductive FileEntry where
  | file (bytes : List UInt8)
  | directory
  deriving DecidableEq, Repr

/-- Why the system does not do something with a file. -/
inductive FileFault where
  | notFound
  | notADirectory
  | isADirectory
  | notText
  deriving DecidableEq, Repr

/-- The system's words for it. -/
def FileFault.message : FileFault → String
  | notFound => "No such file or directory (os error 2)"
  | notADirectory => "Not a directory (os error 20)"
  | isADirectory => "Is a directory (os error 21)"
  | notText => "stream did not contain valid UTF-8"

/-- The files that are known, by the names that lead to them. The working directory itself has no
names, and the first name of what an absolute path leads to is a slash; both directories always
exist. -/
structure FileTree where
  entries : List (List String × FileEntry) := []
  deriving DecidableEq, Repr

namespace FileTree

/-- What stands at the end of names. -/
def entry? (t : FileTree) (names : List String) : Option FileEntry :=
  if names.isEmpty ∨ names = ["/"] then some .directory else t.entries.lookup names

/-- The parts of a path between its slashes. -/
def parts (path : String) : List String :=
  ((Text.splitOn '/' path.toList).filter (!·.isEmpty)).map String.ofList

/-- The names of the directory that a path starts from. -/
def origin (path : String) : List String := if path.toList.head? = some '/' then ["/"] else []

/-- Follows the parts of a path from a directory on. -/
def follow (t : FileTree) : List String → List String → Except FileFault (List String)
  | names, [] => .ok names
  | names, p :: rest =>
    match t.entry? names with
    | some .directory =>
      if p = "." then follow t names rest
      else if p = ".." then
        if names.isEmpty then .error .notFound
        else follow t (if names = ["/"] then names else names.dropLast) rest
      else
        match t.entry? (names ++ [p]) with
        | some _ => follow t (names ++ [p]) rest
        | none => .error .notFound
    | some (.file _) => .error .notADirectory
    | none => .error .notFound

/-- What stands under a path, and the names that lead to it. -/
def locate (t : FileTree) (path : String) : Except FileFault (List String × FileEntry) := do
  if path.isEmpty then throw .notFound
  let names ← t.follow (origin path) (parts path)
  match t.entry? names with
  | none => throw .notFound
  | some (.file bytes) =>
    if path.toList.getLast? = some '/' then throw .notADirectory
    return (names, .file bytes)
  | some .directory => return (names, .directory)

/-- The bytes of a file. -/
def read (t : FileTree) (path : String) : Except FileFault (List UInt8) :=
  match t.locate path with
  | .ok (_, .file bytes) => .ok bytes
  | .ok (_, .directory) => .error .isADirectory
  | .error f => .error f

/-- The text of a file. -/
def readText (t : FileTree) (path : String) : Except FileFault String :=
  match t.read path with
  | .ok bytes =>
    match Utf8.decode? bytes with
    | some s => .ok s
    | none => .error .notText
  | .error f => .error f

/-- Puts something at the end of names. -/
def put (t : FileTree) (names : List String) (e : FileEntry) : FileTree :=
  if (t.entries.lookup names).isSome then
    { entries := t.entries.map fun x => if x.1 = names then (names, e) else x }
  else { entries := t.entries ++ [(names, e)] }

/-- The directory that a path leads to before its last part, and that part. -/
def place (t : FileTree) (path : String) : Except FileFault (List String × String) := do
  if path.isEmpty then throw .notFound
  if path.toList.getLast? = some '/' then throw .isADirectory
  match (parts path).getLast? with
  | none => throw .isADirectory
  | some last =>
    let names ← t.follow (origin path) (parts path).dropLast
    if names = ["/"] then throw .notFound
    match t.entry? names with
    | some .directory => return (names, last)
    | some (.file _) => throw .notADirectory
    | none => throw .notFound

/-- Opens a file to write it, and makes it if it is not there; what it held is kept or not. -/
def openFile (t : FileTree) (path : String) (keep : Bool) : Except FileFault FileTree := do
  let (names, last) ← t.place path
  if last = "." || last = ".." then throw .isADirectory
  let names := names ++ [last]
  match t.entry? names with
  | some .directory => throw .isADirectory
  | some (.file _) => return if keep then t else t.put names (.file [])
  | none => return t.put names (.file [])

/-- Puts bytes in the place of those of a file, if it is there. -/
def overwrite (t : FileTree) (path : String) (bytes : List UInt8) : FileTree :=
  match t.locate path with
  | .ok (names, .file _) => t.put names (.file bytes)
  | _ => t

/-- Makes the directories that a path leads through, as far as they are not there. -/
def makeDirectories (t : FileTree) : List String → List String → Except FileFault FileTree
  | _, [] => .ok t
  | names, p :: rest =>
    if p = "." then makeDirectories t names rest
    else if p = ".." then
      makeDirectories t (if names = ["/"] then names else names.dropLast) rest
    else
      let names := names ++ [p]
      match t.entry? names with
      | some .directory => makeDirectories t names rest
      | some (.file _) => .error .notADirectory
      | none => makeDirectories (t.put names .directory) names rest

/-- A tree of the given files and directories, with the directories that lead to them. -/
def ofList (files : List (String × FileEntry)) : FileTree :=
  files.foldl (fun t (path, e) =>
    let names := origin path ++ (parts path).filter (· != ".")
    match t.makeDirectories [] names.dropLast with
    | .ok t => t.put names e
    | .error _ => t) {}

/-- The path that names make. -/
def pathOf : List String → String
  | "/" :: names => "/" ++ String.intercalate "/" names
  | names => String.intercalate "/" names

/-- The paths of the directories that a path leads through, and the path itself. -/
def waypoints (path : String) : List String :=
  let names := origin path ++ parts path
  (List.range names.length).map fun n => pathOf (names.take (n + 1))

/-- The paths of all files below the working directory, in their order. -/
def files (t : FileTree) : List String :=
  let paths := t.entries.filterMap fun (names, e) =>
    match e with
    | .file _ => if names.head? = some "/" then none else some (pathOf names)
    | .directory => none
  paths.mergeSort fun a b => !(b < a)

end FileTree

end SqlJob
