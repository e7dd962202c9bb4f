import SqlJob.Database.Connect
import SqlJob.Program

/-!
# The command

Reads what a run of the program looks at, runs it, and writes what it leaves. Of the files only
those are read that the arguments and the configuration name, with the directories that lead to
them.
-/

open SqlJob

/-- The given variables of the process. -/
def readVariables (names : List String) : IO Environment := do
  let found ← names.filterMapM fun name => do
    return (← IO.getEnv name).map (name, ·)
  return { entries := found }

/-- The files and directories at paths and on the way to them. -/
def readFiles (paths : List String) : IO FileTree := do
  let root ← IO.currentDir
  let found ← (paths.flatMap FileTree.waypoints).eraseDups.filterMapM fun (path : String) => do
    let place := root / path
    if ← place.isDir then return some (path, FileEntry.directory)
    else if ← place.pathExists then
      let bytes ← IO.FS.readBinFile place
      return some (path, FileEntry.file bytes.toList)
    else return none
  return FileTree.ofList found

/-- Writes the files of a tree that differ from those of another one. -/
def writeFiles (old new : FileTree) : IO Unit := do
  for (names, entry) in new.entries do
    if old.entry? names ≠ some entry then
      let path := FileTree.pathOf names
      match entry with
      | .directory => IO.FS.createDirAll path
      | .file bytes => IO.FS.writeBinFile path ⟨bytes.toArray⟩

/-- Runs the program on its arguments. -/
def main (arguments : List String) : IO UInt32 := do
  let own ← readFiles [".env"]
  let e ← readVariables (Environment.namesIn own)
  let named := namedPaths Database.Location.fileOf? (e.withFile own)
  let known ← readFiles (named own arguments)
  let files ← readFiles (named known arguments)
  let done := runProgram (Database.Link.system .blank) e files arguments
  writeFiles files done.files
  IO.print done.output
  return done.exitCode.toUInt32
