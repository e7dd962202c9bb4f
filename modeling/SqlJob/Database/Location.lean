import SqlJob.Database.Connection
import SqlJob.FileTree
import SqlJob.Text.Percent

/-!
# Where a database is

The address of a database names a file, or none for a database that goes away when it is closed.
Parameters behind it say how it is opened. How a database is written as bytes is left open: a format
says it.
-/

namespace SqlJob.Database

/-- How a store is written as the bytes of a file. -/
structure FileFormat where
  /-- The store in a file, if that is one of the format. -/
  read : List UInt8 → Option Store
  write : Store → List UInt8

/-- The format that knows a file without bytes alone. A database in it holds nothing, and what is
written there lasts no longer than its connection. -/
def FileFormat.blank : FileFormat where
  read bytes := if bytes.isEmpty then some {} else none
  write _ := []

/-- How a database is opened. -/
structure Location where
  /-- The path of its file; an empty one stands for a file that nobody else sees. -/
  path : String := ""
  inMemory : Bool := false
  readOnly : Bool := false
  immutable : Bool := false
  /-- Which access to files is asked for. -/
  access : Option String := none

/-- What is wrong with an address. -/
inductive LocationFault where
  | unknownValue (parameter value : String)
  | unknownParameter (name : String)
  /-- The path is no text; how, is said in words. -/
  | notText (fault : String)
  deriving DecidableEq, Repr

/-- A text between quotes, with escapes for quotes, backslashes and control characters. -/
def quotedText (s : String) : String :=
  .ofList ('"' :: (s.toList.flatMap escape ++ ['"']))
where
  escape (c : Char) : List Char :=
    if c = '"' then ['\\', '"']
    else if c = '\\' then ['\\', '\\']
    else if c = '\n' then ['\\', 'n']
    else if c = '\r' then ['\\', 'r']
    else if c = '\t' then ['\\', 't']
    else if c.toNat = 0 then ['\\', '0']
    else if c.toNat < 0x20 ∨ c.toNat = 0x7F then
      "\\u\x7b".toList ++ Nat.toDigits 16 c.toNat ++ ['}']
    else [c]

/-- The fault in words. -/
def LocationFault.message : LocationFault → String
  | unknownValue parameter value =>
    "unknown value " ++ quotedText value ++ " for `" ++ parameter ++ "`"
  | unknownParameter name =>
    "unknown query parameter `" ++ name ++ "` while parsing connection URL"
  | notText fault => fault

namespace Location

/-- A text without any number of repetitions of another one at its start. -/
def trimStart (part : List Char) : Nat → List Char → List Char
  | 0, s => s
  | fuel + 1, s =>
    if part ≠ [] ∧ part.isPrefixOf s then trimStart part fuel (s.drop part.length) else s

/-- The location with one parameter. -/
def withParameter (l : Location) (name value : String) : Except LocationFault Location :=
  match name with
  | "mode" =>
    match value with
    | "ro" => .ok { l with readOnly := true }
    | "rw" => .ok l
    | "rwc" => .ok l
    | "memory" => .ok { l with inMemory := true }
    | _ => .error (.unknownValue name value)
  | "cache" =>
    if value = "private" ∨ value = "shared" then .ok l else .error (.unknownValue name value)
  | "immutable" =>
    match value with
    | "true" => .ok { l with immutable := true }
    | "1" => .ok { l with immutable := true }
    | "false" => .ok { l with immutable := false }
    | "0" => .ok { l with immutable := false }
    | _ => .error (.unknownValue name value)
  | "vfs" => .ok { l with access := some value }
  | _ => .error (.unknownParameter name)

/-- The location that an address means. -/
def ofAddress (address : String) : Except LocationFault Location := do
  let s := address.toList
  let s := trimStart "sqlite:".toList s.length s
  let s := trimStart "//".toList s.length s
  let path := s.takeWhile (· != '?')
  let start : Location ←
    if path = ":memory:".toList then pure { inMemory := true }
    else
      let bytes := Percent.decode (Utf8.encode (.ofList path))
      match Utf8.decode? bytes with
      | some p => pure { path := p, inMemory := p = ":memory:" }
      | none => throw (.notText ((Utf8.faultText? bytes).getD ""))
  (Percent.fields (.ofList (s.drop (path.length + 1)))).foldlM (fun l (name, value) =>
    l.withParameter name value) start

/-- The path of the file, where it is written as an address of a file. -/
def filePath (l : Location) : String :=
  let s := l.path.toList
  if "file:".toList.isPrefixOf s then
    let s := s.drop 5
    let s := if "//".toList.isPrefixOf s then (s.drop 2).dropWhile (· != '/') else s
    let s := s.takeWhile fun c => c != '?' && c != '#'
    Utf8.decodeLossy (Percent.decode (Utf8.encode (.ofList s)))
  else l.path

/-- The kinds of access to files that exist. -/
def accesses : List String := ["unix", "unix-none", "unix-dotfile", "unix-excl"]

/-- The file that the database is kept in, unless it goes away when it is closed. -/
def file? (l : Location) : Option String :=
  if l.inMemory || l.filePath = "" then none else some l.filePath

/-- Opens a database: the connection, and the files with its own, which is made if it may be. -/
def openIn (format : FileFormat) (l : Location) (t : FileTree) :
    Except Fault (Connection × FileTree) := do
  match l.access with
  | some a => if !accesses.contains a then throw (.general ("no such vfs: " ++ a))
  | none => pure ()
  match l.file? with
  | none => return ({ obstacle := if l.readOnly then some .readOnly else none }, t)
  | some path =>
    let existing := (t.read path).toOption
    let t ←
      if l.readOnly then
        if existing.isNone then throw .cannotOpen
        pure t
      else
        match t.openFile path true with
        | .ok t => pure t
        | .error _ => throw .cannotOpen
    match format.read (existing.getD []) with
    | none => return ({ obstacle := some .unreadable }, t)
    | some store =>
      return ({ store, obstacle := if l.readOnly || l.immutable then some .readOnly else none }, t)

/-- The file of the database at an address, if it is kept in one. -/
def fileOf? (address : String) : Option String :=
  (ofAddress address).toOption.bind file?

end Location

end SqlJob.Database
