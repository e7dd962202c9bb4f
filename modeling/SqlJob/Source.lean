import SqlJob.Failure
import SqlJob.FileTree
import SqlJob.Url.Basic

/-!
# Sources of scripts

A script is read from a file, which is named by a path or by an address, or from a server. What has
no `://` in it is a path. A script may also come in two parts, its definitions in front of its
changes; they are read in this order and joined by a line feed.

What a server answers is a matter of the network. Where no server can be reached, reading from one
fails.
-/

namespace SqlJob

/-- Where a script, or a part of it, is read from. -/
inductive ScriptSource where
  /-- A path: bytes, which need not be text. -/
  | file (path : List UInt8)
  | remote (url : Url)
  deriving DecidableEq

/-- What is wrong with the name of a source. -/
inductive SourceError where
  /-- It is no address. -/
  | invalid (source : String) (fault : Url.Fault)
  /-- It is the address of a file on another machine. -/
  | elsewhere (source : String)
  /-- It is an address of another kind. -/
  | unsupported (scheme : String)
  deriving DecidableEq

/-- The error in words. -/
def SourceError.message : SourceError → String
  | invalid source fault => "Invalid source URL '" ++ source ++ "': " ++ fault.message
  | elsewhere source => "Invalid file URL '" ++ source ++ "'"
  | unsupported scheme =>
    "Unsupported source scheme '" ++ scheme ++ "'. Expected file, http or https"

/-- A source with a wrong name fails at the stage of reading the script. -/
def SourceError.toFailure (e : SourceError) : Failure := ⟨.source, e.message⟩

/-- Whether a text has `://` in it. -/
def hasSchemeMark : List Char → Bool
  | [] => false
  | c :: rest => "://".toList.isPrefixOf (c :: rest) || hasSchemeMark rest

/-- Why a server gives no text. -/
inductive NetworkFault where
  /-- It does not answer, or its answer says that it has none. -/
  | request (message : String)
  /-- The text does not arrive as a whole. -/
  | body (message : String)
  deriving DecidableEq

/-- The fault in words, for the address that was asked for. -/
def NetworkFault.message (url : Url) : NetworkFault → String
  | request message => "Failed to fetch " ++ url.display ++ ": " ++ message
  | body message => "Failed to read " ++ url.display ++ ": " ++ message

/-- What servers answer. -/
structure Network where
  fetch : Url → Except NetworkFault String

/-- The network in which no server can be reached. -/
def Network.unreachable : Network where
  fetch url :=
    .error (.request ("error sending request for url (" ++ url.withoutUser.display ++ ")"))

namespace ScriptSource

/-- The source with the given name. -/
def ofName (name : String) : Except SourceError ScriptSource :=
  if !hasSchemeMark name.toList then .ok (.file (Utf8.encode name))
  else
    match Url.read name with
    | .error fault => .error (.invalid name fault)
    | .ok url =>
      if url.scheme = "file" then
        match url.filePath? with
        | some path => .ok (.file path)
        | none => .error (.elsewhere name)
      else if url.scheme = "http" ∨ url.scheme = "https" then .ok (.remote url)
      else .error (.unsupported url.scheme)

/-- The source as it is shown. -/
def display : ScriptSource → String
  | file path => Utf8.decodeLossy path
  | remote url => url.display

/-- The text of a source. -/
def read (t : FileTree) (source : ScriptSource) (network : Network := .unreachable) :
    Except Failure String :=
  match source with
  | file path =>
    let text :=
      match Utf8.decode? path with
      | some p => t.readText p
      | none => .error .notFound
    text.mapError fun f =>
      ⟨.source, "Failed to read " ++ Utf8.decodeLossy path ++ ": " ++ f.message⟩
  | remote url => (network.fetch url).mapError fun f => ⟨.source, f.message url⟩

end ScriptSource

/-- The sources that a script is made of. -/
inductive ScriptSources where
  | single (source : ScriptSource)
  /-- Definitions and changes. -/
  | split (ddl dml : ScriptSource)
  deriving DecidableEq

namespace ScriptSources

/-- The text of the script. -/
def read (t : FileTree) (sources : ScriptSources) (network : Network := .unreachable) :
    Except Failure String :=
  match sources with
  | single source => source.read t network
  | split ddl dml =>
    match ddl.read t network with
    | .error f => .error f
    | .ok definitions =>
      match dml.read t network with
      | .error f => .error f
      | .ok changes => .ok (definitions ++ "\n" ++ changes)

end ScriptSources

end SqlJob
