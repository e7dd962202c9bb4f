import SqlJob.Url.Host

/-!
# Addresses

An address names a scheme, and behind it who is asked on which host, a path, a query and a
fragment. Reading gives it its normal form: the scheme and the host in lower case, the usual port
left out, steps to the same or the upper directory done, and all characters that an address does
not have written as bytes.
-/

namespace SqlJob

/-- An address in its normal form. -/
structure Url where
  scheme : String
  /-- The name and the password in front of the host, with what separates them. -/
  user : String := ""
  host : String := ""
  port : Option Nat := none
  /-- The path with its slashes. -/
  path : String := ""
  query : Option String := none
  fragment : Option String := none
  deriving DecidableEq, Repr

namespace Url

/-- The address as text. -/
def display (u : Url) : String :=
  u.scheme ++ "://" ++ (if u.user.isEmpty then "" else u.user ++ "@") ++ u.host ++
    (match u.port with
      | some n => ":" ++ toString n
      | none => "") ++ u.path ++
    (match u.query with
      | some q => "?" ++ q
      | none => "") ++
    (match u.fragment with
      | some f => "#" ++ f
      | none => "")

/-- The address without the name and the password. -/
def withoutUser (u : Url) : Url := { u with user := "" }

/-! ### Characters -/

/-- The characters that stay as they are, unless a part of an address excludes them. -/
def isPlain (excluded : String) (c : Char) : Bool :=
  0x20 < c.toNat && c.toNat < 0x7F && !excluded.toList.contains c

/-- What a path excludes. -/
def pathExcluded : String := "\"<>`#?\x7b\x7d"

/-- What a name or a password excludes. -/
def userExcluded : String := pathExcluded ++ "/:;=@[\\]^|"

/-- A part of an address with what it excludes written as bytes. -/
def escaped (excluded : String) (s : List Char) : String :=
  .ofList (Percent.encode (isPlain excluded) s)

/-! ### Parts -/

/-- The schemes that are known, with their usual ports. -/
def usualPorts : List (String × Nat) :=
  [("http", 80), ("https", 443), ("ws", 80), ("wss", 443), ("ftp", 21)]

/-- The scheme in front of the first colon, in lower case, and what follows. -/
def splitScheme (s : List Char) : Option (String × List Char) :=
  let isSchemeChar (c : Char) : Bool := c.isAlphanum || c == '+' || c == '-' || c == '.'
  let name := s.takeWhile isSchemeChar
  match name, s.drop name.length with
  | c :: _, ':' :: rest =>
    if c.isAlpha then some ((String.ofList name).map Char.toLower, rest) else none
  | _, _ => none

/-- The part in front of the path, and the rest; a backslash counts as a slash for known schemes. -/
def splitAuthority (isKnown : Bool) (s : List Char) : List Char × List Char :=
  s.span fun c => !(c == '/' || c == '?' || c == '#' || (isKnown && c == '\\'))

/-- The name and the password in front of the last at sign, and what follows; none if there is no
at sign. -/
def splitUser (s : List Char) : Option (List Char × List Char) :=
  let behind := (s.reverse.takeWhile (· != '@')).reverse
  if behind.length = s.length then none
  else some (s.take (s.length - behind.length - 1), behind)

/-- The name and the password in their normal form. -/
def userText (s : List Char) : String :=
  match Text.cutAt ':' s with
  | none => escaped userExcluded s
  | some (name, password) =>
    escaped userExcluded name ++
      if password.isEmpty then "" else ":" ++ escaped userExcluded password

/-- The host and what follows it: a colon between brackets belongs to the host. -/
def splitHost : Bool → List Char → List Char × List Char
  | _, [] => ([], [])
  | inside, c :: rest =>
    if c = ':' ∧ !inside then ([], c :: rest)
    else
      let inside := if c = '[' then true else if c = ']' then false else inside
      let (h, r) := splitHost inside rest
      (c :: h, r)

/-- The port behind a colon; none if it is the usual one or missing. -/
def readPort (usual : Option Nat) (s : List Char) : Except Fault (Option Nat) :=
  if s.isEmpty then .ok none
  else if !s.all Char.isDigit then .error .invalidPort
  else
    let n := (digitsValue? 10 s).getD 0
    if 65535 < n then .error .invalidPort else .ok (if usual = some n then none else some n)

/-! ### Paths -/

/-- Whether a segment is a letter with a colon or a bar, as disks are named. -/
def isDrive : List Char → Bool
  | [c, d] => c.isAlpha && (d == ':' || d == '|')
  | _ => false

/-- Whether a segment means the same directory. -/
def isDot (s : List Char) : Bool := ["." , "%2e"].contains ((String.ofList s).map Char.toLower)

/-- Whether a segment means the upper directory. -/
def isDoubleDot (s : List Char) : Bool :=
  ["..", ".%2e", "%2e.", "%2e%2e"].contains ((String.ofList s).map Char.toLower)

/-- The segments of a path with the steps to the same or the upper directory done; those already
done are in reversed order. A disk is not left. -/
def walk (done : List (List Char)) : List (List Char) → List (List Char)
  | [] => done.reverse
  | s :: rest =>
    let close (done : List (List Char)) : List (List Char) :=
      if rest.isEmpty then [] :: done else done
    if isDoubleDot s then
      match done with
      | d :: upper => walk (close (if isDrive d then d :: upper else upper)) rest
      | [] => walk (close []) rest
    else if isDot s then walk (close done) rest
    else walk (Percent.encode (isPlain pathExcluded) s :: done) rest

/-- The segments of a path. -/
def segments (isKnown : Bool) (s : List Char) : List (List Char) :=
  Text.splitOn '/' (if isKnown then s.map fun c => if c = '\\' then '/' else c else s)

/-- The path that segments make, with a slash in front. -/
def pathText (ss : List (List Char)) : List Char := '/' :: Text.joinWith '/' (walk [] ss)

/-- The query and the fragment at the end of an address. -/
def splitTail (isKnown : Bool) (s : List Char) : List Char × Option String × Option String :=
  let (front, fragment) :=
    match Text.cutAt '#' s with
    | some (a, b) => (a, some (escaped "\"<>`" b))
    | none => (s, none)
  match Text.cutAt '?' front with
  | some (a, b) => (a, some (escaped (if isKnown then "\"#<>'" else "\"#<>") b), fragment)
  | none => (front, none, fragment)

/-! ### Reading -/

/-- An address behind its two slashes. -/
def afterSlashes (scheme : String) (s : List Char) : Except Fault Url := do
  let usual := usualPorts.lookup scheme
  let isKnown := usual.isSome
  let (authority, rest) := splitAuthority isKnown s
  let (user, place) ←
    match splitUser authority with
    | none => pure ("", authority)
    | some (u, place) =>
      if place.isEmpty ∧ (isKnown ∨ !rest.isEmpty ∧ u.isEmpty) then throw .emptyHost
      pure (userText u, place)
  let (name, behind) := splitHost false place
  if name.isEmpty ∧ (isKnown ∨ !behind.isEmpty) then throw .emptyHost
  let host ← if isKnown then readHost name else readOpaqueHost name
  if host.isEmpty ∧ !user.isEmpty then throw .emptyHost
  let port ← readPort usual (behind.drop 1)
  let (path, query, fragment) := splitTail isKnown rest
  let path :=
    if isKnown then
      String.ofList (pathText (segments isKnown (path.drop 1)))
    else if path.isEmpty then "" else .ofList (pathText (segments isKnown (path.drop 1)))
  return { scheme, user, host, port, path, query, fragment }

/-- The address of a file on a host, from its path and what follows. A file on a disk has no
host. -/
def ofFilePath (host : String) (s : List Char) : Url :=
  let (path, query, fragment) := splitTail true s
  let ss := segments true (if host.isEmpty then path else path.drop 1)
  let drive (s : List Char) : List Char := [s.headD ' ', ':']
  let (host, ss) :=
    match ss with
    | s :: more => if isDrive s then ("", drive s :: more) else (host, ss)
    | [] => (host, ss)
  let path := '/' :: (pathText ss).dropWhile (· == '/')
  { scheme := "file", host, path := .ofList path, query, fragment }

/-- The address of a file behind its scheme. Only two slashes announce a host; a file on this
machine has none. -/
def ofFile : List Char → Except Fault Url
  | a :: b :: s => do
    let isSlash (c : Char) : Bool := c == '/' || c == '\\'
    if isSlash a && isSlash b then
      let (authority, rest) := splitAuthority true s
      if isDrive authority then return ofFilePath "" s
      if authority.isEmpty then return ofFilePath "" rest
      let host ← readHost authority
      return ofFilePath (if host = "localhost" then "" else host) rest
    else return ofFilePath "" (a :: b :: s)
  | s => .ok (ofFilePath "" s)

/-- Whether a character may stand around an address and means nothing. -/
def isPadding (c : Char) : Bool := c.toNat ≤ 0x20

/-- An address from its text, which has a pair of slashes somewhere. -/
def read (text : String) : Except Fault Url := do
  let s := (text.toList.dropWhile isPadding).reverse.dropWhile isPadding |>.reverse
  let s := s.filter fun c => c != '\t' && c != '\n' && c != '\r'
  match splitScheme s with
  | none => throw .noScheme
  | some (scheme, rest) =>
    let isSlash (c : Char) : Bool := c == '/' || c == '\\'
    if scheme = "file" then ofFile rest
    else if (usualPorts.lookup scheme).isSome then afterSlashes scheme (rest.dropWhile isSlash)
    else
      match rest with
      | '/' :: '/' :: rest => afterSlashes scheme rest
      | rest => return { scheme, path := .ofList rest }

/-- The bytes of the path of a file on this machine; none if it is on another one. -/
def filePath? (u : Url) : Option (List UInt8) :=
  if u.host.isEmpty then
    let bytes := Percent.decode (Utf8.encode u.path)
    let isLetter (b : UInt8) : Bool := (Char.ofNat b.toNat).isAlpha
    match bytes.reverse with
    | b :: a :: _ :: _ =>
      if (b = 0x3A ∨ b = 0x7C) ∧ isLetter a then some (bytes ++ [0x2F]) else some bytes
    | _ => some bytes
  else none

end Url

end SqlJob
