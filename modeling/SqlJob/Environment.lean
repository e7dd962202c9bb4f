import SqlJob.FileTree
import SqlJob.Text.Blank
import SqlJob.Text.Letter
import SqlJob.Text.Lines

/-!
# Environment variables

Variables have values. More of them come from the file `.env`, if there is one, but none replaces a
variable that is there. The file is read up to the first line that is wrong; what stands before it
counts.

A line sets a variable: its name, an equals sign and its value, perhaps with `export` in front. In
values quotation marks keep spaces, a backslash keeps a mark, and a dollar sign with a name stands
for the value of another variable, though not between apostrophes. Values between marks may go on
over several lines.
-/

namespace SqlJob

/-- Variables with their values; of several values the first counts. -/
structure Environment where
  entries : List (String × String) := []
  deriving DecidableEq, Repr

namespace Environment

/-- The value of a variable. -/
def get? (e : Environment) (name : String) : Option String := e.entries.lookup name

/-- Gives a variable a value, if it has none. -/
def supply (e : Environment) (name value : String) : Environment :=
  { entries := e.entries ++ [(name, value)] }

/-! ### Lines -/

/-- What a line of the file is in the middle of. -/
inductive LineState where
  | plain
  /-- Behind a space, where a comment may start. -/
  | space
  | escape
  | weak
  | weakEscape
  | strong
  | strongEscape
  deriving DecidableEq, Repr

/-- The state outside of quotation marks behind a character that is no space. -/
def LineState.outside (c : Char) : LineState :=
  if c = '\\' then escape else if c = '"' then weak else if c = '\'' then strong else plain

/-- The state behind a character; none if a comment starts with it. -/
def LineState.next? (c : Char) : LineState → Option LineState
  | plain => some (if Text.isBlank c && c != '\n' && c != '\r' then space else outside c)
  | space => if c = '#' then none else some (outside c)
  | escape => some plain
  | weak => some (if c = '\\' then weakEscape else if c = '"' then plain else weak)
  | weakEscape => some weak
  | strong => some (if c = '\\' then strongEscape else if c = '\'' then plain else strong)
  | strongEscape => some strong

/-- The part of a line in front of a comment, the state at its end, and whether a comment ends
it. -/
def scanLine : LineState → List Char → List Char × LineState × Bool
  | s, [] => ([], s, false)
  | s, c :: rest =>
    match s.next? c with
    | none => ([], .plain, true)
    | some s =>
      let (kept, s, isCut) := scanLine s rest
      (c :: kept, s, isCut)

/-- The lines of a text with their line feeds. -/
def rawLines : List Char → List (List Char)
  | [] => []
  | '\n' :: rest => ['\n'] :: rawLines rest
  | c :: rest =>
    match rawLines rest with
    | [] => [[c]]
    | l :: ls => (c :: l) :: ls

/-- Joins lines between which quotation marks stay open; the first ones are read in `state`. None
stands for what stays open at the end. -/
def joinOpen (state : LineState) (front : List Char) : List (List Char) → List (Option (List Char))
  | [] => if state = .plain then [] else [none]
  | line :: rest =>
    if (Text.trimStart (front ++ line)).head? = some '#' then
      some [] :: joinOpen .plain [] rest
    else
      match scanLine state line with
      | (kept, _, true) => some (front ++ kept) :: joinOpen .plain [] rest
      | (kept, .plain, false) => some (front ++ kept) :: joinOpen .plain [] rest
      | (kept, state, false) => joinOpen state (front ++ kept) rest

/-! ### Values -/

/-- What a value is in the middle of. -/
inductive ValueState where
  | text
  | escape
  | strong
  /-- A name behind a dollar sign. -/
  | name (soFar : List Char)
  /-- A name in braces behind a dollar sign. -/
  | braced (soFar : List Char)
  /-- Behind the value, where only a comment may follow. -/
  | done

/-- The character that stands for itself, or for a line feed, behind a backslash. -/
def escaped? (c : Char) : Option Char :=
  if c = 'n' then some '\n'
  else if c ∈ ['\\', '\'', '"', '$', ' '] then some c
  else none

/-- The value of a variable with a name, which is empty if there is none. -/
def substitute (e : Environment) (name : List Char) : List Char :=
  ((e.get? (.ofList name)).getD "").toList

/-- The value that is written; `isWeak` tells whether it is between quotation marks. -/
def readValue (e : Environment) (isWeak : Bool) : ValueState → List Char → Option (List Char)
  | .strong, [] => none
  | .braced _, [] => none
  | .name soFar, [] => if isWeak then none else some (e.substitute soFar)
  | _, [] => if isWeak then none else some []
  | .done, c :: rest =>
    if c = ' ' ∨ c = '\t' then e.readValue isWeak .done rest
    else if c = '#' then some [] else none
  | .escape, c :: rest => do
    let c ← escaped? c
    let text ← e.readValue isWeak .text rest
    some (c :: text)
  | .strong, c :: rest =>
    if c = '\'' then e.readValue isWeak .text rest
    else (e.readValue isWeak .strong rest).map (c :: ·)
  | .name soFar, c :: rest =>
    if Text.isAlphanumeric c then e.readValue isWeak (.name (soFar ++ [c])) rest
    else if c = '\x7b' ∧ soFar.isEmpty then e.readValue isWeak (.braced []) rest
    else if c = '$' then (e.readValue isWeak (.name []) rest).map (e.substitute soFar ++ ·)
    else (e.readValue isWeak .text rest).map (e.substitute soFar ++ c :: ·)
  | .braced soFar, c :: rest =>
    if c = '\x7d' then (e.readValue isWeak .text rest).map (e.substitute soFar ++ ·)
    else e.readValue isWeak (.braced (soFar ++ [c])) rest
  | .text, c :: rest =>
    if c = '$' then e.readValue isWeak (.name []) rest
    else if c = '\\' then e.readValue isWeak .escape rest
    else if c = '"' then e.readValue (!isWeak) .text rest
    else if !isWeak && c = '\'' then e.readValue isWeak .strong rest
    else if !isWeak && (c = ' ' || c = '\t') then e.readValue isWeak .done rest
    else (e.readValue isWeak .text rest).map (c :: ·)

/-! ### The file -/

/-- The name of a variable, and what follows it and the space behind. -/
def readName : List Char → Option (List Char × List Char)
  | [] => none
  | c :: rest =>
    if c.isAlpha ∨ c = '_' then
      let isPart (c : Char) : Bool := c.isAlphanum || c = '_' || c = '.'
      let name := (c :: rest).takeWhile isPart
      some (name, Text.trimStart ((c :: rest).drop name.length))
    else none

/-- What follows an equals sign and the space behind it. -/
def afterEquals : List Char → Option (List Char)
  | '=' :: rest => some (Text.trimStart rest)
  | _ => none

/-- The name that a line sets, and what is written for its value. -/
def splitLine (line : List Char) : Option (List Char × List Char) := do
  let (name, rest) ← readName line
  match afterEquals rest with
  | some value => some (name, value)
  | none =>
    if name = "export".toList then
      let (name, rest) ← readName rest
      let value ← afterEquals rest
      some (name, value)
    else none

/-- The environment with what a line sets; none if the line is wrong. -/
def applyLine (e : Environment) (line : List Char) : Option Environment :=
  let line := Text.trim line
  if line.isEmpty ∨ line.head? = some '#' then some e
  else do
    let (name, written) ← splitLine line
    let value ← if written.head? = some '#' then some [] else e.readValue false .text written
    let name := String.ofList name
    some (if (e.get? name).isSome then e else e.supply name (.ofList value))

/-- Applies lines up to the first one that is wrong. -/
def applyLines (e : Environment) : List (Option (List Char)) → Environment
  | some line :: rest =>
    match e.applyLine line with
    | some e => e.applyLines rest
    | none => e
  | _ => e

/-- The characters that bytes start with. -/
def leadingText : List Utf8.Piece → List Char
  | .char c :: rest => c :: leadingText rest
  | _ => []

/-- The text of a file, as far as its lines are text. -/
def textOf (bytes : List UInt8) : List Char :=
  let text :=
    match Utf8.decode? bytes with
    | some s => s.toList
    | none =>
      ((leadingText (Utf8.pieces bytes)).reverse.dropWhile (· != '\n')).reverse
  if text.head? = some '\uFEFF' then text.drop 1 else text

/-- The variables that matter to a run, and those that the file `.env` may ask for. -/
def namesIn (t : FileTree) : List String :=
  let isPart (c : Char) : Bool := c.isAlphanum || c = '_'
  let text := ((t.read ".env").toOption.map textOf).getD []
  ["SQL_SUBMIT_DATABASE", "XDG_CONFIG_HOME", "HOME"] ++
    (Text.splitOn ' ' (text.map fun c => if isPart c then c else ' ')).filterMap fun word =>
      if word.isEmpty then none else some (.ofList word)

/-- The environment with what the file `.env` adds. -/
def withFile (e : Environment) (t : FileTree) : Environment :=
  match t.read ".env" with
  | .error _ => e
  | .ok bytes => e.applyLines (joinOpen .plain [] (rawLines (textOf bytes)))

end Environment

end SqlJob
