import SqlJob.Script.ModeSwitch
import SqlJob.Text.Lines

/-!
# Splitting a script into statements

A script is read line by line and purely textually. What a line contributes is its text before the
first `--`, trimmed; a `--` inside a string literal counts like any other. A line whose contribution
ends with `;` closes the statement that is open, and closes it with the text before its *first*
semicolon. Lines that contribute nothing are skipped, and what follows the last closing line is
dropped.

Lines end at line feeds. A carriage return before the line feed needs no rule of its own: it is
white space at the end of the line, or part of its comment.
-/

namespace SqlJob

open Text

namespace Script

/-- The text of a line before its first `--`. -/
def beforeComment : List Char → List Char
  | [] => []
  | [c] => [c]
  | c :: d :: rest => if c = '-' ∧ d = '-' then [] else c :: beforeComment (d :: rest)

/-- What a line contributes to the script: its text before the comment, trimmed. -/
def content (line : List Char) : List Char :=
  trim (beforeComment line)

/-- What a line does to the statement that is open. -/
inductive LineRole where
  /-- The line contributes nothing. -/
  | blank
  /-- The line adds its content and leaves the statement open. -/
  | continues (text : List Char)
  /-- The line closes the statement, adding the text before its first semicolon. -/
  | closes (head : List Char)
  deriving DecidableEq, Repr

/-- The role of a line. -/
def role (line : List Char) : LineRole :=
  let text := content line
  if text = [] then .blank
  else if text.getLast? = some ';' then .closes (trim (text.takeWhile (· != ';')))
  else .continues text

/-- The pieces of an open statement as a statement, if there are any. -/
def closeStatement (pieces : List (List Char)) : List (List Char) :=
  if pieces = [] then [] else [joinWith '\n' pieces]

/-- A text as a list of pieces: none if it is empty. -/
def pieceOf (text : List Char) : List (List Char) :=
  if text = [] then [] else [text]

/-- The statements of the lines that follow, when the pieces `pending` are already open. -/
def statementsFrom (pending : List (List Char)) : List (List Char) → List (List Char)
  | [] => []
  | line :: rest =>
    match role line with
    | .blank => statementsFrom pending rest
    | .continues text => statementsFrom (pending ++ [text]) rest
    | .closes head => closeStatement (pending ++ pieceOf head) ++ statementsFrom [] rest

/-- The statements of a script. -/
def statements (script : List Char) : List (List Char) :=
  statementsFrom [] (splitOn '\n' script)

end Script

/-- A script cut into statements, with the mode inferred for the whole of it. -/
structure SplitScript where
  statements : List String
  mode : Mode
  deriving DecidableEq, Repr

/-- Splits a script and infers its mode. -/
def splitScript (script : String) : SplitScript :=
  let statements := (Script.statements script.toList).map String.ofList
  ⟨statements, inferMode statements⟩

/-- The text of a line before its first `--`, on strings. -/
def stripLineComment (line : String) : String :=
  .ofList (Script.beforeComment line.toList)

namespace SplitScript

/-- Whether the script holds no statement. -/
def isEmpty (s : SplitScript) : Bool :=
  s.statements.isEmpty

/-- The statements as a script again: each followed by a semicolon and a line feed. -/
def toScript (s : SplitScript) : String :=
  String.join (s.statements.map (· ++ ";\n"))

end SplitScript

end SqlJob
