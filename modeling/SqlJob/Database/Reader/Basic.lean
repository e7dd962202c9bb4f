import SqlJob.Database.Syntax
import SqlJob.Database.Token

/-!
# Reading statements

A reader of statements goes through the tokens of a text once, from left to right. It fails at the
first token that cannot go on any statement, and the fault names that token.
-/

namespace SqlJob.Database

/-- A text and its tokens. -/
structure Input where
  text : List Char
  lexemes : Array Lexeme

/-- How far a text is read. -/
structure Cursor where
  /-- How many tokens are read. -/
  position : Nat := 0
  /-- How many selects are read. -/
  selects : Nat := 0

/-- A reader: from a place in the text to a value and the place behind it. -/
abbrev Read := ReaderT Input (StateT Cursor (Except Fault))

/-- The recursive parts of the grammar. -/
structure Grammar where
  /-- An expression whose operators bind at least as tightly as the given strength. -/
  expr : Nat → Read Expr
  query : Read Query
  /-- The items of a `FROM` clause. -/
  source : Read (List FromItem)

namespace Read

/-- The words that are never names. -/
def reserved : List String := [
  "ADD", "ALL", "ALTER", "AND", "AS", "AUTOINCREMENT", "BETWEEN", "CASE", "CHECK", "COLLATE",
  "COMMIT", "CONSTRAINT", "CREATE", "DEFAULT", "DEFERRABLE", "DELETE", "DISTINCT", "DROP", "ELSE",
  "ESCAPE", "EXCEPT", "EXISTS", "FOREIGN", "FROM", "GROUP", "HAVING", "IN", "INDEX", "INSERT",
  "INTERSECT", "INTO", "IS", "ISNULL", "JOIN", "LIMIT", "NOT", "NOTHING", "NOTNULL", "NULL", "ON",
  "OR", "ORDER", "PRIMARY", "REFERENCES", "RETURNING", "SELECT", "SET", "TABLE", "THEN", "TO",
  "TRANSACTION", "UNION", "UNIQUE", "UPDATE", "USING", "VALUES", "WHEN", "WHERE"]

/-- The words that join tables; they are names only where nothing else fits. -/
def joinWords : List String := ["CROSS", "FULL", "INNER", "LEFT", "NATURAL", "OUTER", "RIGHT"]

/-- The words that are operators behind an expression. -/
def operatorWords : List String := ["LIKE", "GLOB", "REGEXP", "MATCH"]

/-- The token `n` places ahead. -/
def peekAt (n : Nat) : Read Lexeme := do
  let ls := (← read).lexemes
  return (ls[(← get).position + n]?).getD (ls.back?.getD ⟨.eof, "", 0, 0⟩)

/-- The next token. -/
def peek : Read Lexeme := peekAt 0

/-- Goes one token forward. -/
def skip : Read Unit := modify fun c => { c with position := c.position + 1 }

/-- Fails at the next token. -/
def unexpected {α : Type} : Read α := do
  let l ← peek
  match l.token with
  | .eof => throw .incompleteInput
  | .illegal => throw (.unrecognizedToken l.text)
  | _ => throw (.unexpectedToken l.text)

/-- Whether the token is the word. -/
def isWord (l : Lexeme) (w : String) : Bool := l.token == .word w

/-- Whether the token is the symbol. -/
def isSymbol (l : Lexeme) (s : String) : Bool := l.token == .symbol && l.text == s

/-- Whether the next token is the word. -/
def atWord (w : String) : Read Bool := return isWord (← peek) w

/-- Whether the next token is the symbol. -/
def atSymbol (s : String) : Read Bool := return isSymbol (← peek) s

/-- Reads the word, if it is next. -/
def word (w : String) : Read Bool := do
  if ← atWord w then
    skip
    return true
  else return false

/-- Reads the symbol, if it is next. -/
def symbol (s : String) : Read Bool := do
  if ← atSymbol s then
    skip
    return true
  else return false

/-- Reads the word, which must be next. -/
def expectWord (w : String) : Read Unit := do
  if !(← word w) then unexpected

/-- Reads the symbol, which must be next. -/
def expectSymbol (s : String) : Read Unit := do
  if !(← symbol s) then unexpected

/-- Reads the words, the first of which decides whether they are there. -/
def words (w : String) (rest : List String) : Read Bool := do
  if ← word w then
    for r in rest do expectWord r
    return true
  else return false

/-- The value of a reader behind a word, if the word is next. -/
def behind {α : Type} (w : String) (p : Read α) : Read (Option α) := do
  if ← word w then return some (← p) else return none

/-- How many tokens are left, and one more. -/
def remaining : Read Nat := return (← read).lexemes.size + 1 - (← get).position

/-- Repeats a reader until it gives none, at most `n` times. -/
def repeated {α : Type} (p : Read (Option α)) : Nat → Read (List α)
  | 0 => return []
  | n + 1 => do
    match ← p with
    | none => return []
    | some a => return a :: (← repeated p n)

/-- Repeats a reader until it gives none. -/
def many {α : Type} (p : Read (Option α)) : Read (List α) := do
  repeated p (← remaining)

/-- One or more things with commas between them. -/
def list {α : Type} (p : Read α) : Read (List α) := do
  let first ← p
  return first :: (← many do
    if ← symbol "," then return some (← p) else return none)

/-- A reader between parentheses. -/
def parenthesized {α : Type} (p : Read α) : Read α := do
  expectSymbol "("
  let a ← p
  expectSymbol ")"
  return a

/-- The name that a token is, if it is one; the words that join tables count as said. -/
def nameOf? (joins : Bool) (l : Lexeme) : Option String :=
  match l.token with
  | .word k =>
    if reserved.contains k || (!joins && (joinWords.contains k || k == "INDEXED")) then none
    else some l.text
  | .quoted value _ => some value
  | .string value => some value
  | _ => none

/-- A name. -/
def name : Read String := do
  match nameOf? true (← peek) with
  | some n =>
    skip
    return n
  | none => unexpected

/-- A name in front of which a database may be named. -/
def objectName : Read ObjectName := do
  let spelling := (← peek).text
  let first ← name
  if ← symbol "." then
    let spelling := (← peek).text
    return { schema := some first, name := ← name, spelling }
  else return { name := first, spelling }

/-- The text between two places. -/
def textBetween (start stop : Nat) : Read String := do
  return .ofList (((← read).text.drop start).take (stop - start))

/-- A reader with the text that it read. -/
def withText {α : Type} (p : Read α) : Read (α × String) := do
  let start := (← peek).start
  let a ← p
  let last := (← read).lexemes[(← get).position - 1]?
  return (a, ← textBetween start ((last.map (·.stop)).getD start))

/-- The name of a type, which may have a size: as it is written, or none. -/
def typeName : Read (Option String) := do
  match ← peek with
  | l =>
    if (typeWord? l).isNone then return none
    let (_, text) ← withText do
      let _ ← many (do
        match typeWord? (← peek) with
        | some _ =>
          if isWord (← peek) "GENERATED" && isWord (← peekAt 1) "ALWAYS" then return none
          skip
          return some ()
        | none => return none)
      if ← symbol "(" then
        signed
        if ← symbol "," then signed
        expectSymbol ")"
    return some text
where
  typeWord? (l : Lexeme) : Option String := nameOf? false l
  signed : Read Unit := do
    if !(← symbol "-") then
      let _ ← symbol "+"
    match (← peek).token with
    | .integer => skip
    | .float => skip
    | _ => unexpected

end Read

end SqlJob.Database
