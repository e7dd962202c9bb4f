import SqlJob.Sql.Dialect
import SqlJob.Sql.Keyword
import SqlJob.Sql.Token
import SqlJob.Text.Lines

/-!
# Parsers over tokens

A parser reads tokens at a position and gives a value and the position behind it, or an error. It
knows the dialect, how many more levels of statements, queries and expressions may be nested, and
whether a comma may end a list. An attempt that fails leaves the position where it was.

What a statement means to this library is its kind and its text in normal form, so the parsers of
the grammar give text: keywords in upper case, single spaces between tokens, and names, numbers and
strings as they were written.
-/

namespace SqlJob.Sql

/-- What a parser knows besides the position. -/
structure ParseContext where
  dialect : Dialect
  tokens : Array PlacedToken
  /-- How many more levels may be nested. -/
  depth : Nat
  /-- Whether a list may end with a comma. -/
  trailingCommas : Bool

/-- A parser: from a position to a value and the position behind it. -/
abbrev Parse := ReaderT ParseContext (StateT Nat (Except SqlError))

/-- What kind of expression was read, as far as it matters to what is around it. -/
inductive ExprShape where
  /-- A name without quotes. -/
  | name (value : String)
  | wildcard
  | qualifiedWildcard
  /-- A query between parentheses. -/
  | subquery
  | other
  deriving DecidableEq, Repr

/-- An expression in normal form. -/
structure Expr where
  text : String
  shape : ExprShape := .other
  deriving DecidableEq, Repr

/-- What kind of data type was read, as far as it matters to what is around it. -/
inductive TypeShape where
  | known
  | interval
  /-- A type by a name that means nothing to the grammar. -/
  | custom
  deriving DecidableEq, Repr

/-- A data type in normal form. -/
structure DataType where
  text : String
  shape : TypeShape := .known
  /-- Whether its last token, `>>`, also closes the type around it. -/
  closesOuter : Bool := false
  deriving DecidableEq, Repr

/-- A table of a `FROM` clause in normal form. -/
structure TableRef where
  text : String
  /-- Whether it is a join between parentheses. -/
  isNestedJoin : Bool := false
  /-- Whether joins follow the first table. -/
  hasJoins : Bool := false
  deriving DecidableEq, Repr

/-- What kind of statement was read. -/
inductive StatementKind where
  /-- A write into the table of the given name. -/
  | insert (target : String)
  /-- A request for the plan of a statement, which is given in normal form. -/
  | explain (statement : String)
  /-- A request for the description of a table. -/
  | describe
  | createTable
  | other
  deriving DecidableEq, Repr

/-- A statement in normal form. -/
structure Statement where
  text : String
  kind : StatementKind := .other
  deriving DecidableEq, Repr

/-- The recursive parts of the grammar, which all other parts are built from. -/
structure Grammar where
  statement : Parse Statement
  query : Parse String
  /-- A query without what can follow its set operations; the operators in it bind tighter than
  the given strength. -/
  queryBody : Nat → Parse String
  expression : Parse Expr
  /-- An expression whose operators bind tighter than the given strength. -/
  operand : Nat → Parse Expr
  /-- An expression without binary operators. -/
  primary : Parse Expr
  /-- A data type, which may close the type around it. -/
  innerType : Parse DataType
  /-- A table and the joins behind it. -/
  joinedTable : Parse TableRef

namespace Parse

/-- The dialect. -/
def dialect : Parse Dialect := return (← read).dialect

/-- Whether the dialect is one of the given. -/
def dialectIn (ds : List Dialect) : Parse Bool := return ds.contains (← dialect)

/-- The answer of a parser that is asked only on a condition. -/
def onlyIf (condition : Bool) (p : Parse Bool) : Parse Bool := do
  if condition then p else return false

/-- The answer of a parser that is asked only in the given dialects. -/
def inDialects (ds : List Dialect) (p : Parse Bool) : Parse Bool := do
  onlyIf (← dialectIn ds) p

/-- The answer of the second parser, which is asked only if the first says no. -/
def orElse (p q : Parse Bool) : Parse Bool := do
  if ← p then return true else q

/-- The token `n` places ahead. -/
def peekAt (n : Nat) : Parse PlacedToken := do
  return ((← read).tokens[(← get) + n]?).getD ⟨.eof, .none, false⟩

/-- The next token with its place, without reading it. -/
def peekPlaced : Parse PlacedToken := peekAt 0

/-- The next token, without reading it. -/
def peek : Parse Token := return (← peekPlaced).token

/-- Goes one token forward. -/
def skip : Parse Unit := modify (· + 1)

/-- Reads a token. -/
def next : Parse PlacedToken := do
  let t ← peekPlaced
  skip
  return t

/-- Fails with a message about a place. -/
def failAt {α : Type} (message : String) (place : Place) : Parse α :=
  throw (.at message place)

/-- Fails with a message about no place. -/
def fail {α : Type} (message : String) : Parse α :=
  failAt message .none

/-- Fails because the given token is not what is expected. -/
def expectedAt {α : Type} (what : String) (t : PlacedToken) : Parse α :=
  failAt ("Expected: " ++ what ++ ", found: " ++ t.token.text) t.place

/-- Fails because the next token is not what is expected. -/
def expected {α : Type} (what : String) : Parse α := do
  expectedAt what (← peekPlaced)

/-- The value of a parser, or none when it fails; then nothing is read. -/
def attempt {α : Type} (p : Parse α) : Parse (Option α) := fun ctx pos =>
  match p ctx pos with
  | .ok (a, pos) => .ok (some a, pos)
  | .error _ => .ok (none, pos)

/-- One level deeper, if that is not too deep. -/
def nested {α : Type} (p : Parse α) : Parse α := fun ctx pos =>
  match ctx.depth with
  | 0 => .error .tooDeep
  | depth + 1 => p { ctx with depth } pos

/-- With lists that may end with a comma, if `b` says so or they may already. -/
def withTrailingCommas {α : Type} (b : Bool) (p : Parse α) : Parse α := fun ctx pos =>
  p { ctx with trailingCommas := ctx.trailingCommas || b } pos

/-- Whether the next token is the symbol. -/
def atSymbol (s : String) : Parse Bool := return (← peek) == .symbol s

/-- Reads the symbol, if it is next. -/
def symbol (s : String) : Parse Bool := do
  if ← atSymbol s then
    skip
    return true
  else return false

/-- Reads the symbols, if they are next. -/
def symbols (ss : List String) : Parse Bool := do
  let start ← get
  for s in ss do
    if !(← symbol s) then
      set start
      return false
  return true

/-- Reads the symbol, which must be next. -/
def expectSymbol (s : String) : Parse Unit := do
  if !(← symbol s) then expected s

/-- Whether the next token is the keyword. -/
def atKeyword (k : String) : Parse Bool := return (← peek).isKeyword k

/-- Reads the keyword, if it is next. -/
def keyword (k : String) : Parse Bool := do
  if ← atKeyword k then
    skip
    return true
  else return false

/-- The words of a text that has single spaces between them. -/
def words (text : String) : List String :=
  (Text.splitOn ' ' text.toList).map String.ofList

/-- Reads the keywords, which are given as one text, if all of them are next. -/
def keywords (ks : String) : Parse Bool := do
  let start ← get
  for k in words ks do
    if !(← keyword k) then
      set start
      return false
  return true

/-- Reads one of the keywords, if one is next. -/
def keywordIn (ks : List String) : Parse (Option String) := do
  match ← peek with
  | .word _ none k =>
    if ks.contains k then
      skip
      return some k
    else return none
  | _ => return none

/-- Reads the keywords, which are given as one text and must be next. -/
def expectKeywords (ks : String) : Parse Unit := do
  for k in words ks do
    if !(← keyword k) then expected k

/-- Reads one of the keywords, which must be next. -/
def expectKeywordIn (ks : List String) : Parse String := do
  match ← keywordIn ks with
  | some k => return k
  | none => expected ("one of " ++ String.intercalate " or " ks)

/-- How many tokens are left, and one more. -/
def remaining : Parse Nat := return (← read).tokens.size + 1 - (← get)

/-- Repeats a parser until it gives none, at most `n` times. -/
def repeated {α : Type} (p : Parse (Option α)) : Nat → Parse (List α)
  | 0 => return []
  | n + 1 => do
    match ← p with
    | none => return []
    | some a => return a :: (← repeated p n)

/-- Repeats a parser until it gives none. -/
def many {α : Type} (p : Parse (Option α)) : Parse (List α) := do
  repeated p (← remaining)

/-- Whether a list ends here; reads the comma if it does not. -/
def listEnds : Parse Bool := do
  if !(← symbol ",") then return true
  if !(← read).trailingCommas then return false
  match ← peek with
  | .word _ none k => return notColumnAlias.contains k
  | .eof => return true
  | .symbol s => return [")", ";", "]", "\x7d"].contains s
  | _ => return false

/-- One or more things with commas between them. -/
def list {α : Type} (p : Parse α) : Parse (List α) := do
  let first ← p
  return first :: (← many do
    if ← listEnds then return none else return some (← p))

/-- Things with commas between them, or none in front of the closing symbol. -/
def listBefore {α : Type} (close : String) (p : Parse α) : Parse (List α) := do
  if ← atSymbol close then return []
  if (← read).trailingCommas && (← peek) == .symbol "," && (← peekAt 1).token == .symbol close then
    skip
    return []
  list p

/-- A parser between parentheses. -/
def parenthesized {α : Type} (p : Parse α) : Parse α := do
  expectSymbol "("
  let a ← p
  expectSymbol ")"
  return a

/-- The value of a parser behind the keywords, if they are next. -/
def behind {α : Type} (ks : String) (p : Parse α) : Parse (Option α) := do
  if ← keywords ks then return some (← p) else return none

/-- The text in front of the condition's text, if the condition is read; otherwise none. -/
def flag (ks : String) : Parse String := do
  if ← keywords ks then return " " ++ ks else return ""

end Parse

/-- Texts with commas between them. -/
def commas (ts : List String) : String := String.intercalate ", " ts

/-- A text behind a lead, or nothing. -/
def lead (s : String) : Option String → String
  | some t => s ++ t
  | none => ""

end SqlJob.Sql
