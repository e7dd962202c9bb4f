import SqlJob.Text.Case

/-!
# Tokens of SQL

A token is a word, a literal, a placeholder or a symbol. Words remember the quote around them, and
an unquoted word is also known by its upper-case form, by which keywords are recognised. A token in
a text remembers where it starts.
-/

namespace SqlJob.Sql

/-- The written forms of string literals, which differ in what stands in front of the quotes. -/
inductive StringKind where
  | single | double | tripleSingle | tripleDouble | byte | byteDouble | tripleByte
  | tripleByteDouble | raw | rawDouble | tripleRaw | tripleRawDouble | national | escaped | unicode
  | hex
  | dollar (tag : String)
  deriving DecidableEq, Repr

/-- A token. -/
inductive Token where
  /-- A word; `keyword` is its upper-case form, empty for a quoted word. -/
  | word (value : String) (quote : Option Char) (keyword : String)
  /-- A number as it is written, and whether the letter `L` follows it. -/
  | number (text : String) (long : Bool)
  | string (kind : StringKind) (value : String)
  | placeholder (text : String)
  /-- Punctuation or an operator. -/
  | symbol (text : String)
  /-- An operator made of operator characters that is none of the usual ones. -/
  | operator (text : String)
  /-- A character that starts no other token. -/
  | char (c : Char)
  /-- The end of the text. -/
  | eof
  deriving DecidableEq, Repr

/-- The quote that closes what a quote opens. -/
def closingQuote (q : Char) : Char :=
  if q = '[' then ']' else q

namespace Token

/-- An unquoted word. -/
def ofWord (value : String) : Token :=
  word value none (Text.upper value)

/-- A quoted word. -/
def ofQuoted (q : Char) (value : String) : Token :=
  word value (some q) ""

/-- What stands before and after the value of a string literal. -/
def delimiters : StringKind → String × String
  | .single => ("'", "'")
  | .double => ("\"", "\"")
  | .tripleSingle => ("'''", "'''")
  | .tripleDouble => ("\"\"\"", "\"\"\"")
  | .byte => ("B'", "'")
  | .byteDouble => ("B\"", "\"")
  | .tripleByte => ("B'''", "'''")
  | .tripleByteDouble => ("B\"\"\"", "\"\"\"")
  | .raw => ("R'", "'")
  | .rawDouble => ("R\"", "\"")
  | .tripleRaw => ("R'''", "'''")
  | .tripleRawDouble => ("R\"\"\"", "\"\"\"")
  | .national => ("N'", "'")
  | .escaped => ("E'", "'")
  | .unicode => ("U&'", "'")
  | .hex => ("X'", "'")
  | .dollar tag => ("$" ++ tag ++ "$", "$" ++ tag ++ "$")

/-- The token as messages show it. -/
def text : Token → String
  | word value none _ => value
  | word value (some q) _ => q.toString ++ value ++ (closingQuote q).toString
  | number t long => if long then t ++ "L" else t
  | string kind value => (delimiters kind).1 ++ value ++ (delimiters kind).2
  | placeholder t => t
  | symbol t => t
  | operator t => t
  | char c => c.toString
  | eof => "EOF"

/-- Whether the token is the given keyword. -/
def isKeyword (t : Token) (k : String) : Bool :=
  match t with
  | word _ none keyword => keyword == k
  | _ => false

end Token

/-- A place in a text, counted from one; line zero stands for no place. -/
structure Place where
  line : Nat
  column : Nat
  deriving DecidableEq, Repr

namespace Place

/-- The start of a text. -/
def start : Place := ⟨1, 1⟩

/-- No place, the one of the end of the text. -/
def none : Place := ⟨0, 0⟩

/-- The place behind a character. -/
def after (p : Place) (c : Char) : Place :=
  if c = '\n' then ⟨p.line + 1, 1⟩ else ⟨p.line, p.column + 1⟩

/-- The place behind a stretch of text. -/
def afterAll (p : Place) (s : List Char) : Place :=
  s.foldl after p

/-- The place as messages end with it. -/
def suffixText (p : Place) : String :=
  if p.line = 0 then ""
  else " at Line: " ++ toString p.line ++ ", Column: " ++ toString p.column

end Place

/-- A token with the place where it starts. -/
structure PlacedToken where
  token : Token
  place : Place
  /-- Whether nothing stands between the token and the one before it. -/
  joined : Bool := false
  deriving DecidableEq, Repr

/-- Why a text is no statement. -/
inductive SqlError where
  /-- A message with the place it speaks about. -/
  | at (message : String) (place : Place)
  /-- Expressions or queries are nested too deeply. -/
  | tooDeep
  deriving DecidableEq, Repr

/-- The error in words. -/
def SqlError.message : SqlError → String
  | .at message place => "sql parser error: " ++ message ++ place.suffixText
  | .tooDeep => "sql parser error: recursion limit exceeded"

end SqlJob.Sql
