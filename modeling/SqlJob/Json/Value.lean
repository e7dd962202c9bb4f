import SqlJob.Decimal.Binary64

/-!
# JSON values

JSON values with their members in the order in which they are written and with repeated names kept,
so that the reader decides what a repetition means. Numbers are kept in the four kinds that readers
of typed data tell apart. `compact` and `pretty` are the two written forms: without any space, and
with one member per line, indented by two spaces per level.
-/

namespace SqlJob

/-- A number in a JSON text. -/
inductive JsonNumber where
  /-- Digits that fit 64 bits. -/
  | natural (n : UInt64)
  /-- Digits behind a minus sign whose value fits a signed 64-bit integer and is not zero. -/
  | negative (n : Int64)
  /-- Any other number, as a double. -/
  | real (x : Float)
  /-- A number beyond the range of doubles. -/
  | outOfRange

/-- A JSON value. -/
inductive Json where
  | null
  | bool (b : Bool)
  | number (n : JsonNumber)
  | string (s : String)
  /-- A string with half a surrogate pair, which stands for no text, or an object with such a name.
  It is well-formed, and no more than that can be done with it. -/
  | broken
  | array (items : List Json)
  | object (members : List (String × Json))

namespace Json

/-- A digit below sixteen in lower-case hexadecimal. -/
def hexDigit (n : Nat) : Char :=
  Nat.digitChar n

/-- A character inside a string: quotes, backslashes and control characters are escaped. -/
def escapeChar (c : Char) : List Char :=
  if c = '"' then ['\\', '"']
  else if c = '\\' then ['\\', '\\']
  else if c = '\n' then ['\\', 'n']
  else if c = '\r' then ['\\', 'r']
  else if c = '\t' then ['\\', 't']
  else if c.toNat = 8 then ['\\', 'b']
  else if c.toNat = 12 then ['\\', 'f']
  else if c.toNat < 0x20 then
    ['\\', 'u', '0', '0', hexDigit (c.toNat / 16), hexDigit (c.toNat % 16)]
  else [c]

/-- A string in quotes. -/
def quote (s : String) : List Char :=
  '"' :: (s.toList.flatMap escapeChar ++ ['"'])

/-- A number as it is written. -/
def numberText : JsonNumber → List Char
  | .natural n => Nat.toDigits 10 n.toNat
  | .negative n => (toString n.toInt).toList
  | .real x => (Binary64.ofFloat x).json.toList
  | .outOfRange => "null".toList

mutual

/-- A value without any white space. -/
def compactChars : Json → List Char
  | null => "null".toList
  | bool b => (if b then "true" else "false").toList
  | number n => numberText n
  | string s => quote s
  | broken => "null".toList
  | array items => '[' :: (compactItems items ++ [']'])
  | object members => '{' :: (compactMembers members ++ ['}'])

/-- The items of an array with commas between them. -/
def compactItems : List Json → List Char
  | [] => []
  | [v] => v.compactChars
  | v :: rest => v.compactChars ++ ',' :: compactItems rest

/-- The members of an object with commas between them. -/
def compactMembers : List (String × Json) → List Char
  | [] => []
  | [(k, v)] => quote k ++ ':' :: v.compactChars
  | (k, v) :: rest => quote k ++ ':' :: (v.compactChars ++ ',' :: compactMembers rest)

end

/-- A line feed and the spaces of a level. -/
def newLine (level : Nat) : List Char :=
  '\n' :: List.replicate (2 * level) ' '

mutual

/-- A value with its parts on lines of their own, at the given level. -/
def prettyChars (level : Nat) : Json → List Char
  | null => "null".toList
  | bool b => (if b then "true" else "false").toList
  | number n => numberText n
  | string s => quote s
  | broken => "null".toList
  | array [] => "[]".toList
  | array items => '[' :: (prettyItems (level + 1) items ++ newLine level ++ [']'])
  | object [] => ['{', '}']
  | object members => '{' :: (prettyMembers (level + 1) members ++ newLine level ++ ['}'])

/-- The items of an array, each on a line of its own. -/
def prettyItems (level : Nat) : List Json → List Char
  | [] => []
  | [v] => newLine level ++ v.prettyChars level
  | v :: rest => newLine level ++ v.prettyChars level ++ ',' :: prettyItems level rest

/-- The members of an object, each on a line of its own. -/
def prettyMembers (level : Nat) : List (String × Json) → List Char
  | [] => []
  | [(k, v)] => newLine level ++ quote k ++ ':' :: ' ' :: v.prettyChars level
  | (k, v) :: rest =>
    newLine level ++ quote k ++ ':' :: ' ' :: (v.prettyChars level ++ ',' ::
      prettyMembers level rest)

end

/-- The value as text without any white space. -/
def compact (j : Json) : String :=
  .ofList j.compactChars

/-- The value as text on several lines. -/
def pretty (j : Json) : String :=
  .ofList (j.prettyChars 0)

end Json

end SqlJob
