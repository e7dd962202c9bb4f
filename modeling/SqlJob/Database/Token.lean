import SqlJob.Database.Cell
import SqlJob.Database.Fault

/-!
# Tokens of the database

The database reads a text as tokens: words, quoted names, strings, numbers, bytes, parameters and
symbols. Each token keeps its place in the text, since parts of a text are kept as they were
written. A text whose start is no token is refused when that place is reached, not before.
-/

namespace SqlJob.Database

/-- A token. -/
inductive Token where
  /-- A word, in upper case beside its own spelling. -/
  | word (key : String)
  /-- A name between quotes; double quotes may also surround a string. -/
  | quoted (value : String) (double : Bool)
  | string (value : String)
  | integer
  | float
  | bytes (value : List UInt8)
  | parameter
  | symbol
  | illegal
  | eof
  deriving DecidableEq, Repr, Inhabited

/-- A token with its spelling and its place. -/
structure Lexeme where
  token : Token
  text : String
  start : Nat
  stop : Nat
  deriving Repr, Inhabited

namespace Lexer

/-- The characters of words. -/
def isWordChar (c : Char) : Bool :=
  c.isAlphanum || c == '_' || c == '$' || 0x80 ≤ c.toNat

/-- The characters that words start with. -/
def isWordStart (c : Char) : Bool :=
  c.isAlpha || c == '_' || 0x80 ≤ c.toNat

/-- The value of a hexadecimal digit. -/
def hexValue? (c : Char) : Option Nat :=
  if c.isDigit then some (c.toNat - 48)
  else if 'a' ≤ c && c ≤ 'f' then some (c.toNat - 87)
  else if 'A' ≤ c && c ≤ 'F' then some (c.toNat - 55)
  else none

/-- The bytes that pairs of hexadecimal digits spell. -/
def hexBytes? : List Char → Option (List UInt8)
  | [] => some []
  | a :: b :: rest => do
    let high ← hexValue? a
    let low ← hexValue? b
    return UInt8.ofNat (16 * high + low) :: (← hexBytes? rest)
  | [_] => none

/-- What stands between quotes, where a doubled quote is one, and what follows; none if the closing
quote is missing. -/
def quoted (q : Char) : List Char → Option (List Char × List Char)
  | [] => none
  | c :: rest =>
    if c = q then
      match rest with
      | c' :: rest' =>
        if c' = q then (quoted q rest').map fun (s, r) => (q :: s, r) else some ([], rest)
      | [] => some ([], [])
    else (quoted q rest).map fun (s, r) => (c :: s, r)

/-- What follows a comment between stars. -/
def afterComment : List Char → List Char
  | '*' :: '/' :: rest => rest
  | _ :: rest => afterComment rest
  | [] => []

/-- Digits, which may have single underscores between them, and what follows them. -/
def digits (isDigit : Char → Bool) : List Char → List Char × List Char
  | '_' :: c :: rest =>
    if isDigit c then
      let (ds, r) := digits isDigit rest
      ('_' :: c :: ds, r)
    else ([], '_' :: c :: rest)
  | c :: rest =>
    if isDigit c then
      let (ds, r) := digits isDigit rest
      (c :: ds, r)
    else ([], c :: rest)
  | [] => ([], [])

/-- An exponent, if one is next: its length in characters. -/
def exponentLength (s : List Char) : Nat :=
  match s with
  | e :: rest =>
    if e = 'e' ∨ e = 'E' then
      match rest with
      | c :: d :: _ =>
        if c.isDigit then 1 else if (c = '+' ∨ c = '-') ∧ d.isDigit then 2 else 0
      | [c] => if c.isDigit then 1 else 0
      | [] => 0
    else 0
  | [] => 0

/-- A number at the start of a text: its kind and its length. A word character right behind it makes
it illegal. -/
def number (s : List Char) : Token × Nat :=
  let hex : Bool :=
    match s with
    | '0' :: x :: d :: _ => (x == 'x' || x == 'X') && (hexValue? d).isSome
    | _ => false
  let (kind, n) :=
    if hex then (Token.integer, 2 + (digits (fun c => (hexValue? c).isSome) (s.drop 2)).1.length)
    else
      let (whole, rest) := digits Char.isDigit s
      let (kind, n, rest) :=
        match rest with
        | '.' :: tail =>
          let (ds, rest) := digits Char.isDigit tail
          (Token.float, whole.length + 1 + ds.length, rest)
        | rest => (Token.integer, whole.length, rest)
      match exponentLength rest with
      | 0 => (kind, n)
      | k => (Token.float, n + k + (digits Char.isDigit (rest.drop k)).1.length)
  let extra := ((s.drop n).takeWhile isWordChar).length
  if extra = 0 then (kind, n) else (.illegal, n + extra)

/-- A parameter behind its first character: how many characters belong to it, or none if it has no
name. -/
def parameterLength (s : List Char) : Option Nat :=
  let n := (s.takeWhile isWordChar).length
  if n = 0 then none else some n

/-- The symbols of two and three characters. -/
def longSymbols : List String := ["->>", "->", "==", "<=", "<>", "<<", ">=", ">>", "!=", "||"]

/-- The symbols of one character. -/
def shortSymbols : List Char :=
  ['-', '(', ')', ';', '+', '*', '/', '%', '=', '<', '>', '|', ',', '&', '~', '.']

/-- What a text starts with, and how many characters that takes; none for space and comments. -/
def first (s : List Char) : Option Token × Nat :=
  match s with
  | [] => (some .eof, 0)
  | c :: rest =>
    if Cell.isSpace c then (none, 1)
    else if "--".toList.isPrefixOf s then (none, (s.takeWhile (· != '\n')).length)
    else if "/*".toList.isPrefixOf s && s.length > 2 then
      (none, s.length - (afterComment (s.drop 2)).length)
    else if c = '\'' then
      match quoted c rest with
      | some (value, r) => (some (.string (.ofList value)), s.length - r.length)
      | none => (some .illegal, s.length)
    else if c = '"' ∨ c = '`' then
      match quoted c rest with
      | some (value, r) => (some (.quoted (.ofList value) (c = '"')), s.length - r.length)
      | none => (some .illegal, s.length)
    else if c = '[' then
      let inside := rest.takeWhile (· != ']')
      if inside.length < rest.length then
        (some (.quoted (.ofList inside) false), inside.length + 2)
      else (some .illegal, s.length)
    else if c.isDigit then (number s).map some id
    else if c = '.' && (rest.head?.any Char.isDigit) then (number s).map some id
    else if (c = 'x' ∨ c = 'X') && rest.head? = some '\'' then
      let inside := (rest.drop 1).takeWhile (· != '\'')
      let n := inside.length + 2
      match hexBytes? inside with
      | some bs => if n ≤ rest.length then (some (.bytes bs), n + 1) else (some .illegal, s.length)
      | none => (some .illegal, min s.length (n + 1))
    else if isWordStart c then
      let w := s.takeWhile isWordChar
      (some (.word ((String.ofList w).map Char.toUpper)), w.length)
    else if c = '?' then (some .parameter, 1 + (rest.takeWhile Char.isDigit).length)
    else if [':', '@', '$', '#'].contains c then
      match parameterLength rest with
      | some n => (some .parameter, n + 1)
      | none => (some .illegal, 1)
    else match longSymbols.find? fun y => y.toList.isPrefixOf s with
      | some y => (some .symbol, y.length)
      | none => if shortSymbols.contains c then (some .symbol, 1) else (some .illegal, 1)

/-- The tokens of a text from a place on; reading ends behind the first illegal one. -/
def lexemesFrom : Nat → Nat → List Char → List Lexeme
  | 0, place, _ => [⟨.eof, "", place, place⟩]
  | fuel + 1, place, s =>
    let (token, n) := first s
    match token with
    | none => lexemesFrom fuel (place + n) (s.drop n)
    | some .eof => [⟨.eof, "", place, place⟩]
    | some token =>
      let l : Lexeme := ⟨token, .ofList (s.take n), place, place + n⟩
      if token = .illegal then [l] else l :: lexemesFrom fuel (place + n) (s.drop n)

end Lexer

/-- The tokens of a text. -/
def lexemes (text : String) : List Lexeme :=
  Lexer.lexemesFrom (text.length + 1) 0 text.toList

end SqlJob.Database
