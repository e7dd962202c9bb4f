import SqlJob.Sql.Dialect
import SqlJob.Sql.StringEscape
import SqlJob.Sql.Token
import SqlJob.Text.Letter

/-!
# From text to tokens

The text is cut from left to right. Each step looks at the first character, sometimes at a few
more, and takes one token, one white-space character or one comment off the text. Symbols are taken
as long as possible. White space and comments give no token; the token behind them knows that it
does not join the one before.
-/

namespace SqlJob.Sql

/-- Why the text cannot be cut further: a message, and what is left at the place it speaks about. -/
structure LexFault where
  message : String
  rest : List Char

/-- One step: the token, if the step gives one, and what is left. -/
abbrev LexStep := Except LexFault (Option Token × List Char)

namespace Lexer

/-- The symbols of all dialects. -/
def symbols : List String := [
  "(", ")", ",", ";", "+", "*", "=", "=>", "==", "!", "!=", "!!", "!~", "!~*", "!~~", "!~~*", "<",
  "<=", "<=>", "<>", "<<", "<@", ">", ">=", ">>", ":", "::", ":=", "\\", "[", "]", "&", "&&", "^",
  "^@", "\x7b", "\x7d", "~", "~*", "~~", "~~*", "|", "|/", "||", "||/", "-", "->", "->>", "/", "%",
  "#", "#-", "#>", "#>>", "@", "@>", "@?", "@@"]

/-- The symbols that operator characters behind them make into another operator, in dialects with
such operators. -/
def extensible : List String := [
  "-", "->", "->>", "%", "|", "|/", "||", "||/", "<", "<=", "<=>", "<>", "<<", "<@", ">", ">=",
  ">>", "&", "&&", "~", "~*", "~~", "~~*", "#", "#-", "#>", "#>>"]

/-- The characters operators are made of. -/
def isOperatorChar (c : Char) : Bool :=
  "+-*/<>=~!@#%^&|`?".toList.contains c

/-- The longest symbol the text starts with. -/
def longestSymbol? (s : List Char) : Option String :=
  [4, 3, 2, 1].findSome? fun n =>
    let w := String.ofList (s.take n)
    if symbols.contains w then some w else none

/-- The token of a symbol, and the rest. -/
def symbolToken (d : Dialect) (symbol : String) (rest : List Char) : Token × List Char :=
  let tail := if d.customOperators && extensible.contains symbol then rest.takeWhile isOperatorChar
    else []
  if tail.isEmpty then (.symbol symbol, rest)
  else (.operator (symbol ++ .ofList tail), rest.drop tail.length)

/-- A word that starts with the given characters. -/
def word (d : Dialect) (start rest : List Char) : Token × List Char :=
  let value := start ++ rest.takeWhile d.identifierPart
  (.ofWord (.ofList value), rest.dropWhile d.identifierPart)

/-- A word, or the number it is when it has only digits and points. -/
def wordOrNumber (d : Dialect) (start rest : List Char) : Token × List Char :=
  let value := start ++ rest.takeWhile d.identifierPart
  let rest := rest.dropWhile d.identifierPart
  let numeric := fun (c : Char) => c.isDigit || c == '.'
  if value.all numeric then
    (.number (.ofList (value ++ rest.takeWhile numeric)) false, rest.dropWhile numeric)
  else (.ofWord (.ofList value), rest)

/-- Gives a token. -/
def give (r : Token × List Char) : LexStep :=
  .ok (some r.1, r.2)

/-- A string literal whose opening quote is the first character of the text. -/
def string (kind : StringKind) (escapes : Bool) (s : List Char) : LexStep :=
  match s with
  | q :: rest =>
    match readQuoted q escapes rest with
    | some (value, rest) => give (.string kind (.ofList value), rest)
    | none => .error ⟨"Unterminated string literal", s⟩
  | [] => .error ⟨"Unterminated string literal", s⟩

/-- A string literal between one or three of the quotes the text starts with. -/
def oneOrThree (one three : StringKind) (escapes : Bool) (s : List Char) : LexStep :=
  match s with
  | q :: a :: b :: rest =>
    if a ≠ q then
      match readQuoted q escapes (a :: b :: rest) with
      | some (value, rest) => give (.string one (.ofList value), rest)
      | none => .error ⟨"Unterminated string literal", a :: b :: rest⟩
    else if b ≠ q then give (.string one "", b :: rest)
    else
      match readTripleQuoted q escapes 0 [] rest with
      | some (value, rest) => give (.string three (.ofList value), rest)
      | none => .error ⟨"Unterminated string literal", rest⟩
  | [q, a] => if a = q then give (.string one "", []) else .error ⟨"Unterminated string literal", [a]⟩
  | s => .error ⟨"Unterminated string literal", s.drop 1⟩

/-- A string literal of the dialect, between single or double quotes. -/
def plainString (d : Dialect) (one three : StringKind) (escapes : Bool) (s : List Char) : LexStep :=
  if d.tripleQuotes then oneOrThree one three escapes s else string one escapes s

/-- A word that may be the letter in front of a string literal. -/
def prefixed (d : Dialect) (c : Char) (rest : List Char) : LexStep :=
  match c.toLower, rest with
  | 'b', '\'' :: _ => if hasBytes then plainString d .byte .tripleByte false rest else other
  | 'b', '"' :: _ =>
    if hasBytes then plainString d .byteDouble .tripleByteDouble false rest else other
  | 'r', '\'' :: _ => if hasRaw then oneOrThree .raw .tripleRaw false rest else other
  | 'r', '"' :: _ => if hasRaw then oneOrThree .rawDouble .tripleRawDouble false rest else other
  | 'n', '\'' :: _ => string .national true rest
  | 'x', '\'' :: _ => string .hex true rest
  | 'e', '\'' :: inner =>
    match readEscaped (inner.length + 1) inner with
    | some (value, rest) => give (.string .escaped (.ofList value), rest)
    | none => .error ⟨"Unterminated encoded string literal", c :: rest⟩
  | 'u', '&' :: '\'' :: inner =>
    if d.unicodeStrings then
      match readUnicodeEscaped (inner.length + 1) inner with
      | some (value, rest) => give (.string .unicode (.ofList value), rest)
      | none => .error ⟨"Unterminated unicode encoded string literal", rest.drop 1⟩
    else other
  | _, _ => other
where
  hasBytes : Bool := [.bigquery, .postgres, .mysql, .generic].contains d
  hasRaw : Bool := [.bigquery, .generic].contains d
  other : LexStep := give (word d [c] rest)

/-- An exponent: the letter, an optional sign, and digits that must be there. -/
def exponent? (s : List Char) : Option (List Char) :=
  match s with
  | e :: rest =>
    if e = 'e' ∨ e = 'E' then
      let sign := rest.take 1 |>.filter fun c => c == '+' || c == '-'
      let digits := (rest.drop sign.length).takeWhile Char.isDigit
      if digits.isEmpty then none else some (e :: sign ++ digits)
    else none
  | [] => none

/-- Whether the text starts with an exponent's letter and sign, with or without its digits. -/
def startsExponent (s : List Char) : Bool :=
  match s with
  | e :: _ => e == 'e' || e == 'E'
  | [] => false

/-- A number, or a single point. A text that starts with a digit may also be a word. -/
def number (d : Dialect) (s : List Char) : LexStep :=
  let whole := s.takeWhile Char.isDigit
  let rest := s.dropWhile Char.isDigit
  match whole, rest with
  | ['0'], 'x' :: rest =>
    let isHex := fun c => (digitValue? 16 c).isSome
    give (.string .hex (.ofList (rest.takeWhile isHex)), rest.dropWhile isHex)
  | _, _ =>
    let point := rest.take 1 |>.filter (· == '.')
    let rest := rest.drop point.length
    let fraction := rest.takeWhile Char.isDigit
    let rest := rest.dropWhile Char.isDigit
    let text := whole ++ point ++ fraction
    if text = ['.'] then give (.symbol ".", rest)
    else
      let power := (exponent? rest).getD []
      let text := text ++ power
      let rest' := rest.drop power.length
      let tail := if d.numericIdentifiers && !startsExponent rest then
        rest'.takeWhile d.identifierPart else []
      if !tail.isEmpty then give (.ofWord (.ofList (text ++ tail)), rest'.drop tail.length)
      else
        match rest' with
        | 'L' :: rest => give (.number (.ofList text) true, rest)
        | rest => give (.number (.ofList text) false, rest)

/-- What is left behind a comment between `/*` and `*/`, in which such comments may be nested;
`depth` counts those that are open. -/
def afterComment (last : Char) (depth : Nat) : List Char → Option (List Char)
  | [] => none
  | c :: rest =>
    if last = '/' ∧ c = '*' then afterComment c (depth + 1) rest
    else if last = '*' ∧ c = '/' then
      if depth ≤ 1 then some rest else afterComment c (depth - 1) rest
    else afterComment c depth rest

/-- What is left behind a comment that goes to the end of the line. -/
def afterLine (s : List Char) : List Char :=
  (s.dropWhile (· != '\n')).drop 1

/-- The text up to the closing tag of a dollar-quoted string, and what follows it. -/
def readDollarQuoted (close : List Char) : List Char → Option (List Char × List Char)
  | [] => none
  | c :: rest =>
    if close.isPrefixOf (c :: rest) then some ([], (c :: rest).drop close.length)
    else (readDollarQuoted close rest).map fun (s, after) => (c :: s, after)

/-- What follows a dollar sign: a dollar-quoted string or the rest of a placeholder. -/
def dollar (rest : List Char) : LexStep :=
  let tag := rest.takeWhile fun c => Text.isAlphanumeric c || c == '_'
  match rest.drop tag.length with
  | '$' :: inner =>
    match readDollarQuoted ('$' :: tag ++ ['$']) inner with
    | some (value, rest) => give (.string (.dollar (.ofList tag)) (.ofList value), rest)
    | none =>
      .error ⟨if tag.isEmpty then "Unterminated dollar-quoted string"
        else "Unterminated dollar-quoted, expected $", []⟩
  | rest => give (.placeholder ("$" ++ .ofList tag), rest)

/-- A quoted identifier. -/
def identifier (q : Char) (rest : List Char) : LexStep :=
  let close := closingQuote q
  match readQuoted close false rest with
  | some (value, rest) => give (.ofQuoted q (.ofList value), rest)
  | none => .error ⟨"Expected close delimiter '" ++ close.toString ++ "' before EOF.", q :: rest⟩

/-- What starts with `-`: a comment or a symbol. -/
def dash (d : Dialect) (rest : List Char) : LexStep :=
  match rest with
  | '-' :: rest => .ok (none, afterLine rest)
  | '>' :: '>' :: rest => give (symbolToken d "->>" rest)
  | '>' :: rest => give (symbolToken d "->" rest)
  | rest => give (symbolToken d "-" rest)

/-- What starts with `/`: a comment or a symbol. -/
def slash (d : Dialect) (rest : List Char) : LexStep :=
  match rest with
  | '*' :: rest =>
    match afterComment ' ' 1 rest with
    | some rest => .ok (none, rest)
    | none => .error ⟨"Unexpected EOF while in a multi-line comment", []⟩
  | '/' :: tail =>
    if d == .snowflake then .ok (none, afterLine tail)
    else if [.duckdb, .generic].contains d then give (.symbol "//", tail)
    else give (.symbol "/", rest)
  | rest => give (.symbol "/", rest)

/-- What starts with `#`: a comment, a symbol or a word. -/
def hash (d : Dialect) (rest : List Char) : LexStep :=
  if [.snowflake, .bigquery].contains d then .ok (none, afterLine rest)
  else
    match rest with
    | [] => give (.symbol "#", [])
    | ' ' :: _ => give (.symbol "#", rest)
    | c :: tail =>
      if c ≠ '-' ∧ c ≠ '>' ∧ d.identifierStart '#' then give (wordOrNumber d ['#', c] tail)
      else
        let symbol := (longestSymbol? ('#' :: rest)).getD "#"
        give (symbolToken d symbol (rest.drop (symbol.length - 1)))

/-- What starts with `@`: a symbol or a word. -/
def atSign (d : Dialect) (rest : List Char) : LexStep :=
  match rest with
  | '>' :: rest => give (.symbol "@>", rest)
  | '?' :: rest => give (.symbol "@?", rest)
  | '@' :: tail =>
    match tail with
    | [] => give (.symbol "@@", [])
    | ' ' :: _ => give (.symbol "@@", tail)
    | c :: tail' =>
      if d.identifierStart '@' then give (wordOrNumber d ['@', '@', c] tail')
      else give (.symbol "@@", tail)
  | [] => give (.symbol "@", [])
  | ' ' :: _ => give (.symbol "@", rest)
  | c :: tail =>
    if d.identifierStart '@' then give (wordOrNumber d ['@', c] tail) else give (.symbol "@", rest)

/-- What starts with `?`: a symbol or a placeholder. -/
def question (d : Dialect) (rest : List Char) : LexStep :=
  if d == .postgres then
    match rest with
    | '|' :: rest => give (.symbol "?|", rest)
    | '&' :: rest => give (.symbol "?&", rest)
    | rest => give (.symbol "?", rest.drop 1)
  else
    give (.placeholder ("?" ++ .ofList (rest.takeWhile Text.isNumeric)),
      rest.dropWhile Text.isNumeric)

/-- Takes one token, one white-space character or one comment off a text. -/
def step (d : Dialect) (c : Char) (rest : List Char) : LexStep :=
  if c == ' ' || c == '\t' || c == '\n' || c == '\r' then .ok (none, rest)
  else if c.isAlpha && "brneux".toList.contains c.toLower then prefixed d c rest
  else if c == '\'' then
    plainString d .single .tripleSingle d.backslashEscapes (c :: rest)
  else if c == '"' && !d.identifierQuotes.contains c then
    plainString d .double .tripleDouble d.backslashEscapes (c :: rest)
  else if d.identifierQuotes.contains c && d.opensIdentifier rest then identifier c rest
  else if c.isDigit || c == '.' then number d (c :: rest)
  else if c == '-' then dash d rest
  else if c == '/' then slash d rest
  else if c == '#' then hash d rest
  else if c == '@' then atSign d rest
  else if c == '?' then question d rest
  else
    match longestSymbol? (c :: rest) with
    | some symbol => give (symbolToken d symbol (rest.drop (symbol.length - 1)))
    | none =>
      if d.identifierStart c then give (wordOrNumber d [c] rest)
      else if c == '$' then dollar rest
      else if Text.isBlank c then .ok (none, rest)
      else give (.char c, rest)

/-- Cuts a text, which starts at the place `p`, into tokens; `joined` says whether a token right at
its start joins the one before. The length of the text bounds the number of steps. -/
def tokensFrom (d : Dialect) (p : Place) (joined : Bool) :
    Nat → List Char → Except SqlError (List PlacedToken)
  | 0, _ => .ok []
  | _, [] => .ok []
  | fuel + 1, c :: rest =>
    let s := c :: rest
    match step d c rest with
    | .error fault =>
      .error (.at fault.message (p.afterAll (s.take (s.length - fault.rest.length))))
    | .ok (token, after) =>
      let place := p.afterAll (s.take (s.length - after.length))
      match token with
      | none => tokensFrom d place false fuel after
      | some t => do
        let tokens ← tokensFrom d place true fuel after
        return ⟨t, p, joined⟩ :: tokens

end Lexer

/-- The tokens of a text. -/
def tokens (d : Dialect) (text : String) : Except SqlError (List PlacedToken) :=
  Lexer.tokensFrom d .start false (text.toList.length) text.toList

end SqlJob.Sql
