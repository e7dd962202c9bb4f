import SqlJob.Text.Lines

/-!
# Escapes in string literals

A string literal ends at its quote, and a doubled quote stands for the quote itself. Some dialects
also know backslash escapes, some know literals between three quotes, and two forms of literals
have escapes of their own for code points. Reading gives the text the literal stands for, and
printing writes a text as a literal again.
-/

namespace SqlJob.Sql

/-- What a letter after a backslash stands for in a literal with backslash escapes; any other
character stands for itself. -/
def escapedChar (c : Char) : Char :=
  match c with
  | '0' => '\x00'
  | 'a' => '\x07'
  | 'b' => '\x08'
  | 'f' => '\x0c'
  | 'n' => '\n'
  | 'r' => '\r'
  | 't' => '\t'
  | 'Z' => '\x1a'
  | c => c

/-- The text up to the closing quote `q` and what follows it, if the quote is there. -/
def readQuoted (q : Char) (escapes : Bool) : List Char → Option (List Char × List Char)
  | [] => none
  | c :: rest =>
    if c = q then
      match rest with
      | d :: rest' =>
        if d = q then (readQuoted q escapes rest').map fun (s, after) => (q :: s, after)
        else some ([], d :: rest')
      | [] => some ([], [])
    else if c = '\\' ∧ escapes then
      match rest with
      | d :: rest' =>
        (readQuoted q escapes rest').map fun (s, after) => (escapedChar d :: s, after)
      | [] => none
    else (readQuoted q escapes rest).map fun (s, after) => (c :: s, after)

/-- The text up to three closing quotes and what follows them. The text read so far is reversed,
and `quotes` of its latest characters are quotes. -/
def readTripleQuoted (q : Char) (escapes : Bool) (quotes : Nat) (read : List Char) :
    List Char → Option (List Char × List Char)
  | [] => none
  | c :: rest =>
    if c = q then
      if quotes = 2 then some ((read.drop 2).reverse, rest)
      else readTripleQuoted q escapes (quotes + 1) (c :: read) rest
    else if c = '\\' ∧ escapes then
      match rest with
      | d :: rest' => readTripleQuoted q escapes 0 (escapedChar d :: read) rest'
      | [] => none
    else readTripleQuoted q escapes 0 (c :: read) rest

/-- The value of a digit in the given base, which is at most sixteen. -/
def digitValue? (base : Nat) (c : Char) : Option Nat :=
  let v :=
    if '0' ≤ c ∧ c ≤ '9' then some (c.toNat - 48)
    else if 'a' ≤ c ∧ c ≤ 'f' then some (c.toNat - 87)
    else if 'A' ≤ c ∧ c ≤ 'F' then some (c.toNat - 55)
    else none
  v.filter (· < base)

/-- The number written by all the given digits. -/
def numeral? (base : Nat) (s : List Char) : Option Nat :=
  s.foldl (fun n c => do return (← n) * base + (← digitValue? base c)) (some 0)

/-- The character with the given code point, which must be a scalar value. -/
def charOf? (n : Nat) : Option Char :=
  if n.isValidChar then some (Char.ofNat n) else none

/-- The character written by exactly `n` hexadecimal digits, and what follows them. -/
def readCodePoint (n : Nat) (s : List Char) : Option (Char × List Char) := do
  if s.length < n then none
  return (← charOf? (← numeral? 16 (s.take n)), s.drop n)

/-- The character of a byte written by at most `n` digits; it must be an ASCII character. -/
def readByte (base n : Nat) (s : List Char) : Option (Char × List Char) := do
  let digits := (s.take n).takeWhile fun c => (digitValue? base c).isSome
  let v := (← numeral? base digits) % 256
  if v < 128 then return (Char.ofNat v, s.drop digits.length) else none

/-- What follows a backslash in an escaped string literal, as a character. -/
def readEscape : List Char → Option (Char × List Char)
  | [] => none
  | 'b' :: s => some ('\x08', s)
  | 'f' :: s => some ('\x0c', s)
  | 'n' :: s => some ('\n', s)
  | 'r' :: s => some ('\r', s)
  | 't' :: s => some ('\t', s)
  | 'u' :: s => readCodePoint 4 s
  | 'U' :: s => readCodePoint 8 s
  | 'x' :: s =>
    match s with
    | c :: _ => if (digitValue? 16 c).isSome then readByte 16 2 s else some ('x', s)
    | [] => some ('x', [])
  | c :: s => if (digitValue? 8 c).isSome then readByte 8 3 (c :: s) else some (c, s)

/-- Reads the inside of an escaped string literal, up to its closing quote. -/
def readEscaped : Nat → List Char → Option (List Char × List Char)
  | 0, _ => none
  | _, [] => none
  | fuel + 1, c :: s =>
    if c = '\'' then
      match s with
      | d :: s' =>
        if d = '\'' then (readEscaped fuel s').map fun (t, after) => ('\'' :: t, after)
        else some ([], s)
      | [] => some ([], [])
    else if c = '\\' then do
      let (e, s) ← readEscape s
      if e = '\x00' then none
      let (t, after) ← readEscaped fuel s
      return (e :: t, after)
    else (readEscaped fuel s).map fun (t, after) => (c :: t, after)

/-- Reads the inside of a string literal with Unicode escapes, up to its closing quote. -/
def readUnicodeEscaped : Nat → List Char → Option (List Char × List Char)
  | 0, _ => none
  | _, [] => none
  | fuel + 1, c :: s =>
    if c = '\'' then
      match s with
      | d :: s' =>
        if d = '\'' then (readUnicodeEscaped fuel s').map fun (t, after) => ('\'' :: t, after)
        else some ([], s)
      | [] => some ([], [])
    else if c = '\\' then do
      let (e, s) ←
        match s with
        | '\\' :: s => some ('\\', s)
        | '+' :: s => readCodePoint 6 s
        | s => readCodePoint 4 s
      let (t, after) ← readUnicodeEscaped fuel s
      return (e :: t, after)
    else (readUnicodeEscaped fuel s).map fun (t, after) => (c :: t, after)

/-- The inside of a quoted text as it is printed: a quote is doubled, unless it is doubled already
or follows a backslash. `last` is the character before, for which a quote that follows a backslash
does not count. -/
def doubleQuotes (q last : Char) : List Char → List Char
  | [] => []
  | c :: rest =>
    if c = q then
      if last = '\\' then c :: doubleQuotes q last rest
      else
        match rest with
        | d :: rest' =>
          if d = q then c :: c :: doubleQuotes q c rest' else c :: c :: doubleQuotes q c (d :: rest')
        | [] => [c, c]
    else c :: doubleQuotes q c rest

/-- A text between quotes, with the quotes inside doubled. -/
def quoted (q : Char) (s : String) : String :=
  q.toString ++ .ofList (doubleQuotes q '\x00' s.toList) ++ q.toString

/-- The inside of an escaped string literal as it is printed. -/
def printEscaped (s : List Char) : List Char :=
  s.flatMap fun c =>
    match c with
    | '\'' => ['\\', '\'']
    | '\\' => ['\\', '\\']
    | '\n' => ['\\', 'n']
    | '\t' => ['\\', 't']
    | '\r' => ['\\', 'r']
    | c => [c]

/-- The upper-case hexadecimal digits of a number, at least `width` of them. -/
def hexDigits (width n : Nat) : List Char :=
  let digits := (Nat.toDigits 16 n).map Char.toUpper
  List.replicate (width - digits.length) '0' ++ digits

/-- The inside of a string literal with Unicode escapes as it is printed. -/
def printUnicodeEscaped (s : List Char) : List Char :=
  s.flatMap fun c =>
    match c with
    | '\'' => ['\'', '\'']
    | '\\' => ['\\', '\\']
    | c =>
      if c.toNat < 128 then [c]
      else if c.toNat ≤ 0xFFFF then '\\' :: hexDigits 4 c.toNat
      else '\\' :: '+' :: hexDigits 6 c.toNat

end SqlJob.Sql
