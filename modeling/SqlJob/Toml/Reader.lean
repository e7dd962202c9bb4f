import SqlJob.Json.Reader
import SqlJob.Text.Blank
import SqlJob.Toml.Moment

/-!
# Reading TOML

A document is read line by line: a line is blank, a comment, a value under a key, or a header. Every
reader gives back what is left of the text; the recursion is bounded by the length of the text, and
values are nested at most as deep as `maxDepth` says.
-/

namespace SqlJob.Toml

/-- So many arrays and tables written as values may stand in one another, and a key has at most so
many parts. -/
def maxDepth : Nat := 79

/-! ### Space, comments and line ends -/

/-- The text without the spaces and tabs it starts with. -/
def skipBlanks (s : List Char) : List Char := s.dropWhile fun c => c = ' ' || c = '\t'

/-- Whether a character may stand in a comment or a string as it is. -/
def isPrintable (c : Char) : Bool := c = '\t' || (0x20 ≤ c.toNat && c.toNat ≠ 0x7F)

/-- What follows the end of a line. -/
def afterLineEnd : List Char → Option (List Char)
  | '\n' :: rest => some rest
  | '\r' :: '\n' :: rest => some rest
  | _ => none

/-- The text without the comment it starts with. -/
def skipComment : List Char → List Char
  | '#' :: rest => rest.dropWhile isPrintable
  | s => s

/-- What follows a line of which nothing but a comment is left. -/
def finishLine (s : List Char) : Option (List Char) :=
  match skipComment (skipBlanks s) with
  | [] => some []
  | s => afterLineEnd s

/-- The text without the space, comments and line ends it starts with, as they may stand between the
items of an array. -/
def skipLines : Nat → List Char → Option (List Char)
  | 0, _ => none
  | fuel + 1, s =>
    match skipBlanks s with
    | '#' :: rest =>
      match afterLineEnd (skipComment ('#' :: rest)) with
      | some rest => skipLines fuel rest
      | none => none
    | '\n' :: rest => skipLines fuel rest
    | '\r' :: rest =>
      match afterLineEnd ('\r' :: rest) with
      | some rest => skipLines fuel rest
      | none => none
    | s => some s

/-! ### Strings -/

/-- The character with a number of so many hexadecimal digits. -/
def readCodePoint (count : Nat) (s : List Char) : Option (Char × List Char) := do
  let ds ← (s.take count).mapM Json.hexValue?
  let n := ds.foldl (fun n d => 16 * n + d) 0
  if ds.length = count ∧ n.isValidChar then some (.ofNat n, s.drop count) else none

/-- The character of an escape behind its backslash. -/
def readEscape : List Char → Option (Char × List Char)
  | 'u' :: rest => readCodePoint 4 rest
  | 'U' :: rest => readCodePoint 8 rest
  | '/' :: _ => none
  | c :: rest => (Json.simpleEscape? c).map (·, rest)
  | [] => none

/-- A string on one line behind its opening quotation mark. -/
def readBasic : Nat → List Char → Option (List Char × List Char)
  | 0, _ => none
  | fuel + 1, s =>
    match s with
    | [] => none
    | '"' :: rest => some ([], rest)
    | '\\' :: rest => do
      let (c, rest) ← readEscape rest
      let (text, rest) ← readBasic fuel rest
      some (c :: text, rest)
    | c :: rest =>
      if isPrintable c then do
        let (text, rest) ← readBasic fuel rest
        some (c :: text, rest)
      else none

/-- A string without escapes on one line behind its opening apostrophe. -/
def readLiteral : List Char → Option (List Char × List Char)
  | [] => none
  | c :: rest =>
    if c = '\'' then some ([], rest)
    else if isPrintable c then do
      let (text, rest) ← readLiteral rest
      some (c :: text, rest)
    else none

/-- The text without the spaces, tabs and line ends it starts with. -/
def skipToText : List Char → List Char
  | '\r' :: '\n' :: rest => skipToText rest
  | c :: rest => if c = ' ' || c = '\t' || c = '\n' then skipToText rest else c :: rest
  | [] => []

/-- A string over several lines behind its three opening marks. Up to two marks may stand directly
in front of the three closing ones. -/
def readLong (mark : Char) (escapes : Bool) : Nat → List Char → Option (List Char × List Char)
  | 0, _ => none
  | fuel + 1, s =>
    match s with
    | [] => none
    | c :: rest =>
      if c = mark then
        let n := (s.takeWhile (· = mark)).length
        if n < 3 then do
          let (text, rest) ← readLong mark escapes fuel rest
          some (c :: text, rest)
        else
          let inside := min (n - 3) 2
          some (List.replicate inside mark, s.drop (inside + 3))
      else if escapes && c = '\\' then
        match afterLineEnd (skipBlanks rest) with
        | some rest => readLong mark escapes fuel (skipToText rest)
        | none => do
          let (c, rest) ← readEscape rest
          let (text, rest) ← readLong mark escapes fuel rest
          some (c :: text, rest)
      else
        match afterLineEnd s with
        | some rest => do
          let (text, rest) ← readLong mark escapes fuel rest
          some ('\n' :: text, rest)
        | none =>
          if isPrintable c then do
            let (text, rest) ← readLong mark escapes fuel rest
            some (c :: text, rest)
          else none

/-- A string over several lines, where a line end directly behind the opening marks does not
count. -/
def readLines (mark : Char) (escapes : Bool) (s : List Char) : Option (List Char × List Char) :=
  let s := (afterLineEnd s).getD s
  readLong mark escapes (s.length + 1) s

/-! ### Keys -/

/-- Whether a character may stand in a key without quotation marks. -/
def isBare (c : Char) : Bool := c.isAlphanum || c = '_' || c = '-'

/-- One part of a key. -/
def readName (s : List Char) : Option (String × List Char) :=
  match s with
  | '"' :: rest => (readBasic (rest.length + 1) rest).map fun (t, rest) => (.ofList t, rest)
  | '\'' :: rest => (readLiteral rest).map fun (t, rest) => (.ofList t, rest)
  | s =>
    let name := s.takeWhile isBare
    if name.isEmpty then none else some (.ofList name, s.drop name.length)

/-- The parts of a key with points between them, and what follows them and the space behind. -/
def readParts : Nat → List Char → Option (List String × List Char)
  | 0, _ => none
  | fuel + 1, s => do
    let (name, rest) ← readName (skipBlanks s)
    match skipBlanks rest with
    | '.' :: rest => do
      let (names, rest) ← readParts fuel rest
      some (name :: names, rest)
    | rest => some ([name], rest)

/-- A key. -/
def readKey (s : List Char) : Option (List String × List Char) := readParts maxDepth s

/-! ### Numbers -/

/-- Digits with single underscores between them; the digits alone, and what follows. -/
def readGroups (isDigit : Char → Bool) : List Char → Option (List Char × List Char)
  | [] => none
  | [c] => if isDigit c then some ([c], []) else none
  | c :: d :: rest =>
    if !isDigit c then none
    else if isDigit d then (readGroups isDigit (d :: rest)).map fun (ds, rest) => (c :: ds, rest)
    else if d = '_' then (readGroups isDigit rest).map fun (ds, rest) => (c :: ds, rest)
    else some ([c], d :: rest)

/-- The sign in front of a number. -/
def readSign : List Char → List Char × List Char
  | '-' :: rest => (['-'], rest)
  | '+' :: rest => ([], rest)
  | rest => ([], rest)

/-- The whole part of a decimal number, which has no leading zero. -/
def readWhole (s : List Char) : Option (List Char × List Char) :=
  match s with
  | '0' :: rest => some (['0'], rest)
  | s => readGroups Char.isDigit s

/-- The exponent of a number with its letter, if there is one. -/
def readExponent (s : List Char) : Option (List Char × List Char) :=
  match s with
  | [] => none
  | e :: rest =>
    if e = 'e' ∨ e = 'E' then
      let (sign, rest) := readSign rest
      (readGroups Char.isDigit rest).map fun (ds, rest) => ('e' :: sign ++ ds, rest)
    else none

/-- The fraction and the exponent of a number; one of them must be there. -/
def readTail (s : List Char) : Option (List Char × List Char) :=
  match s with
  | '.' :: rest => do
    let (ds, rest) ← readGroups Char.isDigit rest
    let (exponent, rest) := (readExponent rest).getD ([], rest)
    some ('.' :: ds ++ exponent, rest)
  | s => readExponent s

/-- A number with a fraction or an exponent; one that is beyond the greatest double is none. -/
def readReal (s : List Char) : Option (Toml × List Char) := do
  let (sign, rest) := readSign s
  let (whole, rest) ← readWhole rest
  let (tail, rest) ← readTail rest
  let n ← Numeral.read? (sign ++ whole ++ tail)
  if n.toFloat.isInf ∧ sign.isEmpty then none else some (float n.toFloat, rest)

/-- A word that stands for a number. -/
def readSpecial (s : List Char) : Option (Toml × List Char) :=
  let (sign, rest) := readSign s
  let inf : Float := Float.ofBits 0x7FF0000000000000
  match Json.afterText "inf".toList rest with
  | some rest => some (float (if sign.isEmpty then inf else -inf), rest)
  | none => (Json.afterText "nan".toList rest).map fun rest => (float (0.0 / 0.0), rest)

/-- A whole number that fits 64 bits. -/
def wholeNumber (isNegative : Bool) (n : Nat) (rest : List Char) : Option (Toml × List Char) :=
  let m : Int := if isNegative then -n else n
  if -9223372036854775808 ≤ m ∧ m ≤ 9223372036854775807 then some (integer m, rest) else none

/-- A whole number in a base whose digits are the smallest hexadecimal ones. -/
def readBased (base : Nat) (s : List Char) : Option (Toml × List Char) := do
  let isDigit (c : Char) : Bool := (Json.hexValue? c).any (· < base)
  let (ds, rest) ← readGroups isDigit s
  wholeNumber false (ds.foldl (fun n c => base * n + (Json.hexValue? c).getD 0) 0) rest

/-- A whole number. -/
def readInteger : List Char → Option (Toml × List Char)
  | '0' :: 'x' :: rest => readBased 16 rest
  | '0' :: 'o' :: rest => readBased 8 rest
  | '0' :: 'b' :: rest => readBased 2 rest
  | s => do
    let (sign, rest) := readSign s
    let (ds, rest) ← readWhole rest
    wholeNumber (!sign.isEmpty) (Decimal.ofDigits ds) rest

/-- A moment or a number. -/
def readNumber (s : List Char) : Option (Toml × List Char) :=
  readMoment s <|> readReal s <|> readSpecial s <|> readInteger s

/-! ### Values -/

/-- A value that has no values in it. -/
def readPlain (s : List Char) : Option (Toml × List Char) :=
  let text (x : Option (List Char × List Char)) : Option (Toml × List Char) :=
    x.map fun (t, rest) => (string (.ofList t), rest)
  match s with
  | '"' :: '"' :: '"' :: rest => text (readLines '"' true rest)
  | '"' :: rest => text (readBasic (rest.length + 1) rest)
  | '\'' :: '\'' :: '\'' :: rest => text (readLines '\'' false rest)
  | '\'' :: rest => text (readLiteral rest)
  | 't' :: rest => (Json.afterText "rue".toList rest).map (boolean true, ·)
  | 'f' :: rest => (Json.afterText "alse".toList rest).map (boolean false, ·)
  | s => readNumber s

mutual

/-- A value in which `depth` more arrays and tables may stand in one another. -/
def readValue : Nat → Nat → List Char → Option (Toml × List Char)
  | 0, _, _ => none
  | fuel + 1, depth, s =>
    match s, depth with
    | '[' :: _, 0 => none
    | '[' :: rest, depth + 1 => do
      let (items, rest) ← readItems fuel depth rest
      some (array items, rest)
    | '{' :: _, 0 => none
    | '{' :: rest, depth + 1 =>
      match skipBlanks rest with
      | '}' :: rest => some (table .literal [], rest)
      | rest => do
        let (members, rest) ← readMembers fuel depth rest
        let entries ← addAll [] members
        some (table .literal entries, rest)
    | s, _ => readPlain s

/-- The items of an array up to its closing bracket. -/
def readItems : Nat → Nat → List Char → Option (List Toml × List Char)
  | 0, _, _ => none
  | fuel + 1, depth, s =>
    match skipLines (s.length + 1) s with
    | none => none
    | some (']' :: rest) => some ([], rest)
    | some rest => do
      let (v, rest) ← readValue fuel depth rest
      match skipLines (rest.length + 1) rest with
      | some (',' :: rest) => do
        let (vs, rest) ← readItems fuel depth rest
        some (v :: vs, rest)
      | some (']' :: rest) => some ([v], rest)
      | _ => none

/-- The values under keys of a table up to its closing brace; there is at least one. -/
def readMembers : Nat → Nat → List Char → Option (List (List String × Toml) × List Char)
  | 0, _, _ => none
  | fuel + 1, depth, s => do
    let (key, rest) ← readKey s
    let rest ← afterChar '=' rest
    let (v, rest) ← readValue fuel depth (skipBlanks rest)
    match skipBlanks rest with
    | ',' :: rest => do
      let (members, rest) ← readMembers fuel depth rest
      some ((key, v) :: members, rest)
    | '}' :: rest => some ([(key, v)], rest)
    | _ => none

end

/-! ### Documents -/

/-- One value under a key, and what follows its line. -/
def readKeyValue (s : List Char) : Option ((List String × Toml) × List Char) := do
  let (key, rest) ← readKey s
  let rest ← afterChar '=' rest
  let (v, rest) ← readValue (2 * rest.length + 2) maxDepth (skipBlanks rest)
  let rest ← finishLine rest
  some ((key, v), rest)

/-- A header, and what follows its line. -/
def readHeader (s : List Char) : Option ((Bool × List String) × List Char) := do
  let (isRepeated, s) :=
    match s with
    | '[' :: '[' :: rest => (true, rest)
    | s => (false, s.drop 1)
  let (path, rest) ← readKey s
  let rest ← afterChar ']' rest
  let rest ← if isRepeated then afterChar ']' rest else some rest
  let rest ← finishLine rest
  some ((isRepeated, path), rest)

/-- The values in front of the next header, and the sections from there on. -/
def readBody : Nat → List Char → Option (List (List String × Toml) × List Section)
  | 0, _ => none
  | fuel + 1, s =>
    match skipBlanks s with
    | [] => some ([], [])
    | c :: rest =>
      if c = '#' ∨ c = '\n' ∨ c = '\r' then do
        let rest ← finishLine (c :: rest)
        readBody fuel rest
      else if c = '[' then do
        let ((isRepeated, path), rest) ← readHeader (c :: rest)
        let (values, sections) ← readBody fuel rest
        some ([], ⟨isRepeated, path, values⟩ :: sections)
      else do
        let (value, rest) ← readKeyValue (c :: rest)
        let (values, sections) ← readBody fuel rest
        some (value :: values, sections)

/-- The table that a text is, if it is a document. A byte order mark in front does not count. -/
def read (text : String) : Option (List (String × Toml)) := do
  let s := text.toList
  let s := if s.head? = some '\uFEFF' then s.drop 1 else s
  let (front, sections) ← readBody (s.length + 1) s
  document front sections

end SqlJob.Toml
