import SqlJob.Json.Value

/-!
# Reading JSON

A recursive-descent reader over the list of characters. What is left of the text is returned with
every part; the depth of the recursion is bounded by the length of the text.

A number keeps at most as many of its leading digits as fit 64 bits; the digits after them only
count for the exponent, and in a fraction not at all. Its value as a double is that of the kept
digits times or divided by a power of ten, computed in doubles.
-/

namespace SqlJob.Json

/-- The text without the white space it starts with; JSON knows four such characters. -/
def skipSpace (s : List Char) : List Char :=
  s.dropWhile fun c => c = ' ' || c = '\n' || c = '\t' || c = '\r'

/-- The value of a hexadecimal digit. -/
def hexValue? (c : Char) : Option Nat :=
  if c.isDigit then some (c.toNat - '0'.toNat)
  else if 'a' ≤ c ∧ c ≤ 'f' then some (c.toNat - 'a'.toNat + 10)
  else if 'A' ≤ c ∧ c ≤ 'F' then some (c.toNat - 'A'.toNat + 10)
  else none

/-- Four hexadecimal digits. -/
def readHex4 : List Char → Option (Nat × List Char)
  | a :: b :: c :: d :: rest => do
    let a ← hexValue? a
    let b ← hexValue? b
    let c ← hexValue? c
    let d ← hexValue? d
    some (((a * 16 + b) * 16 + c) * 16 + d, rest)
  | _ => none

/-- The character that a one-letter escape stands for. -/
def simpleEscape? (c : Char) : Option Char :=
  if c = '"' || c = '\\' || c = '/' then some c
  else if c = 'b' then some (.ofNat 8)
  else if c = 'f' then some (.ofNat 12)
  else if c = 'n' then some '\n'
  else if c = 'r' then some '\r'
  else if c = 't' then some '\t'
  else none

/-- A code unit that starts a surrogate pair. -/
def isHighSurrogate (n : Nat) : Bool :=
  0xD800 ≤ n && n ≤ 0xDBFF

/-- A code unit that ends a surrogate pair. -/
def isLowSurrogate (n : Nat) : Bool :=
  0xDC00 ≤ n && n ≤ 0xDFFF

/-- The character of an escape by code unit, which may need a second one; `none` stands for half a
surrogate pair. -/
def readUnicodeEscape (s : List Char) : Option (Option Char × List Char) := do
  let (high, rest) ← readHex4 s
  if isLowSurrogate high then some (none, rest)
  else if !isHighSurrogate high then some (some (.ofNat high), rest)
  else match rest with
    | '\\' :: 'u' :: rest' => do
      let (low, after) ← readHex4 rest'
      if isLowSurrogate low then
        some (some (.ofNat (0x10000 + (high - 0xD800) * 0x400 + (low - 0xDC00))), after)
      else some (none, rest)
    | _ => some (none, rest)

/-- The rest of a string behind its opening quote: its text, unless it is broken, and what follows
the closing quote. -/
def readStringTail : Nat → List Char → Option (Option (List Char) × List Char)
  | 0, _ => none
  | fuel + 1, s =>
    match s with
    | [] => none
    | '"' :: rest => some (some [], rest)
    | '\\' :: 'u' :: rest => do
      let (c, rest) ← readUnicodeEscape rest
      let (text, rest) ← readStringTail fuel rest
      some (do some ((← c) :: (← text)), rest)
    | '\\' :: e :: rest => do
      let c ← simpleEscape? e
      let (text, rest) ← readStringTail fuel rest
      some (text.map (c :: ·), rest)
    | c :: rest =>
      if c.toNat < 0x20 then none
      else do
        let (text, rest) ← readStringTail fuel rest
        some (text.map (c :: ·), rest)

/-- A string behind its opening quote. -/
def readString (s : List Char) : Option (Option (List Char) × List Char) :=
  readStringTail (s.length + 1) s

/-- The greatest number of 64 bits. -/
def maxNatural : Nat := 18446744073709551615

/-- Appends digits to a number as long as it fits 64 bits: the number, how many digits were
appended, how many were left over, and the rest of the text. -/
def readDigits (n appended : Nat) : List Char → Nat × Nat × Nat × List Char
  | [] => (n, appended, 0, [])
  | c :: rest =>
    if !c.isDigit then (n, appended, 0, c :: rest)
    else
      let next := n * 10 + (c.toNat - '0'.toNat)
      if maxNatural < next then
        let digits := (c :: rest).takeWhile Char.isDigit
        (n, appended, digits.length, (c :: rest).drop digits.length)
      else readDigits next (appended + 1) rest

/-- A power of ten as a double; the exponent is at most 308. -/
def powerOfTen (e : Nat) : Float :=
  Float.ofScientific 1 false e

/-- The double `f · 10 ^ e`; `none` if it is beyond the range of doubles. -/
def scale (f : Float) (e : Int) : Nat → Option Float
  | 0 => some f
  | fuel + 1 =>
    if e.natAbs ≤ 308 then
      if 0 ≤ e then
        let g := f * powerOfTen e.toNat
        if g.isInf then none else some g
      else some (f / powerOfTen e.natAbs)
    else if f == 0.0 then some f
    else if 0 ≤ e then none
    else scale (f / powerOfTen 308) (e + 308) fuel

/-- A number by its sign, kept digits and exponent. -/
def realNumber (negative : Bool) (digits : Nat) (e : Int) : JsonNumber :=
  match scale (UInt64.ofNat digits).toFloat e 8 with
  | some f => .real (if negative then -f else f)
  | none => .outOfRange

/-- The exponent of a number behind its letter, added to the exponent `e` it has so far. -/
def readExponent (negative : Bool) (digits : Nat) (e : Int) (s : List Char) :
    Option (JsonNumber × List Char) :=
  let (down, s) := match s with
    | '+' :: rest => (false, rest)
    | '-' :: rest => (true, rest)
    | _ => (false, s)
  let ds := s.takeWhile Char.isDigit
  let rest := s.drop ds.length
  let value := Decimal.ofDigits ds
  if ds = [] then none
  else if 2147483647 < value then
    if digits ≠ 0 ∧ !down then some (.outOfRange, rest)
    else some (.real (if negative then -0.0 else 0.0), rest)
  else some (realNumber negative digits (if down then e - value else e + value), rest)

/-- What may follow the digits of a number: an exponent or nothing. -/
def finishReal (negative : Bool) (digits : Nat) (e : Int) (s : List Char) :
    Option (JsonNumber × List Char) :=
  match s with
  | 'e' :: rest => readExponent negative digits e rest
  | 'E' :: rest => readExponent negative digits e rest
  | _ => some (realNumber negative digits e, s)

/-- The fraction of a number behind its point. -/
def readFraction (negative : Bool) (digits : Nat) (e : Int) (s : List Char) :
    Option (JsonNumber × List Char) :=
  let (digits, places, dropped, rest) := readDigits digits 0 s
  if places = 0 ∧ dropped = 0 then none
  else finishReal negative digits (e - places) rest

/-- A whole number that fits its kind, or else a double. -/
def wholeNumber (negative : Bool) (n : Nat) : JsonNumber :=
  if !negative then .natural (.ofNat n)
  else if n = 0 ∨ 9223372036854775808 < n then .real (-(UInt64.ofNat n).toFloat)
  else .negative (.ofInt (-(n : Int)))

/-- A number behind its sign. -/
def readNumber (negative : Bool) (s : List Char) : Option (JsonNumber × List Char) :=
  let leading := match s with
    | '0' :: c :: _ => !c.isDigit
    | c :: _ => c.isDigit
    | [] => false
  if !leading then none
  else
    let (n, _, dropped, rest) := readDigits 0 0 s
    match rest with
    | '.' :: rest => readFraction negative n dropped rest
    | 'e' :: rest => readExponent negative n dropped rest
    | 'E' :: rest => readExponent negative n dropped rest
    | _ =>
      if dropped = 0 then some (wholeNumber negative n, rest)
      else some (realNumber negative n dropped, rest)

/-- What follows a word at the start of the text. -/
def afterText : List Char → List Char → Option (List Char)
  | [], s => some s
  | w :: word, c :: s => if w = c then afterText word s else none
  | _ :: _, [] => none

mutual

/-- A value with what follows it; white space in front is skipped. -/
def readValue : Nat → List Char → Option (Json × List Char)
  | 0, _ => none
  | fuel + 1, s =>
    match skipSpace s with
    | 'n' :: rest => (afterText "ull".toList rest).map (null, ·)
    | 't' :: rest => (afterText "rue".toList rest).map (bool true, ·)
    | 'f' :: rest => (afterText "alse".toList rest).map (bool false, ·)
    | '"' :: rest => do
      let (text, rest) ← readString rest
      some (text.elim broken (fun t => string (.ofList t)), rest)
    | '-' :: rest => (readNumber true rest).map fun (n, rest) => (number n, rest)
    | '[' :: rest =>
      match skipSpace rest with
      | ']' :: rest => some (array [], rest)
      | rest => do
        let (items, rest) ← readItems fuel rest
        some (array items, rest)
    | '{' :: rest =>
      match skipSpace rest with
      | '}' :: rest => some (object [], rest)
      | rest => do
        let (members, rest) ← readMembers fuel rest
        some (members.elim broken object, rest)
    | c :: rest => (readNumber false (c :: rest)).map fun (n, rest) => (number n, rest)
    | [] => none

/-- The items of an array up to its closing bracket; there is at least one. -/
def readItems : Nat → List Char → Option (List Json × List Char)
  | 0, _ => none
  | fuel + 1, s => do
    let (v, rest) ← readValue fuel s
    match skipSpace rest with
    | ',' :: rest => do
      let (vs, rest) ← readItems fuel rest
      some (v :: vs, rest)
    | ']' :: rest => some ([v], rest)
    | _ => none

/-- The members of an object up to its closing brace; there is at least one. No list of members
comes back when a name is broken. -/
def readMembers : Nat → List Char → Option (Option (List (String × Json)) × List Char)
  | 0, _ => none
  | fuel + 1, s =>
    match skipSpace s with
    | '"' :: rest => do
      let (name, rest) ← readString rest
      match skipSpace rest with
      | ':' :: rest => do
        let (v, rest) ← readValue fuel rest
        let head : Option (String × Json) := name.map fun n => (.ofList n, v)
        match skipSpace rest with
        | ',' :: rest => do
          let (tail, rest) ← readMembers fuel rest
          some (do some ((← head) :: (← tail)), rest)
        | '}' :: rest => some (head.map ([·]), rest)
        | _ => none
      | _ => none
    | _ => none

end

/-- Reads a text that is one JSON value with nothing but white space around it. -/
def read (s : String) : Option Json :=
  match readValue (2 * s.toList.length + 2) s.toList with
  | some (v, rest) => if skipSpace rest = [] then some v else none
  | none => none

end SqlJob.Json
