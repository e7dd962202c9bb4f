import SqlJob.Database.Cell

/-!
# Formatted texts

The text of a format with values in the places of its directives. A directive has flags, a width,
a precision and a letter, which says what kind of text is made of the value.
-/

namespace SqlJob.Database.Format

/-- A directive of a format. -/
structure Directive where
  leftAligned : Bool := false
  plus : Bool := false
  blank : Bool := false
  zeros : Bool := false
  commas : Bool := false
  alternate : Bool := false
  width : Nat := 0
  precision : Option Nat := none
  letter : Char := 's'

/-- A number rounded to places behind the point, half away from zero: the digits of the whole part
and of the fraction. -/
def fixed (x : Float) (places : Nat) : List Char × List Char :=
  match Binary64.ofFloat x with
  | .finite _ m q _ =>
    let (num, den) := Cell.fraction false m q
    let n := (2 * num.toNat * Nat.pow 10 places + den) / (2 * den)
    let ds := Decimal.digitChars n
    let ds := List.replicate (places + 1 - ds.length) '0' ++ ds
    (ds.take (ds.length - places), ds.drop (ds.length - places))
  | _ => ("Inf".toList, [])

/-- A number with an exponent: one digit, so many places, and the exponent with two digits. -/
def scientific (x : Float) (places : Nat) (letter : Char) : List Char :=
  match Binary64.ofFloat x with
  | .finite _ m q _ =>
    let (d, e) : Decimal × Int :=
      if m = 0 then (⟨0, 0⟩, 0)
      else
        let (num, den) := Cell.fraction false m q
        let d := Decimal.rounded (places + 1) ⟨num.toNat, den⟩
        (d, d.pointPosition - 1)
    let ds := Decimal.digitChars d.digits
    let rest := ds.drop 1 ++ List.replicate (places - (ds.length - 1)) '0'
    let es := Decimal.digitChars e.natAbs
    ds.take 1 ++ (if rest.isEmpty then [] else '.' :: rest) ++
      letter :: (if e < 0 then '-' else '+') :: (if es.length < 2 then '0' :: es else es)
  | _ => "Inf".toList

/-- Digits with a comma between every three. -/
def grouped (ds : List Char) : List Char :=
  (go ds.reverse).reverse
where
  go : List Char → List Char
    | a :: b :: c :: d :: rest => a :: b :: c :: ',' :: go (d :: rest)
    | ds => ds

/-- Whether the value is below zero, with the sign of zero. -/
def isNegative (x : Float) : Bool :=
  match Binary64.ofFloat x with
  | .finite negative _ _ _ => negative
  | .infinite negative => negative
  | .nan => false

/-- A number without zeros at the end of its fraction. -/
def withoutZeros (s : List Char) : List Char :=
  if s.contains '.' then
    let s := (s.reverse.dropWhile (· == '0')).reverse
    if s.getLast? = some '.' then s.dropLast else s
  else s

/-- The shorter of the forms with and without exponent, for so many significant digits. -/
def general (x : Float) (precision : Nat) (letter : Char) : List Char :=
  let precision := max precision 1
  match Binary64.ofFloat x with
  | .finite _ m q _ =>
    if m = 0 then ['0']
    else
      let (num, den) := Cell.fraction false m q
      let e := (Decimal.rounded precision ⟨num.toNat, den⟩).pointPosition - 1
      if e < -4 ∨ precision - 1 < e then
        let s := scientific x (precision - 1) letter
        withoutZeros (s.takeWhile (· != letter)) ++ s.dropWhile (· != letter)
      else
        let (whole, rest) := fixed x ((precision : Int) - 1 - e).toNat
        withoutZeros (whole ++ '.' :: rest)
  | _ => "Inf".toList

/-- Digits of a natural number in a base. -/
def based (base n : Nat) (upper : Bool) : List Char :=
  (Nat.toDigits base n).map fun c => if upper then c.toUpper else c

/-- Text with its quotes doubled. -/
def doubled (q : Char) (s : List Char) : List Char :=
  s.flatMap fun c => if c = q then [c, c] else [c]

/-- The sign in front of a number. -/
def sign (d : Directive) (negative : Bool) : List Char :=
  if negative then ['-'] else if d.plus then ['+'] else if d.blank then [' '] else []

/-- A text filled up to the width; a number may be filled with zeros behind its sign. -/
def padded (d : Directive) (signs body : List Char) (isNumber : Bool) : List Char :=
  let missing := d.width - (signs.length + body.length)
  if d.leftAligned then signs ++ body ++ List.replicate missing ' '
  else if d.zeros && isNumber then signs ++ List.replicate missing '0' ++ body
  else List.replicate missing ' ' ++ signs ++ body

/-- The 64 bits of the integer that a value stands for, as a natural number. -/
def word (c : Cell) : Nat := (c.toInt % 18446744073709551616).toNat

/-- A value in the place of a directive. -/
def directive (d : Directive) (c : Cell) : List Char :=
  match d.letter with
  | 'd' | 'i' =>
    let n := c.toInt
    let ds := Decimal.digitChars n.natAbs
    let ds := List.replicate (d.precision.getD 0 - ds.length) '0' ++ ds
    padded d (sign d (n < 0)) (if d.commas then grouped ds else ds) true
  | 'u' => padded d [] (Decimal.digitChars (word c)) true
  | 'x' => padded d [] (based 16 (word c) false) true
  | 'X' => padded d [] (based 16 (word c) true) true
  | 'o' => padded d [] (based 8 (word c) false) true
  | 'f' | 'F' =>
    let x := c.toFloat
    let (whole, rest) := fixed x (d.precision.getD 6)
    padded d (sign d (isNegative x))
      ((if d.commas then grouped whole else whole) ++ (if rest.isEmpty then [] else '.' :: rest))
      true
  | 'e' | 'E' =>
    let x := c.toFloat
    padded d (sign d (isNegative x)) (scientific x (d.precision.getD 6) d.letter) true
  | 'g' | 'G' =>
    let x := c.toFloat
    let letter := if d.letter = 'g' then 'e' else 'E'
    padded d (sign d (isNegative x)) (general x (d.precision.getD 6) letter) true
  | 'c' => padded d [] (c.asString.toList.take 1) false
  | 'q' => padded d [] (doubled '\'' (cut c.asString.toList)) false
  | 'w' => padded d [] (doubled '"' (cut c.asString.toList)) false
  | 'Q' =>
    if c.isNull then padded d [] "NULL".toList false
    else padded d [] ('\'' :: doubled '\'' (cut c.asString.toList) ++ ['\'']) false
  | _ => padded d [] (cut c.asString.toList) false
where
  cut (s : List Char) : List Char :=
    match d.precision with
    | some n => s.take n
    | none => s

/-- Reads the flags of a directive. -/
def flags (d : Directive) : List Char → Directive × List Char
  | [] => (d, [])
  | c :: rest =>
    match c with
    | '-' => flags { d with leftAligned := true } rest
    | '+' => flags { d with plus := true } rest
    | ' ' => flags { d with blank := true } rest
    | '0' => flags { d with zeros := true } rest
    | ',' => flags { d with commas := true } rest
    | '#' => flags { d with alternate := true } rest
    | '!' => flags { d with alternate := true } rest
    | _ => (d, c :: rest)

/-- The text of a format; values that are missing are null. -/
def run : Nat → List Char → List Cell → List Char
  | 0, _, _ => []
  | _ + 1, [], _ => []
  | fuel + 1, '%' :: rest, args =>
    let (d, rest) := flags {} rest
    let (width, rest, args) : Nat × List Char × List Cell :=
      match rest with
      | '*' :: rest => ((args.headD .null).toInt.natAbs, rest, args.drop 1)
      | rest => (Decimal.ofDigits (rest.takeWhile Char.isDigit), rest.dropWhile Char.isDigit, args)
    let (precision, rest, args) : Option Nat × List Char × List Cell :=
      match rest with
      | '.' :: '*' :: rest => (some (args.headD .null).toInt.natAbs, rest, args.drop 1)
      | '.' :: rest =>
        (some (Decimal.ofDigits (rest.takeWhile Char.isDigit)), rest.dropWhile Char.isDigit, args)
      | rest => (none, rest, args)
    match rest.dropWhile (· == 'l') with
    | [] => []
    | '%' :: rest => '%' :: run fuel rest args
    | letter :: rest =>
      if "diuxXofFeEgGcqwQszp".toList.contains letter then
        directive { d with width, precision, letter } (args.headD .null) ++
          run fuel rest (args.drop 1)
      else []
  | fuel + 1, c :: rest, args => c :: run fuel rest args

end SqlJob.Database.Format
