import SqlJob.Decimal.Binary64

/-!
# Reading decimal numerals

A numeral is an optional sign, digits with at most one point among them, and an optional exponent.
There must be a digit in front of the exponent; an exponent without digits is not part of the
numeral.
-/

namespace SqlJob

/-- A numeral and how it is written. -/
structure Numeral where
  negative : Bool
  decimal : Decimal
  /-- Whether it has neither point nor exponent. -/
  isWhole : Bool

namespace Numeral

/-- An exponent behind its letter, and what follows it. -/
def readExponent (s : List Char) : Option (Int × List Char) :=
  let (negative, rest) :=
    match s with
    | '-' :: rest => (true, rest)
    | '+' :: rest => (false, rest)
    | rest => (false, rest)
  let digits := rest.takeWhile Char.isDigit
  if digits.isEmpty then none
  else
    let n : Int := Decimal.ofDigits digits
    some (if negative then -n else n, rest.drop digits.length)

/-- The numeral a text starts with, and what follows it. -/
def readFirst (s : List Char) : Option (Numeral × List Char) :=
  let (negative, s) :=
    match s with
    | '-' :: rest => (true, rest)
    | '+' :: rest => (false, rest)
    | rest => (false, rest)
  let whole := s.takeWhile Char.isDigit
  let rest := s.dropWhile Char.isDigit
  let (hasPoint, fraction, rest) :=
    match rest with
    | '.' :: rest => (true, rest.takeWhile Char.isDigit, rest.dropWhile Char.isDigit)
    | rest => (false, [], rest)
  if whole.isEmpty && fraction.isEmpty then none
  else
    let (exponent, rest) :=
      match rest with
      | e :: tail =>
        if e = 'e' ∨ e = 'E' then
          match readExponent tail with
          | some (n, rest) => (some n, rest)
          | none => (none, rest)
        else (none, rest)
      | [] => (none, [])
    let decimal : Decimal :=
      ⟨Decimal.ofDigits (whole ++ fraction), exponent.getD 0 - fraction.length⟩
    some (⟨negative, decimal, !hasPoint && exponent.isNone⟩, rest)

/-- The numeral that a whole text is. -/
def read? (s : List Char) : Option Numeral :=
  match readFirst s with
  | some (n, []) => some n
  | _ => none

/-- The double nearest to the numeral. -/
def toFloat (n : Numeral) : Float :=
  let x := n.decimal.toFloat
  if n.negative then -x else x

end Numeral

/-- The double a text stands for: a numeral, an infinity or no number. -/
def readFloat (s : String) : Option Float :=
  match Numeral.read? s.toList with
  | some n => some n.toFloat
  | none =>
    let (negative, name) :=
      match s.toList with
      | '-' :: rest => (true, rest)
      | '+' :: rest => (false, rest)
      | rest => (false, rest)
    let name := String.ofList (name.map Char.toLower)
    let inf : Float := Float.ofBits 0x7FF0000000000000
    if name = "inf" ∨ name = "infinity" then some (if negative then -inf else inf)
    else if name = "nan" then some (0.0 / 0.0)
    else none

end SqlJob
