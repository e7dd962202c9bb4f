import SqlJob.Decimal.Shortest

/-!
# Floating-point numbers and their texts

A double is decoded from its bits into sign, significand and exponent; its shortest decimal comes
from there. Two texts are made of that decimal. The positional text never has an exponent and shows
no fraction for whole numbers. The scientific text keeps a fraction always, is positional from
`1e-5` up to sixteen digits before the point, and otherwise writes an exponent with its sign when
that is positive.
-/

namespace SqlJob

/-- What a double is. -/
inductive Binary64 where
  | nan
  | infinite (negative : Bool)
  /-- The number `m · 2 ^ q`, or its negative; `narrow` when the next double below in magnitude is
  half as far away as the next one above. -/
  | finite (negative : Bool) (m : Nat) (q : Int) (narrow : Bool)
  deriving DecidableEq, Repr

namespace Binary64

/-- Decodes the bits of a double. -/
def ofBits (bits : UInt64) : Binary64 :=
  let n : Nat := bits.toNat
  let unit : Nat := 4503599627370496
  let negative := n / 9223372036854775808 == 1
  let exponent : Nat := n / unit % 2048
  let fraction : Nat := n % unit
  if exponent = 2047 then
    if fraction = 0 then .infinite negative else .nan
  else if exponent = 0 then .finite negative fraction (-1074) false
  else .finite negative (fraction + unit) ((exponent : Int) - 1075)
    (fraction == 0 && 1 < exponent)

/-- Decodes a double. -/
def ofFloat (x : Float) : Binary64 :=
  ofBits x.toBits

end Binary64

namespace Decimal

/-- The decimal digits of a natural number. -/
def digitChars (n : Nat) : List Char :=
  Nat.toDigits 10 n

/-- The decimal without an exponent. -/
def positional (d : Decimal) : List Char :=
  let ds := digitChars d.digits
  if 0 ≤ d.exponent then ds ++ List.replicate d.exponent.toNat '0'
  else
    let places := (-d.exponent).toNat
    if places < ds.length then
      ds.take (ds.length - places) ++ '.' :: ds.drop (ds.length - places)
    else '0' :: '.' :: (List.replicate (places - ds.length) '0' ++ ds)

/-- An exponent with a sign in front of it. -/
def signedExponent (e : Int) : List Char :=
  (if 0 ≤ e then '+' else '-') :: digitChars e.natAbs

/-- The digits as one digit, a point and the rest, followed by the exponent. -/
def scientific (d : Decimal) : List Char :=
  let ds := digitChars d.digits
  let e := d.exponent + (ds.length - 1 : Nat)
  let rest := ds.drop 1
  ds.take 1 ++ (if rest = [] then [] else '.' :: rest) ++ 'e' :: signedExponent e

/-- How many digits stand before the point when the decimal is written without an exponent; zero or
less when it starts with `0.`. -/
def pointPosition (d : Decimal) : Int :=
  (digitChars d.digits).length + d.exponent

/-- Positional with a fraction when at most sixteen digits stand before the point and at most four
zeros after it, scientific otherwise. -/
def mixed (d : Decimal) : List Char :=
  let point := d.pointPosition
  if -5 < point ∧ point ≤ 16 then
    if 0 ≤ d.exponent then d.positional ++ ['.', '0'] else d.positional
  else d.scientific

end Decimal

namespace Binary64

/-- The text of a number behind its sign. -/
def signed (negative : Bool) (text : List Char) : String :=
  .ofList (if negative then '-' :: text else text)

/-- The text of a double as a field of a report: the shortest decimal without an exponent, a tie
between two shortest decimals going away from zero. -/
def display : Binary64 → String
  | .nan => "NaN"
  | .infinite negative => signed negative "inf".toList
  | .finite negative m q narrow =>
    signed negative (if m = 0 then ['0'] else (Decimal.shortest .away m q narrow).positional)

/-- The text of a double as a JSON number: the shortest decimal with a fraction or an exponent, a
tie going to the even digit. A double that is no number is `null`. -/
def json : Binary64 → String
  | .nan => "null"
  | .infinite _ => "null"
  | .finite negative m q narrow =>
    signed negative
      (if m = 0 then ['0', '.', '0'] else (Decimal.shortest .toEven m q narrow).mixed)

end Binary64

namespace Decimal

/-- The double nearest to a decimal. Exponents far outside the range of doubles are answered
without computing the power. -/
def toFloat (d : Decimal) : Float :=
  let top := d.pointPosition
  if d.digits = 0 then 0.0
  else if 310 < top then Float.ofBits 0x7FF0000000000000
  else if top < -330 then 0.0
  else if 0 ≤ d.exponent then Float.ofScientific d.digits false d.exponent.toNat
  else Float.ofScientific d.digits true (-d.exponent).toNat

/-- The natural number that decimal digits spell. -/
def ofDigits (ds : List Char) : Nat :=
  ds.foldl (fun n c => n * 10 + (c.toNat - '0'.toNat)) 0

end Decimal

end SqlJob
