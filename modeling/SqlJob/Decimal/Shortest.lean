/-!
# The shortest decimal that reads back

A binary floating-point number stands for all reals that round to it. Of the decimals in that
interval this module picks one with the fewest digits, and among those one nearest to the number.
The search is over decimal grids: for 1, 2, … 17 digits it looks at the two grid points around the
number, in exact arithmetic on natural numbers, and takes the first grid with a point inside.
-/

namespace SqlJob

/-- The decimal `digits · 10 ^ exponent`. -/
structure Decimal where
  digits : Nat
  exponent : Int
  deriving DecidableEq, Repr

namespace Decimal

/-- Which of two equally near grid points is taken. -/
inductive Tie where
  /-- The point whose last digit is even. -/
  | toEven
  /-- The point further from zero. -/
  | away
  deriving DecidableEq, Repr

/-- A positive rational number. -/
structure Ratio where
  num : Nat
  den : Nat
  deriving DecidableEq, Repr

namespace Ratio

/-- The number divided by a power of ten. -/
def shift (r : Ratio) (e : Int) : Ratio :=
  if 0 ≤ e then ⟨r.num, r.den * Nat.pow 10 e.toNat⟩ else ⟨r.num * Nat.pow 10 (-e).toNat, r.den⟩

/-- The whole part. -/
def floor (r : Ratio) : Nat :=
  r.num / r.den

/-- Whether the number is at least one. -/
def atLeastOne (r : Ratio) : Bool :=
  r.den ≤ r.num

end Ratio

/-- Raises `e`, at most `fuel` times, as long as `10 ^ (e + 1)` does not exceed the number. -/
def raiseExponent (r : Ratio) : Nat → Int → Int
  | 0, e => e
  | fuel + 1, e => if (r.shift (e + 1)).atLeastOne then raiseExponent r fuel (e + 1) else e

/-- The exponent of the number's first decimal digit. The logarithm to base two gives it up to two
steps from below. -/
def magnitude (r : Ratio) : Int :=
  let bits : Int := (r.num.log2 : Int) - (r.den.log2 : Int) - 1
  raiseExponent r 3 (Int.fdiv (bits * 30103) 100000 - 1)

/-- An interval around a number: the three are numerators over one denominator. -/
structure Interval where
  low : Nat
  value : Nat
  high : Nat
  den : Nat
  /-- Whether the two ends belong to the interval. -/
  closed : Bool

namespace Interval

/-- The reals that round to `m · 2 ^ q`; `narrow` says that the next number below is only half as
far away as the next one above. -/
def ofBinary (m : Nat) (q : Int) (narrow : Bool) : Interval :=
  let scale := if 2 ≤ q then Nat.pow 2 (q - 2).toNat else 1
  let den := if 2 ≤ q then 1 else Nat.pow 2 (2 - q).toNat
  ⟨(4 * m - if narrow then 1 else 2) * scale, 4 * m * scale, (4 * m + 2) * scale, den,
    m % 2 == 0⟩

/-- Whether the grid point `d · 10 ^ e` lies in the interval. -/
def contains (i : Interval) (d : Nat) (e : Int) : Bool :=
  let point := if 0 ≤ e then d * Nat.pow 10 e.toNat * i.den else d * i.den
  let factor := if 0 ≤ e then 1 else Nat.pow 10 (-e).toNat
  let low := i.low * factor
  let high := i.high * factor
  if i.closed then low ≤ point && point ≤ high else low < point && point < high

/-- The nearer of the grid points `d` and `d + 1` around the number, at exponent `e`. -/
def nearer (i : Interval) (tie : Tie) (d : Nat) (e : Int) : Nat :=
  let r := (Ratio.mk i.value i.den).shift e
  let rest := 2 * (r.num - d * r.den)
  if rest < r.den then d
  else if r.den < rest then d + 1
  else match tie with
    | .away => d + 1
    | .toEven => if d % 2 = 0 then d else d + 1

/-- The grid point with exponent `e` that is taken for the number, if one lies in the interval. -/
def onGrid? (i : Interval) (tie : Tie) (e : Int) : Option Nat :=
  let d := ((Ratio.mk i.value i.den).shift e).floor
  match i.contains d e && d != 0, i.contains (d + 1) e with
  | true, true => some (i.nearer tie d e)
  | true, false => some d
  | false, true => some (d + 1)
  | false, false => none

/-- The first grid with a point inside, from the coarsest on. -/
def search (i : Interval) (tie : Tie) : Nat → Int → Decimal
  | 0, e => ⟨((Ratio.mk i.value i.den).shift e).floor, e⟩
  | grids + 1, e =>
    match i.onGrid? tie e with
    | some d => ⟨d, e⟩
    | none => search i tie grids (e - 1)

end Interval

/-- Drops at most `fuel` zeros at the end of the digits. -/
def dropZeros : Nat → Decimal → Decimal
  | 0, d => d
  | fuel + 1, d =>
    if d.digits % 10 = 0 ∧ d.digits ≠ 0 then dropZeros fuel ⟨d.digits / 10, d.exponent + 1⟩ else d

/-- The shortest decimal that rounds to `m · 2 ^ q`, for a positive `m`. -/
def shortest (tie : Tie) (m : Nat) (q : Int) (narrow : Bool) : Decimal :=
  let i := Interval.ofBinary m q narrow
  dropZeros 20 (i.search tie 18 (magnitude ⟨i.value, i.den⟩))

/-- The number `num / den` rounded to `n` significant digits, half away from zero. -/
def rounded (n : Nat) (r : Ratio) : Decimal :=
  let e := magnitude r - (n - 1 : Nat)
  let s := r.shift e
  dropZeros 400 ⟨(2 * s.num + s.den) / (2 * s.den), e⟩

end Decimal

end SqlJob
