import SqlJob.Database.Syntax

/-!
# Operators on values

What the operators of expressions make of values. Null mostly stays null; a comparison turns its
operands towards each other's affinity first; integers that leave their range become real numbers.
-/

namespace SqlJob.Database.Operator

/-- The truth of both, where one that is false decides. -/
def both (a b : Option Bool) : Option Bool :=
  match a, b with
  | some false, _ => some false
  | _, some false => some false
  | some true, some true => some true
  | _, _ => none

/-- The truth of one of two, where one that is true decides. -/
def oneOf (a b : Option Bool) : Option Bool :=
  match a, b with
  | some true, _ => some true
  | _, some true => some true
  | some false, some false => some false
  | _, _ => none

/-- A truth value that may be unknown. -/
def ofTruth : Option Bool → Cell
  | some b => .ofBool b
  | none => .null

/-- An integer, or the real number in its place. -/
def ofInt (n : Int) : Cell :=
  if Cell.fits n then .int n else .real (Float.ofInt n)

/-- An operation on numbers. -/
def arithmetic (whole : Int → Int → Int) (real : Float → Float → Float) (a b : Cell) : Cell :=
  match a.toNumber, b.toNumber with
  | .null, _ => .null
  | _, .null => .null
  | .int m, .int n =>
    let r := whole m n
    if Cell.fits r then .int r else .ofFloat (real (Float.ofInt m) (Float.ofInt n))
  | x, y => .ofFloat (real x.toFloat y.toFloat)

/-- The quotient; that of integers is cut to an integer. -/
def divide (a b : Cell) : Cell :=
  match a.toNumber, b.toNumber with
  | .null, _ => .null
  | _, .null => .null
  | .int m, .int n => if n = 0 then .null else ofInt (m.tdiv n)
  | x, y => if y.toFloat == 0.0 then .null else .ofFloat (x.toFloat / y.toFloat)

/-- The remainder of integers; it is a real number if an operand is. -/
def remainder (a b : Cell) : Cell :=
  match a.toNumber, b.toNumber with
  | .null, _ => .null
  | _, .null => .null
  | .int m, .int n => if n = 0 then .null else .int (m.tmod n)
  | x, y =>
    let n := y.toInt
    if n = 0 then .null else .real (Float.ofInt (x.toInt.tmod n))

/-- An integer as 64 bits. -/
def bits (n : Int) : BitVec 64 := BitVec.ofInt 64 n

/-- An operation on integers as bits. -/
def bitwise (f : BitVec 64 → BitVec 64 → BitVec 64) (a b : Cell) : Cell :=
  if a.isNull || b.isNull then .null else .int (f (bits a.toInt) (bits b.toInt)).toInt

/-- The bits shifted to the left, or to the right if the distance is negative. -/
def shifted (n distance : Int) : Int :=
  if 0 ≤ distance then
    if 64 ≤ distance then 0 else (bits n <<< distance.toNat).toInt
  else if distance ≤ -64 then (if n < 0 then -1 else 0)
  else n / Nat.pow 2 (-distance).toNat

/-- One text behind the other. -/
def concat (a b : Cell) : Cell :=
  if a.isNull || b.isNull then .null else .ofTextBytes (a.bytes ++ b.bytes)

/-- The value with the sign turned. -/
def negative (a : Cell) : Cell :=
  match a with
  | .real x => .real (-x)
  | a =>
    match a.toNumber with
    | .null => .null
    | .int n => ofInt (-n)
    | x => .ofFloat (0.0 - x.toFloat)

/-- The values as they are compared under an affinity. -/
def aligned (affinity : Option Affinity) (a b : Cell) : Cell × Cell :=
  let isText : Cell → Bool
    | .text _ => true
    | .brokenText _ => true
    | _ => false
  let toNumber : Cell → Cell
    | .text s =>
      match Cell.readPrefix s.toList with
      | some (r, true) => Cell.ofReading r
      | _ => .text s
    | c => c
  match affinity with
  | none => (a, b)
  | some .blob => (a, b)
  | some .text =>
    if isText a || isText b then (Affinity.text.apply a, Affinity.text.apply b) else (a, b)
  | _ => (toNumber a, toNumber b)

/-- How two values compare, if neither is null. -/
def compared (affinity : Option Affinity) (collation : Collation) (a b : Cell) : Option Ordering :=
  if a.isNull || b.isNull then none
  else
    let (a, b) := aligned affinity a b
    some (Cell.compare collation a b)

/-- Whether an order fits a comparison. -/
def fits (op : BinaryOperator) (o : Ordering) : Bool :=
  match op with
  | .equal => o == .eq
  | .is => o == .eq
  | .notEqual => o != .eq
  | .isNot => o != .eq
  | .less => o == .lt
  | .lessEqual => o != .gt
  | .greater => o == .gt
  | .greaterEqual => o != .lt
  | _ => false

/-- The truth of a comparison; only `IS` and `IS NOT` tell null from what is unknown. -/
def comparison (op : BinaryOperator) (affinity : Option Affinity) (collation : Collation)
    (a b : Cell) : Option Bool :=
  match op with
  | .is =>
    if a.isNull || b.isNull then some (a.isNull && b.isNull)
    else (compared affinity collation a b).map (fits op)
  | .isNot =>
    if a.isNull || b.isNull then some (a.isNull != b.isNull)
    else (compared affinity collation a b).map (fits op)
  | _ => (compared affinity collation a b).map (fits op)

/-- The value of an operator that neither compares nor joins truth values. -/
def apply (op : BinaryOperator) (a b : Cell) : Cell :=
  match op with
  | .add => arithmetic (· + ·) (· + ·) a b
  | .subtract => arithmetic (· - ·) (· - ·) a b
  | .multiply => arithmetic (· * ·) (· * ·) a b
  | .divide => divide a b
  | .remainder => remainder a b
  | .concat => concat a b
  | .bitAnd => bitwise (· &&& ·) a b
  | .bitOr => bitwise (· ||| ·) a b
  | .shiftLeft => if a.isNull || b.isNull then .null else .int (shifted a.toInt b.toInt)
  | .shiftRight => if a.isNull || b.isNull then .null else .int (shifted a.toInt (-b.toInt))
  | _ => .null

end SqlJob.Database.Operator
