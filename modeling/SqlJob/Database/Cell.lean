import SqlJob.Decimal.Numeral

/-!
# Stored values

What a field of a table holds: null, a 64-bit integer, a real number, a text or bytes. Values of
all kinds are ordered: null first, then numbers by their value, then texts, then bytes. Numbers and
texts turn into each other by rules of their own: a number may be read from the start of a text, or
only from a whole one, and a real number is written with fifteen significant digits.
-/

namespace SqlJob.Database

/-- A value in a table. -/
inductive Cell where
  | null
  | int (n : Int)
  | real (x : Float)
  | text (s : String)
  /-- A text whose bytes are no UTF-8. -/
  | brokenText (bytes : List UInt8)
  | blob (bytes : List UInt8)
  deriving Inhabited

/-- The order that texts are compared in. -/
inductive Collation where
  | binary
  /-- Without regard to the case of ASCII letters. -/
  | noCase
  /-- Without regard to spaces at the end. -/
  | trimmedEnd
  deriving DecidableEq, Repr

/-- The collation with the given name. -/
def Collation.ofName? (name : String) : Option Collation :=
  [("binary", binary), ("nocase", noCase), ("rtrim", trimmedEnd)].lookup (name.map Char.toLower)

/-- What is compared for a text. -/
def Collation.key : Collation → String → String
  | binary, s => s
  | noCase, s => s.map Char.toLower
  | trimmedEnd, s => .ofList (s.toList.reverse.dropWhile (· == ' ')).reverse

namespace Cell

/-- The least and the greatest integer. -/
def minInt : Int := -9223372036854775808

/-- The greatest integer. -/
def maxInt : Int := 9223372036854775807

/-- Whether an integer fits. -/
def fits (n : Int) : Bool := minInt ≤ n && n ≤ maxInt

/-- A real number; what is no number is null. -/
def ofFloat (x : Float) : Cell := if x.isNaN then null else real x

/-- A truth value. -/
def ofBool (b : Bool) : Cell := int (if b then 1 else 0)

/-- Bytes as text. -/
def ofTextBytes (bytes : List UInt8) : Cell :=
  match String.fromUTF8? ⟨bytes.toArray⟩ with
  | some s => text s
  | none => brokenText bytes

/-- The bytes of a text. -/
def utf8 (s : String) : List UInt8 := s.toUTF8.toList

/-- The name of the kind of value. -/
def kindName : Cell → String
  | null => "null"
  | int _ => "integer"
  | real _ => "real"
  | text _ => "text"
  | brokenText _ => "text"
  | blob _ => "blob"

/-- Whether the value is null. -/
def isNull : Cell → Bool
  | null => true
  | _ => false

/-- A finite double as a fraction of integers with a positive denominator. -/
def fraction (negative : Bool) (m : Nat) (q : Int) : Int × Nat :=
  let m : Int := if negative then -m else m
  if 0 ≤ q then (m * Nat.pow 2 q.toNat, 1) else (m, Nat.pow 2 (-q).toNat)

/-- How an integer compares to a double. -/
def compareIntReal (n : Int) (x : Float) : Ordering :=
  match Binary64.ofFloat x with
  | .nan => .gt
  | .infinite negative => if negative then .gt else .lt
  | .finite negative m q _ =>
    let (num, den) := fraction negative m q
    compare (n * den) num

/-- How two doubles compare. -/
def compareReal (x y : Float) : Ordering :=
  if x < y then .lt else if y < x then .gt else .eq

/-- How two byte sequences compare. -/
def compareBytes : List UInt8 → List UInt8 → Ordering
  | [], [] => .eq
  | [], _ :: _ => .lt
  | _ :: _, [] => .gt
  | a :: as, b :: bs => (compare a b).then (compareBytes as bs)

/-- The rank of the kind of value in the order of all values. -/
def rank : Cell → Nat
  | null => 0
  | int _ => 1
  | real _ => 1
  | text _ => 2
  | brokenText _ => 2
  | blob _ => 3

/-- How two values compare. -/
def compare (collation : Collation) (a b : Cell) : Ordering :=
  match a, b with
  | int m, int n => Ord.compare m n
  | int n, real x => compareIntReal n x
  | real x, int n => (compareIntReal n x).swap
  | real x, real y => compareReal x y
  | text s, text t => Ord.compare (collation.key s) (collation.key t)
  | text s, brokenText t => compareBytes (utf8 s) t
  | brokenText s, text t => compareBytes s (utf8 t)
  | brokenText s, brokenText t => compareBytes s t
  | blob s, blob t => compareBytes s t
  | a, b => Ord.compare a.rank b.rank

/-- Whether two values are the same, null being the same as null. -/
def same (collation : Collation) (a b : Cell) : Bool := compare collation a b == .eq

/-! ### Numbers and texts -/

/-- Space in front of and behind a number. -/
def isSpace (c : Char) : Bool :=
  c == ' ' || ('\t' ≤ c && c ≤ '\r')

/-- A real number as text: fifteen significant digits at most, always a fraction, and an exponent
from fifteen digits before the point or four zeros behind it on. -/
def realText (x : Float) : String :=
  match Binary64.ofFloat x with
  | .nan => ""
  | .infinite negative => if negative then "-Inf" else "Inf"
  | .finite negative m q _ =>
    let sign := if negative then "-" else ""
    if m = 0 then sign ++ "0.0"
    else
      let (num, den) := fraction false m q
      let d := Decimal.rounded 15 ⟨num.toNat, den⟩
      let e := d.pointPosition - 1
      if e < -4 ∨ 14 < e then
        let ds := Decimal.digitChars d.digits
        let rest := if ds.drop 1 = [] then ['0'] else ds.drop 1
        let digits := Decimal.digitChars e.natAbs
        sign ++ .ofList (ds.take 1 ++ '.' :: rest ++ 'e' :: (if e < 0 then '-' else '+') ::
          (if digits.length < 2 then '0' :: digits else digits))
      else
        sign ++ .ofList (if 0 ≤ d.exponent then d.positional ++ ['.', '0'] else d.positional)

/-- The integer that the digits at the start of a text spell, clamped to the range of integers. -/
def prefixInt (s : List Char) : Int :=
  let s := s.dropWhile isSpace
  let (negative, s) :=
    match s with
    | '-' :: rest => (true, rest)
    | '+' :: rest => (false, rest)
    | rest => (false, rest)
  let n : Int := Decimal.ofDigits (s.takeWhile Char.isDigit)
  if negative then max (-n) minInt else min n maxInt

/-- How a text reads as a number. -/
inductive Reading where
  /-- An integer in range. -/
  | whole (n : Int)
  /-- Any other number. -/
  | fractional (x : Float)

/-- The number at the start of a text, and whether nothing but space follows it; none if the text
does not start with a number. -/
def readPrefix (s : List Char) : Option (Reading × Bool) :=
  match Numeral.readFirst (s.dropWhile isSpace) with
  | none => none
  | some (n, rest) =>
    let value : Int := if n.negative then -n.decimal.digits else n.decimal.digits
    let complete := rest.all isSpace
    if n.isWhole && fits value then some (.whole value, complete)
    else some (.fractional n.toFloat, complete)

/-- The cell a reading stands for. -/
def ofReading : Reading → Cell
  | .whole n => int n
  | .fractional x => real x

/-- The double a reading stands for. -/
def Reading.toFloat : Reading → Float
  | .whole n => Float.ofInt n
  | .fractional x => x

/-- The characters of bytes, as far as they are a text that numbers are read from. -/
def asciiPrefix (bytes : List UInt8) : List Char :=
  (bytes.takeWhile (· < 0x80)).map fun b => Char.ofNat b.toNat

/-- The text that a value reads as when a number is wanted. -/
def numberText : Cell → List Char
  | text s => s.toList
  | brokenText bs => asciiPrefix bs
  | blob bs => asciiPrefix bs
  | _ => []

/-- The integer a double is cut to, within the range of integers. -/
def truncated (x : Float) : Int :=
  match Binary64.ofFloat x with
  | .nan => 0
  | .infinite negative => if negative then minInt else maxInt
  | .finite negative m q _ =>
    let (num, den) := fraction negative m q
    max minInt (min maxInt (num.tdiv den))

/-- The integer a double is, if it is one well within the range of integers. -/
def exactInt? (x : Float) : Option Int :=
  match Binary64.ofFloat x with
  | .finite negative m q _ =>
    let (num, den) := fraction negative m q
    if num.tmod den = 0 ∧ minInt < num.tdiv den ∧ num.tdiv den < maxInt then some (num.tdiv den)
    else none
  | _ => none

/-- The value as a number for arithmetic; null stays null. -/
def toNumber : Cell → Cell
  | null => null
  | int n => int n
  | real x => real x
  | c =>
    match readPrefix c.numberText with
    | some (r, _) => ofReading r
    | none => int 0

/-- The value as an integer. -/
def toInt : Cell → Int
  | null => 0
  | int n => n
  | real x => truncated x
  | c => prefixInt c.numberText

/-- The value as a double. -/
def toFloat : Cell → Float
  | null => 0.0
  | int n => Float.ofInt n
  | real x => x
  | c =>
    match readPrefix c.numberText with
    | some (r, _) => r.toFloat
    | none => 0.0

/-- The value as text, where null has none. -/
def toText : Cell → Cell
  | null => null
  | int n => text (toString n)
  | real x => text (realText x)
  | text s => text s
  | brokenText bs => brokenText bs
  | blob bs => ofTextBytes bs

/-- The value as text; of null and of broken text nothing is left. -/
def asString (c : Cell) : String :=
  match c.toText with
  | text s => s
  | _ => ""

/-- The bytes of the value's text, or the bytes that it is. -/
def bytes : Cell → List UInt8
  | brokenText bs => bs
  | blob bs => bs
  | c => utf8 c.asString

/-- Whether the value counts as true, if it is not null. -/
def truth? : Cell → Option Bool
  | null => none
  | int n => some (n != 0)
  | real x => some (x != 0.0)
  | c => some (c.toFloat != 0.0)

end Cell

/-! ### Affinities -/

/-- What kind of value a column would rather hold. -/
inductive Affinity where
  /-- No preference. -/
  | blob
  | text
  | numeric
  | integer
  | real
  deriving DecidableEq, Repr, Inhabited

namespace Affinity

/-- Whether `part` occurs in a text. -/
def occursIn (part : List Char) : List Char → Bool
  | [] => part.isEmpty
  | c :: rest => part.isPrefixOf (c :: rest) || occursIn part rest

/-- The affinity that the name of a type stands for. -/
def ofTypeName (name : String) : Affinity :=
  let s := name.toList.map Char.toLower
  let has (part : String) : Bool := occursIn part.toList s
  if has "int" then integer
  else if has "char" || has "clob" || has "text" then text
  else if has "blob" then blob
  else if has "real" || has "floa" || has "doub" then real
  else numeric

/-- Whether numbers are preferred. -/
def isNumeric : Affinity → Bool
  | blob => false
  | text => false
  | _ => true

/-- The integer in place of a real number that is one. -/
def wholeIfExact (x : Float) : Cell :=
  match Cell.exactInt? x with
  | some n => .int n
  | none => .real x

/-- A text that is a number all through, as that number. -/
def numberIfWhole (s : String) : Cell :=
  match Cell.readPrefix s.toList with
  | some (.whole n, true) => .int n
  | some (.fractional x, true) => wholeIfExact x
  | _ => .text s

/-- The value turned towards the affinity, where that loses nothing. -/
def apply (a : Affinity) (c : Cell) : Cell :=
  match a with
  | blob => c
  | text =>
    match c with
    | .int _ => c.toText
    | .real _ => c.toText
    | _ => c
  | _ =>
    match c with
    | .text s => numberIfWhole s
    | .real x => wholeIfExact x
    | _ => c

/-- The value as a column with the affinity holds it: a column of real numbers holds no integers. -/
def store (a : Affinity) (c : Cell) : Cell :=
  match a, a.apply c with
  | real, .int n => .real (Float.ofInt n)
  | _, c => c

/-- The value turned into the kind that a type stands for, whatever that loses. -/
def cast (a : Affinity) (c : Cell) : Cell :=
  match c, a with
  | .null, _ => .null
  | c, text => c.toText
  | c, blob => .blob c.bytes
  | c, integer => .int c.toInt
  | c, real => .ofFloat c.toFloat
  | .int n, numeric => .int n
  | .real x, numeric => .real x
  | c, numeric =>
    match Cell.readPrefix c.numberText with
    | some (.whole n, _) => .int n
    | some (.fractional x, _) => wholeIfExact x
    | none => .int 0

end Affinity

end SqlJob.Database
