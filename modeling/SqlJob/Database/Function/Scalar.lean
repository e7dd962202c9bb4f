import SqlJob.Database.Fault
import SqlJob.Database.Function.Format
import SqlJob.Database.Function.Pattern

/-!
# Functions of values

The functions that make one value of some values, by name. A function that is not among those
listed in `arities` does not exist, and one that is called with another number of arguments is not
called at all.
-/

namespace SqlJob.Database.Function

/-- The functions with the least and the greatest number of their arguments. -/
def arities : List (String × Nat × Option Nat) := [
  ("abs", 1, some 1), ("changes", 0, some 0), ("char", 0, none), ("coalesce", 2, none),
  ("concat", 1, none), ("concat_ws", 2, none), ("format", 0, none), ("printf", 0, none),
  ("glob", 2, some 2), ("hex", 1, some 1), ("ifnull", 2, some 2), ("iif", 3, some 3),
  ("instr", 2, some 2), ("last_insert_rowid", 0, some 0), ("length", 1, some 1),
  ("like", 2, some 3), ("likelihood", 2, some 2), ("likely", 1, some 1), ("lower", 1, some 1),
  ("ltrim", 1, some 2), ("max", 2, none), ("min", 2, none), ("nullif", 2, some 2),
  ("octet_length", 1, some 1), ("quote", 1, some 1), ("random", 0, some 0),
  ("randomblob", 1, some 1), ("replace", 3, some 3), ("round", 1, some 2), ("rtrim", 1, some 2),
  ("sign", 1, some 1), ("sqlite_version", 0, some 0), ("substr", 2, some 3),
  ("substring", 2, some 3), ("total_changes", 0, some 0), ("trim", 1, some 2),
  ("typeof", 1, some 1), ("unhex", 1, some 2), ("unicode", 1, some 1), ("unlikely", 1, some 1),
  ("upper", 1, some 1), ("zeroblob", 1, some 1)]

/-- Whether so many arguments are between the bounds. -/
def admits (bounds : Nat × Option Nat) (n : Nat) : Bool :=
  bounds.1 ≤ n && bounds.2.all (n ≤ ·)

/-- A number rounded to places behind the point. -/
def rounded (x : Float) (places : Int) : Float :=
  let (whole, rest) := Format.fixed x places.toNat
  match Numeral.readFirst (whole ++ '.' :: rest) with
  | some (n, _) => if Format.isNegative x then -n.toFloat else n.toFloat
  | none => x

/-- A part of a list from a place counted from one, or from the end if that is negative. -/
def slice {α : Type} (s : List α) (start : Int) (length? : Option Int) : List α :=
  let n : Int := s.length
  let length := length?.getD n
  let first := if start > 0 then start - 1 else if start < 0 then n + start else 0
  -- A start at zero is in front of the first place, which uses up one of the length.
  let length := if start = 0 ∧ length?.isSome then (if length > 0 then length - 1 else length)
    else length
  let (low, high) := if length < 0 then (first + length, first) else (first, first + length)
  (s.drop (max low 0).toNat).take ((min high n) - (max low 0)).toNat

/-- The place of a part in a list, counted from one; zero if it is nowhere. -/
def position {α : Type} [BEq α] (part : List α) : Nat → List α → Nat
  | n, [] => if part.isEmpty then n else 0
  | n, c :: rest => if part.isPrefixOf (c :: rest) then n else position part (n + 1) rest

/-- A text with every occurrence of a part replaced. -/
def replaced (part by' : List Char) : Nat → List Char → List Char
  | 0, s => s
  | _ + 1, [] => []
  | fuel + 1, c :: rest =>
    if part.isPrefixOf (c :: rest) then
      by' ++ replaced part by' fuel ((c :: rest).drop part.length)
    else c :: replaced part by' fuel rest

/-- Upper-case hexadecimal digits of bytes. -/
def hexText (bytes : List UInt8) : String :=
  .ofList (bytes.flatMap fun b =>
    let digit (n : Nat) : Char := if n < 10 then Char.ofNat (48 + n) else Char.ofNat (55 + n)
    [digit (b.toNat / 16), digit (b.toNat % 16)])

/-- The bytes that pairs of hexadecimal digits spell, in either case. -/
def unhex? (s : List Char) : Option (List UInt8) :=
  go s
where
  digit? (c : Char) : Option Nat :=
    if c.isDigit then some (c.toNat - 48)
    else if 'a' ≤ c.toLower && c.toLower ≤ 'f' then some (c.toLower.toNat - 87) else none
  go : List Char → Option (List UInt8)
    | [] => some []
    | a :: b :: rest => do
      let high ← digit? a
      let low ← digit? b
      return UInt8.ofNat (16 * high + low) :: (← go rest)
    | [_] => none

/-- A value as it is written in a statement. -/
def quoted : Cell → String
  | .null => "NULL"
  | .int n => toString n
  | .real x => Cell.realText x
  | .blob bs => "X'" ++ hexText bs ++ "'"
  | c => "'" ++ .ofList (Format.doubled '\'' c.asString.toList) ++ "'"

/-- The greatest or the least of values. -/
def extreme (wanted : Ordering) : List Cell → Cell
  | [] => .null
  | c :: rest => rest.foldl (fun best x => if Cell.compare .binary x best == wanted then x else best) c

/-- Text without characters at its ends. -/
def stripped (left right : Bool) (args : List Cell) : Cell :=
  match args with
  | .null :: _ => .null
  | c :: rest =>
    match rest with
    | .null :: _ => .null
    | rest =>
      let out : List Char :=
        match rest with
        | s :: _ => s.asString.toList
        | [] => [' ']
      let s := c.asString.toList
      let s := if left then s.dropWhile out.contains else s
      .text (.ofList (if right then (s.reverse.dropWhile out.contains).reverse else s))
  | [] => .null

/-- The value of a function for its arguments, which are not too many nor too few. -/
def apply (function : String) (args : List Cell) : Except Fault Cell := do
  let a := args.headD .null
  let b := (args.drop 1).headD .null
  let c := (args.drop 2).headD .null
  match function with
  | "abs" =>
    match a with
    | .null => return .null
    | .int n => if n = Cell.minInt then throw .integerOverflow else return .int n.natAbs
    | a => return .real a.toFloat.abs
  | "char" =>
    return .text (.ofList (args.map fun x =>
      let n := x.toInt
      if 0 ≤ n ∧ n ≤ 0x10FFFF then Char.ofNat n.toNat else Char.ofNat 0xFFFD))
  | "coalesce" => return (args.find? (!·.isNull)).getD .null
  | "ifnull" => return if a.isNull then b else a
  | "concat" => return .text (String.join (args.map (·.asString)))
  | "concat_ws" =>
    if a.isNull then return .null
    return .text (String.intercalate a.asString
      (((args.drop 1).filter (!·.isNull)).map (·.asString)))
  | "format" | "printf" =>
    if a.isNull then return .null
    let f := a.asString.toList
    return .text (.ofList (Format.run (f.length + 1) f (args.drop 1)))
  | "glob" =>
    if a.isNull || b.isNull then return .null
    let p := a.asString.toList
    return .ofBool (Pattern.glob (p.length + 1) p b.asString.toList)
  | "like" =>
    if a.isNull || b.isNull then return .null
    if args.length = 3 then
      if c.isNull then return .null
      match c.asString.toList with
      | [e] => return .ofBool (Pattern.like (some e) a.asString.toList b.asString.toList)
      | _ => throw (.general "ESCAPE expression must be a single character")
    else return .ofBool (Pattern.like none a.asString.toList b.asString.toList)
  | "hex" => return .text (hexText a.bytes)
  | "iif" => return if a.truth?.getD false then b else c
  | "instr" =>
    if a.isNull || b.isNull then return .null
    match a, b with
    | .blob s, .blob part => return .int (position part 1 s)
    | a, b => return .int (position b.asString.toList 1 a.asString.toList)
  | "length" =>
    match a with
    | .null => return .null
    | .blob bs => return .int bs.length
    | .brokenText bs => return .int bs.length
    | a => return .int a.asString.length
  | "octet_length" => return if a.isNull then .null else .int a.bytes.length
  | "likelihood" | "likely" | "unlikely" => return a
  | "lower" => return if a.isNull then .null else .text (a.asString.map Char.toLower)
  | "upper" => return if a.isNull then .null else .text (a.asString.map Char.toUpper)
  | "ltrim" => return stripped true false args
  | "rtrim" => return stripped false true args
  | "trim" => return stripped true true args
  | "max" => return if args.any (·.isNull) then .null else extreme .gt args
  | "min" => return if args.any (·.isNull) then .null else extreme .lt args
  | "nullif" => return if !b.isNull && Cell.same .binary a b then .null else a
  | "quote" => return .text (quoted a)
  | "random" => return .int 0
  | "randomblob" => return .blob (List.replicate (max a.toInt 1).toNat 0)
  | "zeroblob" => return .blob (List.replicate a.toInt.toNat 0)
  | "replace" =>
    if a.isNull || b.isNull || c.isNull then return .null
    let s := a.asString.toList
    let part := b.asString.toList
    if part.isEmpty then return a.toText
    return .text (.ofList (replaced part c.asString.toList (s.length + 1) s))
  | "round" =>
    if a.isNull || (args.length = 2 && b.isNull) then return .null
    let places := max 0 (min 30 b.toInt)
    return .real (rounded a.toFloat places)
  | "sign" =>
    match a with
    | .null => return .null
    | .int n => return .int n.sign
    | .real x => return .int (if x < 0.0 then -1 else if x > 0.0 then 1 else 0)
    | .text s =>
      match Affinity.numberIfWhole s with
      | .int n => return .int n.sign
      | .real x => return .int (if x < 0.0 then -1 else if x > 0.0 then 1 else 0)
      | _ => return .null
    | _ => return .null
  | "substr" | "substring" =>
    if a.isNull || b.isNull || (args.length = 3 && c.isNull) then return .null
    let length? := if args.length = 3 then some c.toInt else none
    match a with
    | .blob bs => return .blob (slice bs b.toInt length?)
    | a => return .text (.ofList (slice a.asString.toList b.toInt length?))
  | "typeof" => return .text a.kindName
  | "unhex" =>
    if a.isNull then return .null
    match unhex? (a.asString.toList.filter fun x => !(b.asString.toList.contains x)) with
    | some bs => return .blob bs
    | none => return .null
  | "unicode" =>
    match a.asString.toList with
    | x :: _ => return .int x.toNat
    | [] => return .null
  | "sqlite_version" => return .text "3.46.0"
  | _ => throw (.noSuchFunction function)

end SqlJob.Database.Function
