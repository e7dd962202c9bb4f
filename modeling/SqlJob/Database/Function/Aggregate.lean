import SqlJob.Database.Fault
import SqlJob.Database.Cell

/-!
# Functions of rows

The functions that make one value of the values of many rows. Sums of integers are exact and fail
when they leave the range; sums with real numbers carry the rounding error of each step along.
-/

namespace SqlJob.Database.Aggregate

/-- The functions with the least and the greatest number of their arguments. -/
def arities : List (String × Nat × Option Nat) := [
  ("count", 0, some 1), ("sum", 1, some 1), ("total", 1, some 1), ("avg", 1, some 1),
  ("min", 1, some 1), ("max", 1, some 1), ("group_concat", 1, some 2), ("string_agg", 2, some 2)]

/-- A sum of reals and the error made so far. -/
structure Sum where
  sum : Float := 0.0
  error : Float := 0.0

/-- Adds a number, and to the error what is lost by that. -/
def Sum.add (s : Sum) (x : Float) : Sum :=
  let t := s.sum + x
  { sum := t
    error := s.error + (if s.sum.abs > x.abs then (s.sum - t) + x else (x - t) + s.sum) }

/-- The sum with its error. -/
def Sum.value (s : Sum) : Float :=
  if (s.sum + s.error).isFinite then s.sum + s.error else s.sum

/-- Whether a number is whole. -/
def isWhole : Cell → Bool
  | .int _ => true
  | _ => false

/-- The value as a number, if it is one or a text that is one all through. -/
def numeric (c : Cell) : Cell :=
  match c with
  | .text s =>
    match Affinity.numberIfWhole s with
    | .text _ => .real c.toFloat
    | n => n
  | .brokenText _ => .real c.toFloat
  | .blob _ => .real c.toFloat
  | c => c

/-- The sum as real numbers. -/
def realSum (cs : List Cell) : Float :=
  (cs.foldl (fun (s : Sum) c => s.add c.toFloat) {}).value

/-- The sum, exact if all numbers are whole. -/
def sum (cs : List Cell) : Except Fault Cell :=
  let cs := cs.map numeric
  if cs.isEmpty then .ok .null
  else if cs.all isWhole then
    let n := (cs.map (·.toInt)).foldl (· + ·) 0
    if Cell.fits n then .ok (.int n) else .error .integerOverflow
  else .ok (.ofFloat (realSum cs))

/-- The best of the values that are not null. -/
def extreme (collation : Collation) (wanted : Ordering) (cs : List Cell) : Cell :=
  match cs with
  | [] => .null
  | c :: rest =>
    rest.foldl (fun best x => if Cell.compare collation x best == wanted then x else best) c

/-- The value of a function for the arguments that it has in each row; those of a star are not
looked at. -/
def apply (function : String) (star : Bool) (collation : Collation) (rows : List (List Cell)) :
    Except Fault Cell :=
  let cs := (rows.map (·.headD .null)).filter (!·.isNull)
  match function with
  | "count" => .ok (.int (if star then rows.length else cs.length))
  | "sum" => sum cs
  | "total" => .ok (.ofFloat (realSum (cs.map numeric)))
  | "avg" =>
    if cs.isEmpty then .ok .null
    else .ok (.ofFloat (realSum (cs.map numeric) / Float.ofNat cs.length))
  | "min" => .ok (extreme collation .lt cs)
  | "max" => .ok (extreme collation .gt cs)
  | "group_concat" | "string_agg" =>
    let rows := rows.filter fun r => !(r.headD .null).isNull
    match rows with
    | [] => .ok .null
    | first :: rest =>
      let separator (r : List Cell) : String :=
        match r with
        | [_, s] => s.asString
        | _ => ","
      .ok (.text (rest.foldl (fun text r => text ++ separator r ++ (r.headD .null).asString)
        (first.headD .null).asString))
  | _ => .error (.noSuchFunction function)

end SqlJob.Database.Aggregate
