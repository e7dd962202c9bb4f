import SqlJob.Decimal.Numeral
import SqlJob.Toml.Value

/-!
# TOML dates and times

A moment is a date, a time of the day, or a date with a time of the day, to which a distance from
universal time may be added. All parts have their full number of digits, and every part must exist:
there is no 30th of February.
-/

namespace SqlJob.Toml

/-- A number of exactly so many digits. -/
def readDigits (count : Nat) (s : List Char) : Option (Nat × List Char) :=
  let ds := s.take count
  if ds.length = count ∧ ds.all Char.isDigit then some (Decimal.ofDigits ds, s.drop count)
  else none

/-- What follows a character at the start. -/
def afterChar (c : Char) : List Char → Option (List Char)
  | d :: rest => if c = d then some rest else none
  | [] => none

/-- A number with leading zeros up to a width. -/
def padded (width n : Nat) : List Char :=
  let ds := (toString n).toList
  List.replicate (width - ds.length) '0' ++ ds

/-- The number of days of a month. -/
def daysOf (year month : Nat) : Nat :=
  if month = 2 then
    if year % 4 = 0 ∧ (year % 100 ≠ 0 ∨ year % 400 = 0) then 29 else 28
  else if month ∈ [4, 6, 9, 11] then 30
  else 31

/-- A date: its text and what follows. -/
def readDate (s : List Char) : Option (List Char × List Char) := do
  let (year, s) ← readDigits 4 s
  let s ← afterChar '-' s
  let (month, s) ← readDigits 2 s
  let s ← afterChar '-' s
  let (day, s) ← readDigits 2 s
  if month < 1 ∨ 12 < month ∨ day < 1 ∨ daysOf year month < day then none
  else some (padded 4 year ++ '-' :: padded 2 month ++ '-' :: padded 2 day, s)

/-- The fraction of a second behind its point, of which nine digits count. -/
def fractionText (ds : List Char) : List Char :=
  let ds := ((ds.take 9).reverse.dropWhile (· = '0')).reverse
  if ds.isEmpty then [] else '.' :: ds

/-- A time of the day: its text and what follows. -/
def readTime (s : List Char) : Option (List Char × List Char) := do
  let (hour, s) ← readDigits 2 s
  let s ← afterChar ':' s
  let (minute, s) ← readDigits 2 s
  let s ← afterChar ':' s
  let (second, s) ← readDigits 2 s
  if 23 < hour ∨ 59 < minute ∨ 60 < second then none
  else
    let text := padded 2 hour ++ ':' :: padded 2 minute ++ ':' :: padded 2 second
    match s with
    | '.' :: rest =>
      let ds := rest.takeWhile Char.isDigit
      if ds.isEmpty then some (text, s)
      else some (text ++ fractionText ds, rest.drop ds.length)
    | s => some (text, s)

/-- A distance from universal time: its text and what follows; both may be missing. -/
def readDistance (s : List Char) : List Char × List Char :=
  match s with
  | [] => ([], [])
  | c :: rest =>
    if c = 'Z' ∨ c = 'z' then (['Z'], rest)
    else if c = '+' ∨ c = '-' then
      let distance := do
        let (hour, s) ← readDigits 2 rest
        let s ← afterChar ':' s
        let (minute, s) ← readDigits 2 s
        if 23 < hour ∨ 59 < minute then none
        else
          let sign := if hour = 0 ∧ minute = 0 then '+' else c
          some (sign :: padded 2 hour ++ ':' :: padded 2 minute, s)
      distance.getD ([], c :: rest)
    else ([], c :: rest)

/-- What may stand between a date and a time. -/
def separatesTime (c : Char) : Bool := c = 'T' || c = 't' || c = ' '

/-- A moment and what follows it. -/
def readMoment (s : List Char) : Option (Toml × List Char) :=
  match readDate s with
  | none => (readTime s).map fun (text, rest) => (moment (.ofList text), rest)
  | some (date, rest) =>
    let time :=
      match rest with
      | c :: rest => if separatesTime c then readTime rest else none
      | [] => none
    match time with
    | none => some (moment (.ofList date), rest)
    | some (time, rest) =>
      let (distance, rest) := readDistance rest
      some (moment (.ofList (date ++ 'T' :: time ++ distance)), rest)

end SqlJob.Toml
