import SqlJob.Sql.Name

/-!
# Literals

Numbers, strings, placeholders and the words that are values. They are printed as they were
written, but `NULL` in upper case, `true` and `false` in lower case, and strings with the quotes of
their kind.
-/

namespace SqlJob.Sql

/-- What kind of value a literal is, as far as it matters to what is around it. -/
inductive LiteralKind where
  | number | plainString | placeholder | other
  deriving DecidableEq, Repr

/-- A string literal as it is printed. -/
def stringText (kind : StringKind) (value : String) : String :=
  let (front, back) := Token.delimiters kind
  match kind with
  | .single => quoted '\'' value
  | .double => quoted '"' value
  | .escaped => front ++ .ofList (printEscaped value.toList) ++ back
  | .unicode => front ++ .ofList (printUnicodeEscaped value.toList) ++ back
  | _ => front ++ value ++ back

namespace Parse

/-- A literal. -/
def literal : Parse (String × LiteralKind) := do
  let t ← next
  match t.token with
  | .word _ none k =>
    if k = "TRUE" then return ("true", .other)
    else if k = "FALSE" then return ("false", .other)
    else if k = "NULL" then return ("NULL", .other)
    else expectedAt "a concrete value" t
  | .word value (some '"') _ => return (quoted '"' value, .plainString)
  | .word _ _ _ => expectedAt "A value?" t
  | .number n long => return (if long then n ++ "L" else n, .number)
  | .string kind value =>
    return (stringText kind value, if kind = .single ∨ kind = .double then .plainString else .other)
  | .placeholder p => return (p, .placeholder)
  | .symbol s =>
    if s = ":" ∨ s = "@" then
      let after ← next
      match after.token with
      | .word value _ _ => return (s ++ value, .placeholder)
      | .number n false => return (s ++ n, .placeholder)
      | _ => expectedAt "placeholder" after
    else expectedAt "a value" t
  | _ => expectedAt "a value" t

/-- The text of a string literal; a word that is no keyword will do. -/
def stringValue : Parse String := do
  let t ← next
  match t.token with
  | .word value _ k =>
    if allKeywords.contains k then expectedAt "literal string" t else return value
  | .string .single value => return value
  | .string .double value => return value
  | .string .unicode value => return value
  | .string .escaped value =>
    if ← dialectIn [.postgres, .generic] then return value else expectedAt "literal string" t
  | _ => expectedAt "literal string" t

/-- The text of a string literal, printed between single quotes without change. -/
def plainStringText : Parse String := return "'" ++ (← stringValue) ++ "'"

/-- A number without sign, point or exponent. -/
def natural : Parse String := do
  let t ← next
  match t.token with
  | .number n _ =>
    match numeral? 10 n.toList with
    | some v =>
      if v ≤ 18446744073709551615 then return toString v
      else failAt (failure n ++ "number too large to fit in target type") t.place
    | none => failAt (failure n ++ "invalid digit found in string") t.place
  | _ => expectedAt "literal int" t
where
  failure (n : String) : String := "Could not parse '" ++ n ++ "' as u64: "

/-- A number in parentheses, if there is one, printed without a space in front. -/
def precision? : Parse String := do
  if ← atSymbol "(" then return "(" ++ (← parenthesized natural) ++ ")" else return ""

/-- One or two numbers in parentheses, if they are there. -/
def precisionAndScale? (separator : String) : Parse String := do
  if !(← symbol "(") then return ""
  let precision ← natural
  let scale ← behindComma
  expectSymbol ")"
  return "(" ++ precision ++ scale ++ ")"
where
  behindComma : Parse String := do
    if ← symbol "," then return separator ++ (← natural) else return ""

/-- The names of the units of time. -/
def timeUnits : List String := [
  "YEAR", "MONTH", "WEEK", "DAY", "DAYOFWEEK", "DAYOFYEAR", "DATE", "DATETIME", "HOUR", "MINUTE",
  "SECOND", "CENTURY", "DECADE", "DOY", "DOW", "EPOCH", "ISODOW", "ISOYEAR", "ISOWEEK", "JULIAN",
  "MICROSECOND", "MICROSECONDS", "MILLENIUM", "MILLENNIUM", "MILLISECOND", "MILLISECONDS",
  "NANOSECOND", "NANOSECONDS", "QUARTER", "TIME", "TIMEZONE", "TIMEZONE_ABBR", "TIMEZONE_HOUR",
  "TIMEZONE_MINUTE", "TIMEZONE_REGION"]

/-- The units that can follow the value of an interval. -/
def intervalUnits : List String := [
  "YEAR", "MONTH", "WEEK", "DAY", "HOUR", "MINUTE", "SECOND", "CENTURY", "DECADE", "DOW", "DOY",
  "EPOCH", "ISODOW", "ISOYEAR", "JULIAN", "MICROSECOND", "MICROSECONDS", "MILLENIUM", "MILLENNIUM",
  "MILLISECOND", "MILLISECONDS", "NANOSECOND", "NANOSECONDS", "QUARTER", "TIMEZONE",
  "TIMEZONE_HOUR", "TIMEZONE_MINUTE"]

/-- A unit of time; some dialects know further ones. -/
def timeUnit : Parse String := do
  let custom ← dialectIn [.snowflake, .generic]
  let t ← peekPlaced
  match t.token with
  | .word _ none k =>
    if timeUnits.contains k then
      skip
      if k = "WEEK" ∧ (← dialectIn [.bigquery, .generic]) ∧ (← atSymbol "(") then
        return "WEEK(" ++ (← parenthesized ident).text ++ ")"
      else return k
    else if custom then return (← ident).text
    else expected "date/time field"
  | .word _ (some _) _ => if custom then return (← ident).text else expected "date/time field"
  | .string .single _ => if custom then return (← ident).text else expected "date/time field"
  | _ => expected "date/time field"

end Parse

end SqlJob.Sql
