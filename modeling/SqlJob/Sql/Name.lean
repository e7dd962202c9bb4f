import SqlJob.Sql.Parse
import SqlJob.Sql.StringEscape
import SqlJob.Text.Lines

/-!
# Names

Identifiers with their quotes, names with parts, lists of columns, and aliases. A name is printed
as it is written, with nothing but points between its parts.
-/

namespace SqlJob.Sql

/-- An identifier and the quote around it. -/
structure Ident where
  value : String
  quote : Option Char := none
  deriving DecidableEq, Repr

/-- The identifier as it is printed. -/
def Ident.text (i : Ident) : String :=
  match i.quote with
  | none => i.value
  | some '[' => "[" ++ i.value ++ "]"
  | some q => quoted q i.value

/-- The parts of a name with points between them. -/
def nameText (parts : List Ident) : String :=
  String.intercalate "." (parts.map (·.text))

namespace Parse

/-- The hyphens behind an identifier and what they join to it, in a dialect where the name of a
table may hold hyphens. -/
def hyphenated : Nat → String → Parse String
  | 0, value => return value
  | fuel + 1, value => do
    let dash ← peekPlaced
    if dash.token == .symbol "-" && dash.joined then
      skip
      let part ← next
      match part.token with
      | .word w none _ =>
        if part.joined then hyphenated fuel (value ++ "-" ++ w)
        else expectedAt "continuation of hyphenated identifier" part
      | .number n false =>
        if part.joined && n.toList.all Char.isDigit then
          let after ← peekPlaced
          if after.joined && after.token != .symbol "-" && after.token != .eof then
            expectedAt "whitespace following hyphenated identifier" after
          else hyphenated fuel (value ++ "-" ++ n)
        else expectedAt "continuation of hyphenated identifier" part
      | _ => expectedAt "continuation of hyphenated identifier" part
    else return value

/-- An identifier; a string literal will do. In the name of a table it may be hyphenated. -/
def identIn (inTable : Bool) : Parse Ident := do
  let t ← next
  match t.token with
  | .word value none _ =>
    if inTable && (← dialect) == .bigquery then return ⟨← hyphenated (← remaining) value, none⟩
    else return ⟨value, none⟩
  | .word value quote _ => return ⟨value, quote⟩
  | .string .single value => return ⟨value, some '\''⟩
  | .string .double value => return ⟨value, some '"'⟩
  | _ => expectedAt "identifier" t

/-- An identifier outside the name of a table. -/
def ident : Parse Ident := identIn false

/-- A part of a name that holds points, as the parts it stands for. -/
def splitAtPoints (i : Ident) : List Ident :=
  (Text.splitOn '.' i.value.toList).map fun part => ⟨.ofList part, i.quote⟩

/-- The parts of a name. -/
def nameParts (inTable : Bool) : Parse (List Ident) := do
  let first ← identIn inTable
  let rest ← many do
    if ← symbol "." then return some (← identIn inTable) else return none
  let parts := first :: rest
  if (← dialect) == .bigquery && parts.any (fun i => i.value.toList.contains '.') then
    return parts.flatMap splitAtPoints
  else return parts

/-- A name with parts, in normal form. -/
def name : Parse String := return nameText (← nameParts false)

/-- The name of a table, in which dialects may allow more. -/
def tableName : Parse String := return nameText (← nameParts true)

/-- Columns between parentheses, in normal form without the parentheses; none if nothing stands
between them and that is allowed. -/
def columns (allowEmpty : Bool) : Parse (List String) := do
  expectSymbol "("
  if allowEmpty then
    if ← symbol ")" then return []
  let columns ← list (return (← ident).text)
  expectSymbol ")"
  return columns

/-- Columns between parentheses, if there are any. -/
def optionalColumns (allowEmpty : Bool) : Parse (List String) := do
  if ← atSymbol "(" then columns allowEmpty else return []

/-- Columns between parentheses, which must be there. -/
def requiredColumns : Parse (List String) := do
  if ← atSymbol "(" then columns false
  else expected "a list of columns in parentheses"

/-- Columns in parentheses behind a space, or nothing. -/
def columnsText (columns : List String) : String :=
  if columns.isEmpty then "" else " (" ++ commas columns ++ ")"

/-- An alias, if there is one; without `AS` it is none of the given keywords. -/
def alias? (reserved : List String) : Parse (Option Ident) := do
  let marked ← keyword "AS"
  match ← peek with
  | .word value quote k =>
    if marked || !(reserved.contains k) then
      skip
      return some ⟨value, quote⟩
    else return none
  | .string .single value =>
    skip
    return some ⟨value, some '\''⟩
  | .string .double value =>
    skip
    return some ⟨value, some '"'⟩
  | _ => if marked then expected "an identifier after AS" else return none

/-- The alias of a table with the names of its columns, behind a space; nothing if there is none. -/
def tableAlias : Parse String := do
  match ← alias? notTableAlias with
  | some i => return " AS " ++ i.text ++ columnsText (← optionalColumns false)
  | none => return ""

/-- `IF EXISTS` behind a space, if it is there. -/
def ifExists : Parse String := flag "IF EXISTS"

/-- `IF NOT EXISTS` behind a space, if it is there. -/
def ifNotExists : Parse String := flag "IF NOT EXISTS"

end Parse

end SqlJob.Sql
