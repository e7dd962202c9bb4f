import SqlJob.Sql.Dialect
import SqlJob.Sql.Token

/-!
# Operators

Which tokens join two expressions, how strongly, and how the operator is printed. The strength of
an operator decides how far the operand of another one goes: an operand ends in front of an
operator that does not bind tighter.
-/

namespace SqlJob.Sql

/-- The strengths that other parts of the grammar refer to. -/
structure Strengths where
  multiply : Nat
  add : Nat
  compare : Nat
  between : Nat
  like : Nat
  is : Nat
  not : Nat
  and : Nat
  xor : Nat
  or : Nat
  cast : Nat
  timeZone : Nat
  /-- Operators on documents and other types. -/
  other : Nat
  /-- Bitwise exclusive or and shifts. -/
  bits : Nat
  bitAnd : Nat
  bitOr : Nat
  concatenate : Nat
  power : Nat
  overlap : Nat
  subscript : Nat

/-- The strengths in most dialects. -/
def Strengths.usual : Strengths where
  multiply := 40
  add := 30
  compare := 20
  between := 20
  like := 19
  is := 17
  not := 15
  and := 10
  xor := 24
  or := 5
  cast := 50
  timeZone := 41
  other := 16
  bits := 22
  bitAnd := 23
  bitOr := 21
  concatenate := 40
  power := 22
  overlap := 50
  subscript := 50

/-- The strengths in PostgreSQL. -/
def Strengths.postgres : Strengths where
  multiply := 90
  add := 80
  compare := 50
  between := 60
  like := 60
  is := 40
  not := 30
  and := 20
  xor := 75
  or := 10
  cast := 140
  timeZone := 110
  other := 70
  bits := 70
  bitAnd := 70
  bitOr := 70
  concatenate := 70
  power := 100
  overlap := 70
  subscript := 130

/-- The strengths in a dialect. -/
def strengths (d : Dialect) : Strengths :=
  if d == .postgres then .postgres else .usual

/-- The symbols that compare two values. -/
def comparisons : List String := [
  "=", "<", "<=", "<>", "!=", ">", ">=", "==", "~", "~*", "!~", "!~*", "~~", "~~*", "!~~", "!~~*",
  "<=>"]

/-- The operators on documents and other types. -/
def documentOperators : List String := [
  "->", "->>", "#>", "#>>", "@>", "<@", "#-", "@?", "@@", "?", "?&", "?|"]

/-- The words of the family of `LIKE`. -/
def likeWords : List String := ["LIKE", "ILIKE", "RLIKE", "REGEXP", "SIMILAR"]

/-- How strongly the first of three tokens binds as an operator behind an expression; zero if it is
none. -/
def infixStrength (d : Dialect) (t t' t'' : Token) : Nat :=
  let s := strengths d
  match t with
  | .word _ none k =>
    if k = "OR" then s.or
    else if k = "AND" then s.and
    else if k = "XOR" then s.xor
    else if k = "AT" then if t'.isKeyword "TIME" && t''.isKeyword "ZONE" then s.timeZone else 0
    else if k = "NOT" then
      match t' with
      | .word _ none k' =>
        if ["IN", "BETWEEN"].contains k' then s.between
        else if likeWords.contains k' then s.like
        else 0
      | _ => 0
    else if k = "IS" then s.is
    else if ["IN", "BETWEEN", "OPERATOR"].contains k then s.between
    else if likeWords.contains k then s.like
    else if k = "DIV" then s.multiply
    else if k = "COLLATE" ∧ d = .postgres then 120
    else 0
  | .symbol y =>
    if comparisons.contains y then s.compare
    else if y = "|" then s.bitOr
    else if y = "^" then s.power
    else if ["#", "<<", ">>"].contains y then s.bits
    else if y = "&" then s.bitAnd
    else if ["+", "-"].contains y then s.add
    else if ["*", "/", "%"].contains y then s.multiply
    else if y = "//" then if d = .postgres then 0 else s.multiply
    else if y = "||" then s.concatenate
    else if y = "::" then s.cast
    else if y = "[" then s.subscript
    else if y = "!" then if d = .postgres then 0 else s.cast
    else if ["&&", "^@"].contains y then s.overlap
    else if documentOperators.contains y then s.other
    else if y = ":" then if d = .snowflake then s.cast else 0
    else 0
  | .operator _ => s.other
  | _ => 0

/-- How a binary operator that is a symbol is printed, if the dialect has it. -/
def binarySymbol? (d : Dialect) (y : String) : Option String :=
  if y = "==" then some "="
  else if y = "!=" then some "<>"
  else if comparisons.contains y || documentOperators.contains y ||
      ["+", "-", "*", "/", "%", "||", "|", "^", "&"].contains y then some y
  else if y = "//" then if [.duckdb, .generic].contains d then some y else none
  else if y = "<<" || y = ">>" then
    if [.postgres, .duckdb, .generic].contains d then some y else none
  else if y = "#" then if d = .postgres then some y else none
  else if y = "&&" || y = "^@" then if [.postgres, .generic].contains d then some y else none
  else none

/-- What a token is called in the message that no operator is read from it. -/
def operatorName : Token → String
  | .word value _ k =>
    "Word(Word \x7b value: \"" ++ value ++ "\", quote_style: None, keyword: " ++ k ++ " \x7d)"
  | .symbol "#" => "Sharp"
  | .symbol "<<" => "ShiftLeft"
  | .symbol ">>" => "ShiftRight"
  | .symbol "&&" => "Overlap"
  | .symbol "^@" => "CaretAt"
  | .symbol "//" => "DuckIntDiv"
  | .symbol ":" => "Colon"
  | t => t.text

end SqlJob.Sql
