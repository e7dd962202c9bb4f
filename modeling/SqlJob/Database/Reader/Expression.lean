import SqlJob.Database.Reader.Basic

/-!
# Reading expressions

Expressions are read by the strength of their operators, from `OR`, the weakest, to the signs in
front of an operand. The strength of an operator is a number, and the operand to its right holds
stronger operators only.
-/

namespace SqlJob.Database.Read

/-! ### Numbers -/

/-- The integer that hexadecimal digits spell, as 64 bits of two's complement. -/
def hexInt (s : List Char) : Int :=
  let n := s.foldl (fun n c => n * 16 + (Lexer.hexValue? c).getD 0) 0
  if n ≤ 9223372036854775807 then n else (n : Int) - 18446744073709551616

/-- The value of an integer as it is written; one beyond the range of integers is a real number. -/
def integerValue (text : String) : Cell :=
  let s := text.toList.filter (· != '_')
  match s with
  | '0' :: x :: rest =>
    if x = 'x' ∨ x = 'X' then .int (hexInt rest) else decimal s
  | s => decimal s
where
  decimal (s : List Char) : Cell :=
    let n := Decimal.ofDigits s
    if Cell.fits n then .int n else .real (Decimal.toFloat ⟨n, 0⟩)

/-- The value of a number with a point or an exponent. -/
def floatValue (text : String) : Cell :=
  match Numeral.readFirst (text.toList.filter (· != '_')) with
  | some (n, _) => .real n.toFloat
  | none => .null

/-! ### The strengths of operators -/

/-- The operators written with symbols, and how strong they are. -/
def symbolOperator? : String → Option (BinaryOperator × Nat)
  | "=" => some (.equal, 4)
  | "==" => some (.equal, 4)
  | "<>" => some (.notEqual, 4)
  | "!=" => some (.notEqual, 4)
  | "<" => some (.less, 5)
  | "<=" => some (.lessEqual, 5)
  | ">" => some (.greater, 5)
  | ">=" => some (.greaterEqual, 5)
  | "&" => some (.bitAnd, 7)
  | "|" => some (.bitOr, 7)
  | "<<" => some (.shiftLeft, 7)
  | ">>" => some (.shiftRight, 7)
  | "+" => some (.add, 8)
  | "-" => some (.subtract, 8)
  | "*" => some (.multiply, 9)
  | "/" => some (.divide, 9)
  | "%" => some (.remainder, 9)
  | "||" => some (.concat, 10)
  | "->" => some (.extract, 10)
  | "->>" => some (.extractText, 10)
  | _ => none

variable (G : Grammar)

/-- One key to sort by. -/
def orderTerm : Read OrderTerm := do
  let e ← G.expr 0
  let ascending ← word "ASC"
  let descending ← if ascending then pure false else word "DESC"
  if ← word "NULLS" then
    if ← word "FIRST" then return { expr := e, descending, nullsFirst := some true }
    expectWord "LAST"
    return { expr := e, descending, nullsFirst := some false }
  else return { expr := e, descending }

/-- `ORDER BY` with its keys, if it is there. -/
def orderBy : Read (List OrderTerm) := do
  if ← words "ORDER" ["BY"] then list (orderTerm G) else return []

/-- What follows `OVER`. -/
def window : Read Window := do
  parenthesized do
    let partition ← do
      if ← words "PARTITION" ["BY"] then list (G.expr 0) else pure []
    let order ← orderBy G
    return { partition, order }

/-- A call behind the function's name. -/
def call (function : String) : Read Expr := do
  expectSymbol "("
  let c : Call ← do
    if ← symbol "*" then pure { function, star := true }
    else if ← atSymbol ")" then pure { function }
    else
      let distinct ← word "DISTINCT"
      if !distinct then
        let _ ← word "ALL"
      let args ← list (G.expr 0)
      let order ← orderBy G
      pure { function, args, distinct, order }
  expectSymbol ")"
  let filter ← do
    if isWord (← peek) "FILTER" && isSymbol (← peekAt 1) "(" then
      skip
      parenthesized do
        expectWord "WHERE"
        return some (← G.expr 0)
    else pure none
  let window ← do
    if isWord (← peek) "OVER" && isSymbol (← peekAt 1) "(" then
      skip
      pure (some (← window G))
    else pure none
  return .call { c with filter, window }

/-- `CASE` behind its word. -/
def caseForm : Read Expr := do
  let base ← if ← atWord "WHEN" then pure none else pure (some (← G.expr 0))
  expectWord "WHEN"
  let first ← branch
  let more ← many do
    if ← word "WHEN" then return some (← branch) else return none
  let otherwise ← behind "ELSE" (G.expr 0)
  expectWord "END"
  return .case base (first :: more) otherwise
where
  branch : Read (Expr × Expr) := do
    let condition ← G.expr 0
    expectWord "THEN"
    return (condition, ← G.expr 0)

/-- Whether a query follows. -/
def atQuery : Read Bool := do
  let l ← peek
  return isWord l "SELECT" || isWord l "VALUES" || isWord l "WITH"

/-- What follows an opening parenthesis: a query, one expression or a row. -/
def grouped : Read Expr := do
  if ← atQuery then
    let q ← G.query
    expectSymbol ")"
    return .scalar q
  else
    let items ← list (G.expr 0)
    expectSymbol ")"
    match items with
    | [e] => return e
    | items => return .row items

/-- A name with at most three parts, behind the first of them. -/
def dotted (first : String) (inDoubleQuotes : Bool) : Read Expr := do
  if ← symbol "." then
    let second ← name
    if ← symbol "." then return .name (some second) (← name) false
    else return .name (some first) second false
  else return .name none first inDoubleQuotes

/-- A word as an expression, or the start of one. -/
def wordForm (l : Lexeme) (k : String) : Read Expr := do
  match k with
  | "NULL" =>
    skip
    return .literal .null
  | "CASE" =>
    skip
    caseForm G
  | "CAST" =>
    if isSymbol (← peekAt 1) "(" then
      skip
      parenthesized do
        let e ← G.expr 0
        expectWord "AS"
        return .cast e ((← typeName).getD "")
    else named
  | "EXISTS" =>
    skip
    return .existsIn (← parenthesized G.query)
  | "NOT" =>
    skip
    return .unary .not (← G.expr 3)
  | _ => named
where
  named : Read Expr := do
    match nameOf? true l with
    | some n =>
      skip
      if ← atSymbol "(" then call G n else dotted n false
    | none => unexpected

/-- An expression without operators behind it. -/
def operand : Read Expr := do
  let l ← peek
  match l.token with
  | .integer =>
    skip
    return .literal (integerValue l.text)
  | .float =>
    skip
    return .literal (floatValue l.text)
  | .string value =>
    skip
    return .literal (.text value)
  | .bytes value =>
    skip
    return .literal (.blob value)
  | .parameter =>
    skip
    return .parameter
  | .word k => wordForm G l k
  | .quoted value double =>
    skip
    if ← atSymbol "(" then call G value else dotted value double
  | .symbol =>
    match l.text with
    | "(" =>
      skip
      grouped G
    | "-" =>
      skip
      let after ← peek
      if after.text == "9223372036854775808" then
        skip
        return .literal (.int Cell.minInt)
      else return .unary .negative (← G.expr 12)
    | "+" =>
      skip
      return .unary .positive (← G.expr 12)
    | "~" =>
      skip
      return .unary .bitNot (← G.expr 12)
    | _ => unexpected
  | _ => unexpected

/-- What follows `IN`. -/
def membership (negated : Bool) (left : Expr) : Read Expr := do
  if ← symbol "(" then
    if ← symbol ")" then return .inList negated left []
    else if ← atQuery then
      let q ← G.query
      expectSymbol ")"
      return .inQuery negated left q
    else
      let items ← list (G.expr 0)
      expectSymbol ")"
      return .inList negated left items
  else
    let table ← objectName
    return .inQuery negated left
      (.ofBody (.select { items := [.star], source := [{ term := .table table none }] }))

/-- An operator that is a word, if one of at least the given strength is next, with its right
operand. -/
def wordOperator? (strength : Nat) (left : Expr) (negated : Bool) (k : String) :
    Read (Option Expr) := do
  match k with
  | "BETWEEN" =>
    if 4 < strength then return none
    advance negated
    let low ← G.expr 3
    expectWord "AND"
    return some (.between negated left low (← G.expr 5))
  | "IN" =>
    if 4 < strength then return none
    advance negated
    return some (← membership G negated left)
  | _ =>
    if !operatorWords.contains k || 4 < strength then return none
    advance negated
    let pattern ← G.expr 5
    let escape ← behind "ESCAPE" (G.expr 7)
    return some (.like negated k left pattern escape)
where
  advance (negated : Bool) : Read Unit := do
    skip
    if negated then skip

/-- An expression with one more operator behind it, if one of at least the given strength is
next. -/
def extended? (strength : Nat) (left : Expr) : Read (Option Expr) := do
  let l ← peek
  match l.token with
  | .symbol =>
    match symbolOperator? l.text with
    | some (op, s) =>
      if s < strength then return none
      skip
      return some (.binary op left (← G.expr (s + 1)))
    | none => return none
  | .word k =>
    match k with
    | "OR" =>
      if 1 < strength then return none
      skip
      return some (.binary .or left (← G.expr 2))
    | "AND" =>
      if 2 < strength then return none
      skip
      return some (.binary .and left (← G.expr 3))
    | "COLLATE" =>
      if 11 < strength then return none
      skip
      return some (.collate left (← name))
    | "ISNULL" =>
      if 4 < strength then return none
      skip
      return some (.isNull false left)
    | "NOTNULL" =>
      if 4 < strength then return none
      skip
      return some (.isNull true left)
    | "IS" =>
      if 4 < strength then return none
      skip
      let negated ← word "NOT"
      let distinct ← words "DISTINCT" ["FROM"]
      return some (.binary (if negated != distinct then .isNot else .is) left (← G.expr 5))
    | "NOT" =>
      match (← peekAt 1).token with
      | .word "NULL" =>
        if 4 < strength then return none
        skip
        skip
        return some (.isNull true left)
      | .word k => wordOperator? G strength left true k
      | _ => return none
    | k => wordOperator? G strength left false k
  | _ => return none

/-- An expression that goes on with operators of at least the given strength, at most `n` of
them. -/
def extendedBy (strength : Nat) : Nat → Expr → Read Expr
  | 0, e => return e
  | n + 1, e => do
    match ← extended? G strength e with
    | some e => extendedBy strength n e
    | none => return e

/-- An expression whose operators are at least as strong as given. -/
def expression (strength : Nat) : Read Expr := do
  extendedBy G strength (← remaining) (← operand G)

end SqlJob.Database.Read
