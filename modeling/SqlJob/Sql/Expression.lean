import SqlJob.Sql.DataType
import SqlJob.Sql.Operator

/-!
# Expressions

An expression is read in two layers: primaries, which start with a token of their own, and the
operators that join them, strongest first. A primary may be a literal, a name, a function call or
one of the forms with words of their own inside, such as `CASE` and `CAST`.
-/

namespace SqlJob.Sql.Parse

variable (G : Grammar)

/-- An expression's text. -/
def expression : Parse String := return (← G.expression).text

/-- The text of an expression that binds tighter than the given strength. -/
def operand (strength : Nat) : Parse String := return (← G.operand strength).text

/-- A query between parentheses, in normal form with them. -/
def subquery : Parse String := return "(" ++ (← parenthesized G.query) ++ ")"

/-- Whether a query is next. -/
def atQuery : Parse Bool := return (← atKeyword "SELECT") || (← atKeyword "WITH")

/-! ### Windows and orders -/

/-- An expression with an optional direction and place of nulls. -/
def orderItem : Parse String := do
  let e ← expression G
  let direction ← keywordIn ["ASC", "DESC"]
  let nulls ← flag "NULLS FIRST"
  let nulls ← if nulls.isEmpty then flag "NULLS LAST" else pure nulls
  let fill ←
    if ← dialectIn [.clickhouse, .generic] then
      if ← keywords "WITH FILL" then
        pure (" WITH FILL" ++ lead " FROM " (← behind "FROM" (expression G)) ++
          lead " TO " (← behind "TO" (expression G)) ++
          lead " STEP " (← behind "STEP" (expression G)))
      else pure ""
    else pure ""
  return e ++ lead " " direction ++ nulls ++ fill

/-- The items behind `ORDER BY`, if they are there. -/
def orderBy? : Parse (Option String) := do
  let items ← behind "ORDER BY" (list (orderItem G))
  return items.map commas

/-- A value of an interval and its units. -/
def intervalTail (value : String) : Parse String := do
  let unit ← unit?
  if unit = some "SECOND" then
    let precision ← precisionAndScale? ", "
    return "INTERVAL " ++ value ++ " SECOND" ++ spaced precision
  else
    let precision ← precision?
    let last ←
      if ← keyword "TO" then
        let last ← timeUnit
        let fraction ← if last = "SECOND" then precision? else pure ""
        pure (" TO " ++ last ++ spaced fraction)
      else pure ""
    return "INTERVAL " ++ value ++ lead " " unit ++ spaced precision ++ last
where
  spaced (s : String) : String := if s.isEmpty then "" else " " ++ s
  unit? : Parse (Option String) := do
    match ← peek with
    | .word _ none k => if intervalUnits.contains k then return some (← timeUnit) else return none
    | _ => return none

/-- How strongly what is next binds as an operator. -/
def nextStrength : Parse Nat := do
  return infixStrength (← dialect) (← peek) (← peekAt 1).token (← peekAt 2).token

/-- One end of a window's frame. -/
def frameBound (interval : Parse Expr) : Parse String := do
  if ← keywords "CURRENT ROW" then return "CURRENT ROW"
  let distance ←
    if ← keyword "UNBOUNDED" then pure "UNBOUNDED"
    else
      match ← peek with
      | .string .single _ => return ← direction (← interval).text
      | _ => expression G
  direction distance
where
  direction (distance : String) : Parse String := do
    if ← keyword "PRECEDING" then return distance ++ " PRECEDING"
    expectKeywords "FOLLOWING"
    return distance ++ " FOLLOWING"

/-- A window's frame. -/
def windowFrame (interval : Parse Expr) : Parse String := do
  match ← keywordIn ["ROWS", "RANGE", "GROUPS"] with
  | none => expected "ROWS, RANGE, GROUPS"
  | some units =>
    if ← keyword "BETWEEN" then
      let low ← frameBound G interval
      expectKeywords "AND"
      return units ++ " BETWEEN " ++ low ++ " AND " ++ (← frameBound G interval)
    else return units ++ " " ++ (← frameBound G interval)

/-- A window behind its opening parenthesis, with the closing one. -/
def windowSpec (interval : Parse Expr) : Parse String := do
  let base ←
    match ← peek with
    | .word _ _ k => if allKeywords.contains k then pure none else pure (some (← ident).text)
    | _ => pure none
  let partition ← behind "PARTITION BY" (list (expression G))
  let order ← orderBy? G
  let frame ←
    if ← symbol ")" then pure none
    else
      let frame ← windowFrame G interval
      expectSymbol ")"
      pure (some frame)
  let parts := [base, partition.map ("PARTITION BY " ++ commas ·), order.map ("ORDER BY " ++ ·),
    frame].filterMap id
  return "(" ++ String.intercalate " " parts ++ ")"

/-! ### Function calls -/

/-- `RESPECT NULLS` or `IGNORE NULLS` behind a space, if it is there. -/
def nullTreatment : Parse String := do
  match ← keywordIn ["RESPECT", "IGNORE"] with
  | some k =>
    expectKeywords "NULLS"
    return " " ++ k ++ " NULLS"
  | none => return ""

/-- An expression, or a star with an optional name in front. -/
def wildcardExpression : Parse Expr := do
  let start ← get
  match (← next).token with
  | .symbol "*" => return ⟨"*", .wildcard⟩
  | .word value quote _ => afterPart start ⟨value, quote⟩
  | .string .single value => afterPart start ⟨value, some '\''⟩
  | _ =>
    set start
    G.expression
where
  /-- Goes on behind the first part of a name. -/
  afterPart (start : Nat) (first : Ident) : Parse Expr := do
    let parts ← many do
      if ← symbol "." then
        let t ← next
        match t.token with
        | .word value quote _ => return some (some (Ident.mk value quote))
        | .string .single value => return some (some (Ident.mk value (some '\'')))
        | .symbol "*" => return some none
        | _ => expectedAt "an identifier or a '*' after '.'" t
      else return none
    let named := parts.takeWhile (·.isSome) |>.filterMap id
    if named.length < parts.length then
      set (start + 2 * (named.length + 1) + 1)
      return ⟨nameText (first :: named) ++ ".*", .qualifiedWildcard⟩
    else
      set start
      G.expression

/-- One argument of a function. -/
def argument : Parse String := do
  let after := (← peekAt 1).token
  if after == .symbol "=>" then named " => "
  else if after == .symbol ":=" && (← dialectIn [.duckdb, .generic]) then named " := "
  else return (← wildcardExpression G).text
where
  named (arrow : String) : Parse String := do
    let i ← ident
    skip
    return i.text ++ arrow ++ (← wildcardExpression G).text

/-- `ALL` or `DISTINCT` in front of arguments, with a space behind. -/
def duplicateTreatment : Parse String := do
  let place := (← peekPlaced).place
  let all ← keyword "ALL"
  let distinct ← keyword "DISTINCT"
  match all, distinct with
  | true, true => failAt "Cannot specify both ALL and DISTINCT" place
  | true, false => return "ALL "
  | false, true => return "DISTINCT "
  | false, false => return ""

/-- What may follow the last argument of a function, each part behind a space. -/
def argumentClauses : Parse (String × Bool) := do
  let nulls ←
    if ← dialectIn [.bigquery, .snowflake, .generic, .duckdb] then nullTreatment else pure ""
  let order := lead " ORDER BY " (← orderBy? G)
  let limit := lead " LIMIT " (← behind "LIMIT" (expression G))
  let having ←
    if ← dialectIn [.generic, .bigquery] then
      if ← keyword "HAVING" then
        let bound ← expectKeywordIn ["MIN", "MAX"]
        pure (" HAVING " ++ bound ++ " " ++ (← expression G))
      else pure ""
    else pure ""
  let separator ←
    if ← dialectIn [.generic, .mysql] then
      pure (lead " SEPARATOR " ((← behind "SEPARATOR" literal).map (·.1)))
    else pure ""
  let overflow ← onOverflow
  return (nulls ++ order ++ limit ++ having ++ separator ++ overflow, !nulls.isEmpty)
where
  onOverflow : Parse String := do
    if !(← keywords "ON OVERFLOW") then return ""
    if ← keyword "ERROR" then return " ON OVERFLOW ERROR"
    expectKeywords "TRUNCATE"
    let filler ←
      match ← peek with
      | .word _ none _ => pure none
      | _ => pure (some (← expression G))
    let count ← keywordIn ["WITH", "WITHOUT"]
    match count with
    | none => expected "either WITH or WITHOUT in LISTAGG"
    | some count =>
      expectKeywords "COUNT"
      return " ON OVERFLOW TRUNCATE" ++ lead " " filler ++ " " ++ count ++ " COUNT"

/-- Arguments behind their opening parenthesis, with the closing one; printed with both. Says also
whether the treatment of nulls was among them. -/
def arguments : Parse (String × Bool) := do
  if ← symbol ")" then return ("()", false)
  let treatment ← duplicateTreatment
  let args ← list (argument G)
  let (clauses, hasNulls) ← argumentClauses G
  expectSymbol ")"
  return ("(" ++ treatment ++ commas args ++ clauses ++ ")", hasNulls)

/-- The dialects in which a function call may be filtered. -/
def filterDialects : List Dialect := [.generic, .postgres, .sqlite, .duckdb, .hive]

/-- `FILTER` with its condition behind a space, if it is there. -/
def filterClause : Parse String := do
  if !(← dialectIn filterDialects) then return ""
  if !(← keyword "FILTER") then return ""
  if !(← symbol "(") then return ""
  if !(← keyword "WHERE") then return ""
  let condition ← expression G
  expectSymbol ")"
  return " FILTER (WHERE " ++ condition ++ ")"

/-- `OVER` with its window behind a space, if it is there. -/
def overClause (interval : Parse Expr) : Parse String := do
  if !(← keyword "OVER") then return ""
  if ← symbol "(" then return " OVER " ++ (← windowSpec G interval)
  else return " OVER " ++ (← ident).text

/-- A function call behind the function's name. -/
def call (interval : Parse Expr) (function : String) : Parse Expr := do
  expectSymbol "("
  if (← dialect) == .snowflake && (← atQuery) then
    let q ← G.query
    expectSymbol ")"
    return ⟨function ++ "(" ++ q ++ ")", .other⟩
  let (args, hasNulls) ← arguments G
  let (parameters, args, hasNulls) ←
    if ← inDialects [.clickhouse, .generic] (symbol "(") then
      let (args', hasNulls) ← arguments G
      pure (args, args', hasNulls)
    else pure ("", args, hasNulls)
  let within ←
    if ← keywords "WITHIN GROUP" then
      expectSymbol "("
      expectKeywords "ORDER BY"
      let items ← list (orderItem G)
      expectSymbol ")"
      pure (" WITHIN GROUP (ORDER BY " ++ commas items ++ ")")
    else pure ""
  let filter ← filterClause G
  let nulls ← if hasNulls then pure "" else nullTreatment
  let window ← overClause G interval
  return ⟨function ++ parameters ++ args ++ within ++ filter ++ nulls ++ window, .other⟩

/-! ### Forms with words of their own -/

/-- `CASE` behind its word. -/
def caseForm : Parse String := do
  let subject ←
    if ← keyword "WHEN" then pure ""
    else
      let e ← expression G
      expectKeywords "WHEN"
      pure (" " ++ e)
  let first ← branch
  let rest ← many do
    if ← keyword "WHEN" then return some (← branch) else return none
  let otherwise := lead " ELSE " (← behind "ELSE" (expression G))
  expectKeywords "END"
  return "CASE" ++ subject ++ String.join (first :: rest) ++ otherwise ++ " END"
where
  branch : Parse String := do
    let condition ← expression G
    expectKeywords "THEN"
    return " WHEN " ++ condition ++ " THEN " ++ (← expression G)

/-- `CAST` and its relatives behind their word. -/
def castForm (word : String) : Parse String := do
  expectSymbol "("
  let e ← expression G
  expectKeywords "AS"
  let t ← dataType G
  let format ←
    if ← keyword "FORMAT" then
      let f := (← literal).1
      if ← keywords "AT TIME ZONE" then
        pure (" FORMAT " ++ f ++ " AT TIME ZONE " ++ (← literal).1)
      else pure (" FORMAT " ++ f)
    else pure ""
  expectSymbol ")"
  return word ++ "(" ++ e ++ " AS " ++ t.text ++ format ++ ")"

/-- `CONVERT` behind its word. -/
def convertForm (word : String) : Parse String := do
  expectSymbol "("
  let inside ←
    if (← dialect) == .mssql then
      let t ← dataType G
      expectSymbol ","
      let e ← expression G
      let styles ← many do
        if ← symbol "," then return some (← expression G) else return none
      pure (commas (t.text :: e :: styles))
    else
      let e ← expression G
      if ← keyword "USING" then pure (e ++ " USING " ++ (← name))
      else
        expectSymbol ","
        let t ← dataType G
        pure (e ++ ", " ++ t.text ++ lead " CHARACTER SET " (← behind "CHARACTER SET" name))
  expectSymbol ")"
  return word ++ "(" ++ inside ++ ")"

/-- `EXTRACT` behind its word. -/
def extractForm : Parse String := do
  expectSymbol "("
  let unit ← timeUnit
  let join ← do
    if ← keyword "FROM" then pure " FROM "
    else if (← symbol ",") && (← dialectIn [.snowflake, .generic]) then pure ", "
    else fail "Expected 'FROM' or ','"
  let e ← expression G
  expectSymbol ")"
  return "EXTRACT(" ++ unit ++ join ++ e ++ ")"

/-- `CEIL` and `FLOOR` behind their word. -/
def roundForm (word : String) : Parse String := do
  expectSymbol "("
  let e ← expression G
  let detail ← do
    if ← keyword "TO" then pure (" TO " ++ (← timeUnit))
    else if ← symbol "," then
      match ← literal with
      | (n, .number) => pure (", " ++ n)
      | _ => fail "Scale field can only be of number type"
    else pure ""
  expectSymbol ")"
  return word ++ "(" ++ e ++ detail ++ ")"

/-- `POSITION` behind its word, with `IN` between its arguments. -/
def positionForm : Parse String := do
  expectSymbol "("
  let e ← operand G (strengths (← dialect)).between
  expectKeywords "IN"
  let within ← expression G
  expectSymbol ")"
  return "POSITION(" ++ e ++ " IN " ++ within ++ ")"

/-- `SUBSTRING` behind its word. -/
def substringForm : Parse String := do
  expectSymbol "("
  let e ← expression G
  let special ← symbol ","
  let start ← if special then pure (some (← expression G)) else behind "FROM" (expression G)
  let length ← do
    if ← keyword "FOR" then pure (some (← expression G))
    else if ← symbol "," then pure (some (← expression G))
    else pure none
  expectSymbol ")"
  return "SUBSTRING(" ++ e ++ lead (if special then ", " else " FROM ") start ++
    lead (if special then ", " else " FOR ") length ++ ")"

/-- `OVERLAY` behind its word. -/
def overlayForm : Parse String := do
  expectSymbol "("
  let e ← expression G
  expectKeywords "PLACING"
  let what ← expression G
  expectKeywords "FROM"
  let start ← expression G
  let length := lead " FOR " (← behind "FOR" (expression G))
  expectSymbol ")"
  return "OVERLAY(" ++ e ++ " PLACING " ++ what ++ " FROM " ++ start ++ length ++ ")"

/-- `TRIM` behind its word. -/
def trimForm : Parse String := do
  expectSymbol "("
  let side ← keywordIn ["BOTH", "LEADING", "TRAILING"]
  let e ← expression G
  let inside ← do
    if ← keyword "FROM" then
      pure (lead "" (side.map (· ++ " ")) ++ e ++ " FROM " ++ (← expression G))
    else if (← symbol ",") && (← dialectIn [.snowflake, .bigquery, .generic]) then
      pure (e ++ ", " ++ commas (← list (expression G)))
    else pure (lead "" (side.map (· ++ " ")) ++ e)
  expectSymbol ")"
  return "TRIM(" ++ inside ++ ")"

/-- An array behind its opening bracket. -/
def arrayForm : Parse String := do
  let items ← listBefore "]" (expression G)
  expectSymbol "]"
  return "[" ++ commas items ++ "]"

/-- A value of an interval and its units, behind `INTERVAL`. The value is an expression without
`AND`, `OR` and `XOR` outside parentheses. -/
def intervalForm (continued : Expr → Nat → Parse Expr) : Parse Expr := do
  let first ← G.primary
  let value ← go (← remaining) first
  return ⟨← intervalTail value.text, .other⟩
where
  go : Nat → Expr → Parse Expr
    | 0, e => return e
    | n + 1, e => do
      let connects := (← atKeyword "AND") || (← atKeyword "OR") || (← atKeyword "XOR")
      let strength ← nextStrength
      if connects || strength = 0 then return e
      go n (← continued e strength)

/-! ### Operators -/

/-- What follows `IN`. -/
def inList (left : String) : Parse String := do
  if ← keyword "UNNEST" then
    return left ++ "IN UNNEST(" ++ (← parenthesized (expression G)) ++ ")"
  expectSymbol "("
  let inside ← do
    if ← atQuery then G.query
    else if (← dialect) == .sqlite then pure (commas (← listBefore ")" (expression G)))
    else pure (commas (← list (expression G)))
  expectSymbol ")"
  return left ++ "IN (" ++ inside ++ ")"

/-- What follows a word of the family of `LIKE`, with an optional escape character. -/
def likePattern (left word : String) : Parse String := do
  let pattern ← operand G (strengths (← dialect)).like
  let escape ← behind "ESCAPE" stringValue
  return left ++ word ++ " " ++ pattern ++ lead " ESCAPE '" (escape.map (· ++ "'"))

/-- The predicates that may be negated, behind an expression. -/
def negatable (left : String) : Parse String := do
  let negated ← keyword "NOT"
  let left := left ++ (if negated then " NOT " else " ")
  if ← keyword "REGEXP" then
    return left ++ "REGEXP " ++ (← operand G (strengths (← dialect)).like)
  else if ← keyword "RLIKE" then
    return left ++ "RLIKE " ++ (← operand G (strengths (← dialect)).like)
  else if ← keyword "IN" then inList G left
  else if ← keyword "BETWEEN" then
    let strength := (strengths (← dialect)).between
    let low ← operand G strength
    expectKeywords "AND"
    return left ++ "BETWEEN " ++ low ++ " AND " ++ (← operand G strength)
  else if ← keyword "LIKE" then likePattern G left "LIKE"
  else if ← keyword "ILIKE" then likePattern G left "ILIKE"
  else if ← keywords "SIMILAR TO" then likePattern G left "SIMILAR TO"
  else expected "IN or BETWEEN after NOT"

/-- What follows `IS`. -/
def isForm (left : String) : Parse String := do
  for t in ["NULL", "NOT NULL", "TRUE", "NOT TRUE", "FALSE", "NOT FALSE", "UNKNOWN",
      "NOT UNKNOWN"] do
    if ← keywords t then return left ++ " IS " ++ t
  for t in ["DISTINCT FROM", "NOT DISTINCT FROM"] do
    if ← keywords t then return left ++ " IS " ++ t ++ " " ++ (← expression G)
  expected "[NOT] NULL or TRUE|FALSE or [NOT] DISTINCT FROM after IS"

/-- What follows an opening bracket behind an expression. -/
def subscriptForm (left : String) : Parse String := do
  if ← dialectIn [.postgres, .duckdb, .generic] then
    let low ← bound ":"
    if ← symbol "]" then return left ++ "[" ++ (if low.isEmpty then ":" else low) ++ "]"
    if !low.isEmpty then expectSymbol ":"
    if ← symbol "]" then return left ++ "[" ++ low ++ ":]"
    let high ← expression G
    if ← symbol "]" then return left ++ "[" ++ low ++ ":" ++ high ++ "]"
    expectSymbol ":"
    if ← symbol "]" then return left ++ "[" ++ low ++ ":" ++ high ++ "]"
    let step ← expression G
    expectSymbol "]"
    return left ++ "[" ++ low ++ ":" ++ high ++ ":" ++ step ++ "]"
  else
    let key ← expression G
    expectSymbol "]"
    let more ← many do
      if ← symbol "[" then
        let key ← expression G
        expectSymbol "]"
        return some ("[" ++ key ++ "]")
      else if ← inDialects [.bigquery] (symbol ".") then return some ("." ++ (← expression G))
      else return none
    return left ++ "[" ++ key ++ "]" ++ String.join more
where
  bound (s : String) : Parse String := do
    if ← symbol s then return "" else expression G

/-- A path into a document, behind an expression. -/
def documentPath (left : String) : Parse String := do
  let first ← step true
  let rest ← many (step false)
  return left ++ lead "" first ++ String.join rest
where
  key : Parse String := do
    let t ← next
    match t.token with
    | .word value none _ => return value
    | .word value (some '"') _ => return quoted '"' value
    | .string .double value => return quoted '"' value
    | _ => expectedAt "variant object key name" t
  step (first : Bool) : Parse (Option String) := do
    if ← onlyIf first (symbol ":") then return some (":" ++ (← key))
    else if ← onlyIf (!first) (symbol ".") then return some ("." ++ (← key))
    else if ← symbol "[" then
      let e ← expression G
      expectSymbol "]"
      return some ("[" ++ e ++ "]")
    else return none

/-- The operator next to an expression, if it is one that joins two expressions, as printed. -/
def binaryOperator? : Parse (Option String) := do
  let d ← dialect
  match ← peek with
  | .symbol y =>
    match binarySymbol? d y with
    | some text =>
      skip
      return some text
    | none => return none
  | .operator text =>
    skip
    return some text
  | .word _ none k =>
    if ["AND", "OR", "XOR"].contains k then
      skip
      return some k
    else if k = "DIV" ∧ d = .mysql then
      skip
      return some "DIV"
    else if k = "OPERATOR" ∧ [.postgres, .generic].contains d then
      skip
      expectSymbol "("
      let first ← next
      let rest ← many do
        if ← symbol "." then return some (← next).token.text else return none
      expectSymbol ")"
      return some ("OPERATOR(" ++ String.intercalate "." (first.token.text :: rest) ++ ")")
    else return none
  | _ => return none

/-- What follows a comparison with `ANY`, `ALL` or `SOME`. -/
def quantified (left op word : String) (strength : Nat) (place : Place) : Parse String := do
  expectSymbol "("
  let right ←
    if ← atQuery then
      modify (· - 1)
      let e ← G.operand strength
      pure (if e.shape = .subquery then e.text else "(" ++ e.text ++ ")")
    else
      let e ← operand G strength
      expectSymbol ")"
      pure ("(" ++ e ++ ")")
  if ["=", "<>", "<", ">", "<=", ">="].contains op then
    return left ++ " " ++ op ++ " " ++ word ++ right
  else
    failAt ("Expected one of [=, >, <, =>, =<, !=] as comparison operator, found: " ++ op) place

/-- An expression goes on behind `left` with an operator of the given strength. -/
def continued (left : Expr) (strength : Nat) : Parse Expr := do
  let t ← peekPlaced
  let left := left.text
  match ← binaryOperator? with
  | some op =>
    match ← keywordIn ["ANY", "ALL", "SOME"] with
    | some word => return ⟨← quantified G left op word strength t.place, .other⟩
    | none => return ⟨left ++ " " ++ op ++ " " ++ (← operand G strength), .other⟩
  | none =>
    let d ← dialect
    match t.token with
    | .word _ none k =>
      if k = "IS" then
        skip
        return ⟨← isForm G left, .other⟩
      else if k = "AT" then
        skip
        expectKeywords "TIME ZONE"
        return ⟨left ++ " AT TIME ZONE " ++ (← operand G strength), .other⟩
      else if k = "NOT" ∨ k = "IN" ∨ k = "BETWEEN" ∨ likeWords.contains k then
        return ⟨← negatable G left, .other⟩
      else failAt ("No infix parser for token " ++ operatorName t.token) t.place
    | .symbol y =>
      if y = "::" then
        skip
        return ⟨left ++ "::" ++ (← dataType G).text, .other⟩
      else if y = "!" then
        skip
        return ⟨left ++ "!", .other⟩
      else if y = "[" then
        if d == .snowflake then return ⟨← documentPath G left, .other⟩
        skip
        return ⟨← subscriptForm G left, .other⟩
      else if y = ":" then return ⟨← documentPath G left, .other⟩
      else failAt ("No infix parser for token " ++ operatorName t.token) t.place
    | _ => failAt ("No infix parser for token " ++ operatorName t.token) t.place

/-- The operators behind an expression, as long as they bind tighter than the given strength. -/
def continueAbove (strength : Nat) : Nat → Expr → Parse Expr
  | 0, e => return e
  | n + 1, e => do
    let s ← nextStrength
    if strength < s then continueAbove strength n (← continued G e s) else return e

/-! ### Primaries -/

/-- `INTERVAL` with its value, behind its word. -/
def interval : Parse Expr := intervalForm G (continued G)

/-- A literal of a type: the type's name in front of a string. -/
def typedLiteral : Parse Expr := do
  let t ← dataType G
  match t.shape with
  | .interval => interval G
  | .custom => fail "a custom type is no literal"
  | .known => return ⟨t.text ++ " " ++ quoted '\'' (← stringValue), .other⟩

/-- A name, or a call of the function with that name, behind the first part of the name. -/
def nameOrCall (first : Ident) : Parse Expr := do
  let afterPoint ← many do
    if ← symbol "." then
      let t ← next
      match t.token with
      | .word value quote _ => return some (Ident.mk value quote).text
      | .string .single value => return some (Ident.mk value (some '\'')).text
      | .symbol "*" =>
        if (← dialect) == .postgres then return some "*"
        else expectedAt "an identifier after '.'" t
      | _ => expectedAt "an identifier or a '*' after '.'" t
    else return none
  let text := String.intercalate "." (first.text :: afterPoint)
  if afterPoint.getLast? = some "*" then return ⟨text, .qualifiedWildcard⟩
  else if ← atSymbol "(" then
    if ← inDialects [.snowflake, .mssql] (symbols ["(", "+", ")"]) then
      return ⟨text ++ " (+)", .other⟩
    else call G (interval G) text
  else return ⟨text, .other⟩

/-- A current time, behind its word, which takes arguments only in parentheses. -/
def timeFunction (word : String) : Parse Expr := do
  if ← symbol "(" then
    let (args, _) ← arguments G
    return ⟨word ++ args, .other⟩
  else return ⟨word, .other⟩

/-- `NOT` behind its word. -/
def notForm : Parse Expr := do
  if ← keyword "EXISTS" then return ⟨"NOT EXISTS " ++ (← subquery G), .other⟩
  else return ⟨"NOT " ++ (← operand G (strengths (← dialect)).not), .other⟩

/-- The forms that a keyword starts: what follows the keyword, if it starts one here. -/
def keywordForm? (value k : String) : Parse (Option (Parse Expr)) := do
  let text (p : Parse String) : Parse Expr := return ⟨← p, .other⟩
  let opens := (← peekAt 1).token == .symbol "("
  match k with
  | "CURRENT_CATALOG" | "CURRENT_USER" | "SESSION_USER" | "USER" =>
    if ← dialectIn [.postgres, .generic] then return some (return ⟨value, .other⟩) else return none
  | "CURRENT_TIMESTAMP" | "CURRENT_TIME" | "CURRENT_DATE" | "LOCALTIME" | "LOCALTIMESTAMP" =>
    return some (timeFunction G value)
  | "CASE" => return some (text (caseForm G))
  | "CONVERT" => return some (text (convertForm G "CONVERT"))
  | "TRY_CONVERT" =>
    if (← dialect) == .mssql then return some (text (convertForm G "TRY_CONVERT")) else return none
  | "CAST" | "TRY_CAST" | "SAFE_CAST" => return some (text (castForm G k))
  | "EXISTS" => return some (text (return "EXISTS " ++ (← subquery G)))
  | "EXTRACT" => return some (text (extractForm G))
  | "CEIL" | "FLOOR" => return some (text (roundForm G k))
  | "POSITION" =>
    if opens then
      return some do
        match ← attempt (positionForm G) with
        | some t => return ⟨t, .other⟩
        | none => call G (interval G) value
    else return none
  | "SUBSTRING" => return some (text (substringForm G))
  | "OVERLAY" => return some (text (overlayForm G))
  | "TRIM" => return some (text (trimForm G))
  | "INTERVAL" => return some (interval G)
  | "ARRAY" =>
    if (← peekAt 1).token == .symbol "[" then
      return some (text do
        skip
        return "ARRAY" ++ (← arrayForm G))
    else if opens && !(← dialectIn [.clickhouse]) then
      return some (text (return value ++ (← subquery G)))
    else return none
  | "NOT" => return some (notForm G)
  | _ => return none

/-- Expressions between parentheses, behind the opening one: a query, one expression or a tuple. -/
def grouped : Parse Expr := do
  let (inside, shape) ←
    if ← atQuery then pure (← G.query, ExprShape.subquery)
    else pure (commas (← list (expression G)), ExprShape.other)
  expectSymbol ")"
  let text := "(" ++ inside ++ ")"
  if ← symbol "." then
    let t ← next
    match t.token with
    | .word value quote _ => return ⟨text ++ "." ++ (Ident.mk value quote).text, .other⟩
    | _ => failAt ("Expected identifier, found: " ++ t.token.text) t.place
  else return ⟨text, shape⟩

/-- A dictionary behind its opening brace. -/
def dictionary : Parse String := do
  let fields ← listBefore "\x7d" do
    let key ← ident
    expectSymbol ":"
    return key.text ++ ": " ++ (← expression G)
  expectSymbol "\x7d"
  return "\x7b" ++ commas fields ++ "\x7d"

/-- What a symbol starts. -/
def symbolForm (t : PlacedToken) (y : String) : Parse Expr := do
  let s := strengths (← dialect)
  if y = "-" ∨ y = "+" then
    skip
    return ⟨y ++ (← operand G s.multiply), .other⟩
  else if y = "(" then
    skip
    grouped G
  else if y = "[" then
    skip
    return ⟨← arrayForm G, .other⟩
  else if ["!!", "|/", "||/", "@", "~"].contains y ∧ (← dialect) = .postgres then
    skip
    return ⟨y ++ (← operand G s.add), .other⟩
  else if y = ":" ∨ y = "@" then return ⟨(← literal).1, .other⟩
  else if y = "\x7b" ∧ [.duckdb, .generic].contains (← dialect) then
    skip
    return ⟨← dictionary G, .other⟩
  else expectedAt "an expression:" t

/-- A primary that is no literal of a type. -/
def untypedPrimary : Parse Expr := do
  let t ← peekPlaced
  match t.token with
  | .word value quote k =>
    let k := if quote.isNone then k else ""
    if k = "TRUE" ∨ k = "FALSE" ∨ k = "NULL" then return ⟨(← literal).1, .other⟩
    match ← keywordForm? G value k with
    | some form =>
      skip
      form
    | none =>
      skip
      let i := Ident.mk value quote
      match ← peek with
      | .symbol "(" => nameOrCall G i
      | .symbol "." => nameOrCall G i
      | .string kind _ =>
        if value.startsWith "_" ∧ [.single, .double, .hex].contains kind then
          return ⟨value ++ " " ++ (← literal).1, .other⟩
        else return ⟨i.text, if quote.isNone then .name value else .other⟩
      | _ => return ⟨i.text, if quote.isNone then .name value else .other⟩
  | .number _ _ => return ⟨(← literal).1, .other⟩
  | .string .escaped _ =>
    if ← dialectIn [.postgres, .generic] then return ⟨(← literal).1, .other⟩
    else expectedAt "an expression:" t
  | .string _ _ => return ⟨(← literal).1, .other⟩
  | .placeholder _ => return ⟨(← literal).1, .other⟩
  | .symbol y => symbolForm G t y
  | _ => expectedAt "an expression:" t

/-- A primary, with an optional collation. -/
def primary : Parse Expr := do
  match ← attempt (typedLiteral G) with
  | some e => return e
  | none =>
    let e ← untypedPrimary G
    match ← behind "COLLATE" name with
    | some collation => return ⟨e.text ++ " COLLATE " ++ collation, .other⟩
    | none => return e

/-- An expression whose operators bind tighter than the given strength. -/
def operandAbove (strength : Nat) : Parse Expr := do
  let first ← G.primary
  continueAbove G strength (← remaining) first

end SqlJob.Sql.Parse
