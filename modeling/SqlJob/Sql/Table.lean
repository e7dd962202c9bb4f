import SqlJob.Sql.Expression

/-!
# Tables of a query

What stands behind `FROM`: names of tables and calls of table functions, queries between
parentheses, joins, and joins between parentheses, all with optional aliases.
-/

namespace SqlJob.Sql.Parse

variable (G : Grammar)

/-- A query as a table, behind its opening parenthesis. -/
def derivedTable (front : String) : Parse TableRef := do
  let q ← G.query
  expectSymbol ")"
  return { text := front ++ "(" ++ q ++ ")" ++ (← tableAlias) }

/-- Arguments of a table function behind the opening parenthesis, with both parentheses. -/
def tableArguments : Parse String := do
  if ← symbol ")" then return "()"
  let args ← list (argument G)
  expectSymbol ")"
  return "(" ++ commas args ++ ")"

/-- `UNNEST` behind its word. -/
def unnestTable : Parse TableRef := do
  let arrays ← parenthesized (list (expression G))
  let ordinality ← flag "WITH ORDINALITY"
  let called ← tableAlias
  let offset ←
    if ← keywords "WITH OFFSET" then
      let name ← alias? notColumnAlias
      pure (" WITH OFFSET" ++ lead " AS " (name.map (·.text)))
    else pure ""
  return { text := "UNNEST(" ++ commas arrays ++ ")" ++ ordinality ++ called ++ offset }

/-- What is behind an opening parenthesis that starts no query: a join, or one more level of
parentheses. -/
def nestedJoin : Parse TableRef := do
  let inner ← G.joinedTable
  if inner.hasJoins || inner.isNestedJoin then
    expectSymbol ")"
    return { text := "(" ++ inner.text ++ ")" ++ (← tableAlias), isNestedJoin := true }
  else if ← dialectIn [.snowflake, .generic] then
    expectSymbol ")"
    return { text := inner.text ++ (← tableAlias) }
  else expected "joined table"

/-- The table of a version, behind a space. -/
def tableVersion : Parse String := do
  if ← inDialects [.bigquery, .mssql] (keywords "FOR SYSTEM_TIME AS OF") then
    return " FOR SYSTEM_TIME AS OF " ++ (← expression G)
  else return ""

/-- Hints between parentheses, behind a space. -/
def tableHints : Parse String := do
  let start ← get
  if ← keyword "WITH" then
    if ← symbol "(" then
      let hints ← list (expression G)
      expectSymbol ")"
      return " WITH (" ++ commas hints ++ ")"
    else
      set start
      return ""
  else return ""

/-- A table by its name, or a call of a table function. -/
def namedTable : Parse TableRef := do
  let table ← tableName
  let partitions ←
    if ← inDialects [.mysql, .generic] (keyword "PARTITION") then
      pure (" PARTITION (" ++ commas (← parenthesized (list (return (← ident).text))) ++ ")")
    else pure ""
  let version ← tableVersion G
  let args ← if ← symbol "(" then tableArguments G else pure ""
  let ordinality ← flag "WITH ORDINALITY"
  let called ← tableAlias
  let hints ← tableHints G
  return { text := table ++ partitions ++ args ++ ordinality ++ called ++ hints ++ version }

/-- One table of a `FROM` clause. -/
def tableFactor : Parse TableRef := do
  if ← keyword "LATERAL" then
    if ← symbol "(" then derivedTable G "LATERAL "
    else
      let function ← name
      expectSymbol "("
      let args ← tableArguments G
      return { text := "LATERAL " ++ function ++ args ++ (← tableAlias) }
  else if ← keyword "TABLE" then
    let e ← parenthesized (expression G)
    return { text := "TABLE(" ++ e ++ ")" ++ (← tableAlias) }
  else if ← symbol "(" then
    match ← attempt (derivedTable G "") with
    | some t => return t
    | none => nestedJoin G
  else if (← inDialects [.snowflake, .generic] (atKeyword "VALUES")) &&
      (← peekAt 1).token == .symbol "(" then
    let q ← G.queryBody 255
    return { text := "(" ++ q ++ ")" ++ (← tableAlias) }
  else if ← inDialects [.bigquery, .postgres, .generic] (keyword "UNNEST") then
    unnestTable G
  else namedTable G

/-- What joins a table to the ones before it, behind a space. -/
def joinConstraint (natural : Bool) : Parse String := do
  if natural then return ""
  else if ← keyword "ON" then return " ON " ++ (← expression G)
  else if ← keyword "USING" then return " USING(" ++ commas (← requiredColumns) ++ ")"
  else return ""

/-- The words of a join with a constraint, if one is next: the printed words. -/
def joinWords? (natural : Bool) : Parse (Option String) := do
  match ← peek with
  | .word _ none k =>
    if k = "INNER" ∨ k = "JOIN" then
      let _ ← keyword "INNER"
      expectKeywords "JOIN"
      return some "JOIN"
    else if k = "LEFT" ∨ k = "RIGHT" then
      skip
      match ← keywordIn ["OUTER", "SEMI", "ANTI", "JOIN"] with
      | some "JOIN" => return some (k ++ " JOIN")
      | some "OUTER" =>
        expectKeywords "JOIN"
        return some (k ++ " JOIN")
      | some side =>
        expectKeywords "JOIN"
        return some (k ++ " " ++ side ++ " JOIN")
      | none => fail ("expected OUTER, SEMI, ANTI or JOIN after " ++ k)
    else if k = "FULL" then
      skip
      let _ ← keyword "OUTER"
      expectKeywords "JOIN"
      return some "FULL JOIN"
    else if k = "OUTER" then expected "LEFT, RIGHT, or FULL"
    else other
  | _ => other
where
  other : Parse (Option String) := do
    if natural then expected "a join type after NATURAL" else return none

/-- One join, behind a space, if one is next. -/
def join? : Parse (Option String) := do
  let distributed ← flag "GLOBAL"
  if ← keyword "CROSS" then
    match ← keywordIn ["JOIN", "APPLY"] with
    | some word => return some (distributed ++ " CROSS " ++ word ++ " " ++ (← tableFactor G).text)
    | none => expected "JOIN or APPLY after CROSS"
  else if ← keyword "OUTER" then
    expectKeywords "APPLY"
    return some (distributed ++ " OUTER APPLY " ++ (← tableFactor G).text)
  else if ← keyword "ASOF" then
    expectKeywords "JOIN"
    let t ← tableFactor G
    expectKeywords "MATCH_CONDITION"
    let condition ← parenthesized (expression G)
    return some (distributed ++ " ASOF JOIN " ++ t.text ++ " MATCH_CONDITION (" ++ condition ++ ")" ++
      (← joinConstraint G false))
  else
    let natural ← keyword "NATURAL"
    match ← joinWords? natural with
    | none => return none
    | some words =>
      let t ← tableFactor G
      let constraint ← joinConstraint G natural
      return some (distributed ++ (if natural then " NATURAL " else " ") ++ words ++ " " ++ t.text ++
        constraint)

/-- A table and the joins behind it. -/
def joinedTable : Parse TableRef := do
  let first ← tableFactor G
  let joins ← many (join? G)
  if joins.isEmpty then return first
  else return { text := first.text ++ String.join joins, hasJoins := true }

end SqlJob.Sql.Parse
