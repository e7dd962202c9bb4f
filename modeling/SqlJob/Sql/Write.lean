import SqlJob.Sql.Query

/-!
# Statements that write rows

`INSERT` with its forms in the dialects, `UPDATE`, `DELETE` and `MERGE`.
-/

namespace SqlJob.Sql.Parse

variable (G : Grammar)

/-- One assignment. -/
def assignment : Parse String := do
  let target ←
    if ← symbol "(" then
      let names ← list name
      expectSymbol ")"
      pure ("(" ++ commas names ++ ")")
    else name
  expectSymbol "="
  return target ++ " = " ++ (← expression G)

/-- Assignments with commas between them. -/
def assignments : Parse String := return commas (← list (assignment G))

/-- `RETURNING` with its select list behind a space, if it is there. -/
def returningClause : Parse String := do
  return lead " RETURNING " ((← behind "RETURNING" (list (selectItem G))).map commas)

/-- What an insert does about rows that are there already, in a dialect where that stands behind
`OR`. -/
def conflictResolution : Parse (Option String) := do
  if (← dialect) != .sqlite then return none
  for k in ["REPLACE", "ROLLBACK", "ABORT", "FAIL", "IGNORE"] do
    if ← keywords ("OR " ++ k) then return some k
  if ← keyword "REPLACE" then return some "REPLACE" else return none

/-- What an insert does on a conflict, behind a space. -/
def onConflict : Parse String := do
  if !(← keyword "ON") then return ""
  if ← keyword "CONFLICT" then
    let target ← do
      if ← keywords "ON CONSTRAINT" then pure (" ON CONSTRAINT " ++ (← name))
      else if ← atSymbol "(" then pure ("(" ++ commas (← columns false) ++ ")")
      else pure ""
    expectKeywords "DO"
    if ← keyword "NOTHING" then return " ON CONFLICT" ++ target ++ " DO NOTHING"
    expectKeywords "UPDATE"
    expectKeywords "SET"
    let changes ← assignments G
    return " ON CONFLICT" ++ target ++ " DO UPDATE SET " ++ changes ++ (← whereClause G)
  else
    expectKeywords "DUPLICATE"
    expectKeywords "KEY"
    expectKeywords "UPDATE"
    return " ON DUPLICATE KEY UPDATE " ++ (← assignments G)

/-- The partition an insert writes to, with a space behind. -/
def insertPartition : Parse String := do
  match ← behind "PARTITION" (parenthesized (list (expression G))) with
  | some items => return "PARTITION (" ++ commas items ++ ") "
  | none => return ""

/-- Columns in parentheses with a space behind, or nothing. -/
def columnsBefore (columns : List String) : String :=
  if columns.isEmpty then "" else "(" ++ commas columns ++ ") "

/-- What an insert writes: columns, partition and query, or nothing but defaults. -/
def insertSource : Parse String := do
  if ← keywords "DEFAULT VALUES" then return "DEFAULT VALUES"
  let d ← dialect
  let columns ← optionalColumns (d == .mysql)
  let partition ← insertPartition G
  let after ← if d == .hive then optionalColumns false else pure []
  return columnsBefore columns ++ partition ++ columnsBefore after ++ (← G.query)

/-- The name of the inserted row, behind a space. -/
def insertAlias : Parse String := do
  if ← inDialects [.mysql, .generic] (keyword "AS") then
    let row ← name
    return " AS " ++ row ++ columnsText (← optionalColumns false)
  else return ""

/-- An insert into files of a directory, behind the word. -/
def insertDirectory (front : String) : Parse Statement := do
  let path ← stringValue
  let format ←
    if ← keywords "STORED AS" then pure (" STORED AS " ++ (← ident).text) else pure ""
  return { text := front ++ "DIRECTORY '" ++ path ++ "'" ++ format ++ " " ++ (← G.query) }

/-- `INSERT` or `REPLACE` behind its word. -/
def insert (word : String) : Parse Statement := do
  let resolution ← conflictResolution
  let mysql ← dialectIn [.mysql, .generic]
  let priority ←
    if mysql then keywordIn ["LOW_PRIORITY", "DELAYED", "HIGH_PRIORITY"] else pure none
  let ignore ← if mysql then flag "IGNORE" else pure ""
  let into := lead " " (← keywordIn ["INTO", "OVERWRITE"])
  let local' ← flag "LOCAL"
  if ← keyword "DIRECTORY" then insertDirectory G ("INSERT" ++ into ++ local' ++ " ")
  else
    let tableWord ← flag "TABLE"
    let target ← name
    let called ←
      if (← dialect) == .postgres then
        pure (lead " AS " ((← behind "AS" ident).map (·.text)))
      else pure ""
    let source ← insertSource G
    let rowAlias ← insertAlias
    let conflict ← onConflict G
    let returning ← returningClause G
    let front :=
      match resolution with
      | some r => "INSERT OR " ++ r ++ " INTO "
      | none => word ++ lead " " priority ++ ignore ++ into ++ tableWord ++ " "
    return {
      text := front ++ target ++ called ++ " " ++ source ++ rowAlias ++ conflict ++ returning
      kind := .insert target }

/-- The dialects in which `UPDATE` takes a `FROM` clause. -/
def updateFromDialects : List Dialect :=
  [.generic, .postgres, .duckdb, .bigquery, .snowflake, .redshift, .mssql, .sqlite]

/-- `UPDATE` behind its word. -/
def update : Parse String := do
  let table ← G.joinedTable
  expectKeywords "SET"
  let changes ← assignments G
  let from' ←
    if (← keyword "FROM") && (← dialectIn updateFromDialects) then
      pure (" FROM " ++ (← G.joinedTable).text)
    else pure ""
  let condition ← whereClause G
  let returning ← returningClause G
  return "UPDATE " ++ table.text ++ " SET " ++ changes ++ from' ++ condition ++ returning

/-- `DELETE` behind its word. -/
def delete : Parse String := do
  let front ← do
    if ← keyword "FROM" then pure "FROM "
    else if ← dialectIn [.bigquery, .generic] then pure ""
    else
      let tables ← list name
      expectKeywords "FROM"
      pure (commas tables ++ " FROM ")
  let tables ← list (return (← G.joinedTable).text)
  let using' ← behind "USING" (list (return (← G.joinedTable).text))
  let condition ← whereClause G
  let returning ← returningClause G
  let order ← behind "ORDER BY" (list (orderItem G))
  let limit ←
    if ← keyword "LIMIT" then
      if ← keyword "ALL" then pure none else pure (some (← expression G))
    else pure none
  return "DELETE " ++ front ++ commas tables ++ lead " USING " (using'.map commas) ++ condition ++
    returning ++ lead " ORDER BY " (order.map commas) ++ lead " LIMIT " limit

/-- What a clause of `MERGE` does with a row. -/
def mergeAction (rows : String) : Parse String := do
  let absent := rows = "NOT MATCHED" ∨ rows = "NOT MATCHED BY TARGET"
  let refuse (word : String) : Parse String :=
    fail (word ++ " is not allowed in a " ++ rows ++ " merge clause")
  match ← keywordIn ["UPDATE", "INSERT", "DELETE"] with
  | some "UPDATE" =>
    if absent then refuse "UPDATE"
    else
      expectKeywords "SET"
      return "UPDATE SET " ++ (← assignments G)
  | some "DELETE" => if absent then refuse "DELETE" else return "DELETE"
  | some _ =>
    if !absent then refuse "INSERT"
    else
      let mysql := (← dialect) == .mysql
      let columns ← optionalColumns mysql
      if ← inDialects [.bigquery, .generic] (keyword "ROW") then
        return "INSERT " ++ columnsBefore columns ++ "ROW"
      expectKeywords "VALUES"
      return "INSERT " ++ columnsBefore columns ++ (← valuesRows G mysql)
  | none => fail "expected UPDATE, DELETE or INSERT in merge clause"

/-- One clause of `MERGE`, behind a space, unless the statement ends. -/
def mergeClause? : Parse (Option String) := do
  if (← peek) == .eof || (← atSymbol ";") then return none
  expectKeywords "WHEN"
  let negated ← keyword "NOT"
  expectKeywords "MATCHED"
  let rows ← do
    if !negated then pure "MATCHED"
    else if ← keywords "BY SOURCE" then pure "NOT MATCHED BY SOURCE"
    else if ← keywords "BY TARGET" then pure "NOT MATCHED BY TARGET"
    else pure "NOT MATCHED"
  let condition := lead " AND " (← behind "AND" (expression G))
  expectKeywords "THEN"
  return some (" WHEN " ++ rows ++ condition ++ " THEN " ++ (← mergeAction G rows))

/-- `MERGE` behind its word. -/
def merge : Parse String := do
  let into ← flag "INTO"
  let table ← tableFactor G
  expectKeywords "USING"
  let source ← tableFactor G
  expectKeywords "ON"
  let condition ← expression G
  let clauses ← many (mergeClause? G)
  return "MERGE" ++ into ++ " " ++ table.text ++ " USING " ++ source.text ++ " ON " ++ condition ++
    (if clauses.isEmpty then " " else String.join clauses)

/-- A query, in the place of whose body an insert or an update may stand. -/
def query : Parse String :=
  queryWith G do
    if ← keyword "INSERT" then return some (← insert G "INSERT").text
    else if ← keyword "UPDATE" then return some (← update G)
    else return none

end SqlJob.Sql.Parse
