import SqlJob.Sql.Definition

/-!
# Statements that change and drop things

`ALTER` and `DROP` with their kinds, and `TRUNCATE`.
-/

namespace SqlJob.Sql.Parse

variable (G : Grammar)

/-- Partitions between parentheses. -/
def partitionText : Parse String := do
  return "PARTITION (" ++ commas (← parenthesized (list (expression G))) ++ ")"

/-- Where a new column goes, behind a space. -/
def columnPosition : Parse String := do
  if !(← dialectIn [.mysql, .generic]) then return ""
  if ← keyword "FIRST" then return " FIRST"
  else return lead " AFTER " ((← behind "AFTER" ident).map (·.text))

/-- What is added to a table, behind `ADD`. -/
def addition : Parse String := do
  match ← tableConstraint? G with
  | some c => return "ADD " ++ c
  | none =>
    let absent ← ifNotExists
    let partitions ← many do
      if ← keyword "PARTITION" then return some (" " ++ (← partitionText G)) else return none
    if !partitions.isEmpty then return "ADD" ++ absent ++ String.join partitions
    let column ← flag "COLUMN"
    let absent ←
      if ← dialectIn [.postgres, .bigquery, .duckdb, .generic] then
        let again ← ifNotExists
        pure (if again.isEmpty then absent else again)
      else pure ""
    let definition ← columnDefinition G
    return "ADD" ++ column ++ absent ++ " " ++ definition ++ (← columnPosition)

/-- What is renamed, behind `RENAME`. -/
def nameChange : Parse String := do
  let pair (front : String) : Parse String := do
    let old ← ident
    expectKeywords "TO"
    return front ++ old.text ++ " TO " ++ (← ident).text
  if ← inDialects [.postgres] (keyword "CONSTRAINT") then pair "RENAME CONSTRAINT "
  else if ← keyword "TO" then return "RENAME TO " ++ (← name)
  else
    let _ ← keyword "COLUMN"
    pair "RENAME COLUMN "

/-- What is dropped from a table, behind `DROP`. -/
def removal : Parse String := do
  if ← keywords "IF EXISTS PARTITION" then
    return "DROP IF EXISTS PARTITION (" ++ commas (← parenthesized (list (expression G))) ++ ")"
  else if ← keyword "PARTITION" then
    return "DROP PARTITION (" ++ commas (← parenthesized (list (expression G))) ++ ")"
  else if ← keyword "CONSTRAINT" then
    let present ← ifExists
    let i ← ident
    return "DROP CONSTRAINT" ++ present ++ " " ++ i.text ++ (← flag "CASCADE")
  else if (← keywords "PRIMARY KEY") && (← dialectIn [.mysql, .generic]) then
    return "DROP PRIMARY KEY"
  else
    let _ ← keyword "COLUMN"
    let present ← ifExists
    let i ← ident
    return "DROP COLUMN" ++ present ++ " " ++ i.text ++ (← flag "CASCADE")

/-- What changes about a column, behind `ALTER`. -/
def columnChange : Parse String := do
  let _ ← keyword "COLUMN"
  let i ← ident
  let postgres := (← dialect) == .postgres
  let change ← do
    if ← keywords "SET NOT NULL" then pure "SET NOT NULL"
    else if ← keywords "DROP NOT NULL" then pure "DROP NOT NULL"
    else if ← keywords "SET DEFAULT" then pure ("SET DEFAULT " ++ (← expression G))
    else if ← keywords "DROP DEFAULT" then pure "DROP DEFAULT"
    else if ← orElse (keywords "SET DATA TYPE") (onlyIf postgres (keyword "TYPE")) then
      let t ← dataType G
      let using' ← if postgres then behind "USING" (expression G) else pure none
      pure ("SET DATA TYPE " ++ t.text ++ lead " USING " using')
    else if postgres then
      expected "SET/DROP NOT NULL, SET DEFAULT, SET DATA TYPE, or ADD GENERATED after ALTER COLUMN"
    else expected "SET/DROP NOT NULL, SET DEFAULT, or SET DATA TYPE after ALTER COLUMN"
  return "ALTER COLUMN " ++ i.text ++ " " ++ change

/-- A thing that is switched on or off, behind `ENABLE` or `DISABLE`. -/
def switching (word : String) : Parse String := do
  if ← keywords "ROW LEVEL SECURITY" then return word ++ " ROW LEVEL SECURITY"
  else if ← keyword "RULE" then return word ++ " RULE " ++ (← ident).text
  else if ← keyword "TRIGGER" then return word ++ " TRIGGER " ++ (← ident).text
  else if word = "ENABLE" then
    if ← keywords "ALWAYS RULE" then return "ENABLE ALWAYS RULE " ++ (← ident).text
    else if ← keywords "ALWAYS TRIGGER" then return "ENABLE ALWAYS TRIGGER " ++ (← ident).text
    else if ← keywords "REPLICA RULE" then return "ENABLE REPLICA RULE " ++ (← ident).text
    else if ← keywords "REPLICA TRIGGER" then return "ENABLE REPLICA TRIGGER " ++ (← ident).text
    else expected "ALWAYS, REPLICA, ROW LEVEL SECURITY, RULE, or TRIGGER after ENABLE"
  else expected "ROW LEVEL SECURITY, RULE, or TRIGGER after DISABLE"

/-- A column with a new definition, behind `CHANGE` or `MODIFY`. -/
def redefinition (word : String) : Parse String := do
  let _ ← keyword "COLUMN"
  let i ← ident
  let newName ← if word = "CHANGE" then pure (" " ++ (← ident).text) else pure ""
  let t ← dataType G
  let parts ← many do
    match ← columnOption? G with
    | some o => return some (" " ++ o)
    | none => return none
  return word ++ " COLUMN " ++ i.text ++ newName ++ " " ++ t.text ++ String.join parts ++
    (← columnPosition)

/-- One operation on a table. -/
def tableOperation : Parse String := do
  if ← keyword "ADD" then addition G
  else if ← keyword "RENAME" then nameChange
  else if ← keyword "DISABLE" then switching "DISABLE"
  else if ← keyword "ENABLE" then switching "ENABLE"
  else if ← keyword "DROP" then removal G
  else if ← keyword "PARTITION" then
    let before ← parenthesized (list (expression G))
    expectKeywords "RENAME TO PARTITION"
    let after ← parenthesized (list (expression G))
    return "PARTITION (" ++ commas before ++ ") RENAME TO PARTITION (" ++ commas after ++ ")"
  else if ← keyword "CHANGE" then redefinition G "CHANGE"
  else if ← keyword "MODIFY" then redefinition G "MODIFY"
  else if ← keyword "ALTER" then columnChange G
  else if ← keyword "SWAP" then
    expectKeywords "WITH"
    return "SWAP WITH " ++ (← name)
  else if ← inDialects [.postgres, .generic] (keywords "OWNER TO") then
    return "OWNER TO " ++ (← ident).text
  else
    match ← options G "SET TBLPROPERTIES" with
    | [] => expected "ADD, RENAME, PARTITION, SWAP, DROP, or SET TBLPROPERTIES after ALTER TABLE"
    | opts => return "SET TBLPROPERTIES(" ++ commas opts ++ ")"

/-- The place of a table's files, behind a space. -/
def tableLocation : Parse String := do
  if ← keyword "LOCATION" then return " LOCATION " ++ (← ident).text
  else if ← keywords "SET LOCATION" then return " SET LOCATION " ++ (← ident).text
  else return ""

/-- `ALTER` behind its word. -/
def alter : Parse String := do
  match ← expectKeywordIn ["VIEW", "TABLE", "INDEX", "ROLE"] with
  | "TABLE" =>
    let present ← ifExists
    let only ← flag "ONLY"
    let table ← name
    let cluster ← onCluster
    let operations ← list (tableOperation G)
    return "ALTER TABLE" ++ present ++ only ++ " " ++ table ++ cluster ++ " " ++
      commas operations ++ (← tableLocation)
  | "INDEX" =>
    let index ← name
    if ← keyword "RENAME" then
      if ← keyword "TO" then return "ALTER INDEX " ++ index ++ " RENAME TO " ++ (← name)
      else expected "TO"
    else expected "RENAME"
  | "VIEW" =>
    let view ← name
    let columns ← optionalColumns false
    let opts ← options G "WITH"
    expectKeywords "AS"
    return "ALTER VIEW " ++ view ++ columnsText columns ++ optionsText "WITH" opts ++ " AS " ++
      (← G.query)
  | _ =>
    match ← dialect with
    | .postgres =>
      let role ← ident
      if ← keywords "RENAME TO" then
        return "ALTER ROLE " ++ role.text ++ " RENAME TO " ++ (← ident).text
      let _ ← keyword "WITH"
      let words ← many do
        match ← keywordIn roleWords with
        | some k => return some k
        | none => return none
      if words.isEmpty then expected "'RENAME TO', 'SET', 'RESET' or role options"
      else return "ALTER ROLE " ++ role.text ++ " WITH " ++ String.intercalate " " words
    | .mssql =>
      let role ← ident
      if ← keywords "ADD MEMBER" then
        return "ALTER ROLE " ++ role.text ++ " ADD MEMBER " ++ (← ident).text
      else if ← keywords "DROP MEMBER" then
        return "ALTER ROLE " ++ role.text ++ " DROP MEMBER " ++ (← ident).text
      else if ← keywords "WITH NAME" then
        expectSymbol "="
        return "ALTER ROLE " ++ role.text ++ " WITH NAME = " ++ (← ident).text
      else expected "'ADD' or 'DROP' or 'WITH NAME'"
    | _ => fail "ALTER ROLE is only support for PostgreSqlDialect, MsSqlDialect"

/-- The kinds of things that are dropped by their names alone. -/
def droppable : List String := ["TABLE", "VIEW", "INDEX", "ROLE", "SCHEMA", "SEQUENCE", "STAGE"]

/-- A function or procedure that is dropped, with the types of its arguments. -/
def droppedFunction : Parse String := do
  let function ← name
  if ← symbol "(" then
    let args ← listBefore ")" (functionArgument G)
    expectSymbol ")"
    return function ++ "(" ++ commas args ++ ")"
  else return function

/-- `DROP` behind its word. -/
def drop : Parse String := do
  let temporary ←
    if ← dialectIn [.mysql, .generic, .duckdb] then flag "TEMPORARY" else pure ""
  if (← dialect) == .duckdb then
    let _ ← keyword "PERSISTENT"
  match ← keywordIn (droppable ++ ["FUNCTION", "PROCEDURE", "POLICY", "TRIGGER"]) with
  | none =>
    expected ("TABLE, VIEW, INDEX, ROLE, SCHEMA, FUNCTION, PROCEDURE, STAGE, TRIGGER, SECRET or " ++
      "SEQUENCE after DROP")
  | some kind =>
    if kind = "FUNCTION" ∨ kind = "PROCEDURE" then
      let present ← ifExists
      let functions ← list (droppedFunction G)
      return "DROP " ++ kind ++ present ++ " " ++ commas functions ++
        lead " " (← keywordIn ["CASCADE", "RESTRICT"])
    else if kind = "POLICY" then
      let present ← ifExists
      let policy ← ident
      expectKeywords "ON"
      let table ← name
      return "DROP POLICY" ++ present ++ " " ++ policy.text ++ " ON " ++ table ++
        lead " " (← keywordIn ["CASCADE", "RESTRICT"])
    else if kind = "TRIGGER" then
      if !(← dialectIn [.postgres, .generic]) then noSuchKind "DROP"
      let present ← ifExists
      let trigger ← name
      expectKeywords "ON"
      let table ← name
      return "DROP TRIGGER" ++ present ++ " " ++ trigger ++ " ON " ++ table ++
        lead " " (← keywordIn ["CASCADE", "RESTRICT"])
    else
      let present ← ifExists
      let names ← list name
      let place := (← peekPlaced).place
      let cascade ← flag "CASCADE"
      let restrict ← flag "RESTRICT"
      let purge ← flag "PURGE"
      if !cascade.isEmpty && !restrict.isEmpty then
        failAt "Cannot specify both CASCADE and RESTRICT in DROP" place
      if kind = "ROLE" ∧ !(cascade ++ restrict ++ purge).isEmpty then
        failAt "Cannot specify CASCADE, RESTRICT, or PURGE in DROP ROLE" place
      return "DROP" ++ temporary ++ " " ++ kind ++ present ++ " " ++ commas names ++ cascade ++
        restrict ++ purge

/-- `TRUNCATE` behind its word. -/
def truncate : Parse String := do
  let table ← flag "TABLE"
  let only ← flag "ONLY"
  let names ← list name
  let partitions ←
    if ← keyword "PARTITION" then
      pure (" PARTITION (" ++ commas (← parenthesized (list (expression G))) ++ ")")
    else pure ""
  let identity ←
    if ← dialectIn [.postgres, .generic] then
      let identity ← flag "RESTART IDENTITY"
      let identity ← if identity.isEmpty then flag "CONTINUE IDENTITY" else pure identity
      pure (identity ++ lead " " (← keywordIn ["CASCADE", "RESTRICT"]))
    else pure ""
  return "TRUNCATE" ++ table ++ only ++ " " ++ commas names ++ partitions ++ identity ++
    (← onCluster)

end SqlJob.Sql.Parse
