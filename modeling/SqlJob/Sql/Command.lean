import SqlJob.Sql.Query

/-!
# Commands

The statements that neither query nor change data: transactions, cursors, prepared statements,
rights, settings, and commands on the session.
-/

namespace SqlJob.Sql.Parse

variable (G : Grammar)

/-! ### Transactions -/

/-- One mode of a transaction, if one is next. -/
def transactionMode? : Parse (Option String) := do
  if ← keywords "ISOLATION LEVEL" then
    for k in ["READ UNCOMMITTED", "READ COMMITTED", "REPEATABLE READ", "SERIALIZABLE"] do
      if ← keywords k then return some ("ISOLATION LEVEL " ++ k)
    expected "isolation level"
  else if ← keywords "READ ONLY" then return some "READ ONLY"
  else if ← keywords "READ WRITE" then return some "READ WRITE"
  else return none

/-- The modes of a transaction; the commas between them may be left out. -/
def transactionModes (needed : Bool) : Nat → Parse (List String)
  | 0 => return []
  | n + 1 => do
    match ← transactionMode? with
    | some m =>
      let comma ← symbol ","
      return m :: (← transactionModes comma n)
    | none => if needed then expected "transaction mode" else return []

/-- The modes of a transaction behind a space, or nothing. -/
def transactionModesText : Parse String := do
  let modes ← transactionModes false (← remaining)
  return if modes.isEmpty then "" else " " ++ commas modes

/-- `BEGIN` behind its word. -/
def beginTransaction : Parse String := do
  let modifier ←
    if ← dialectIn [.sqlite, .generic] then keywordIn ["DEFERRED", "IMMEDIATE", "EXCLUSIVE"]
    else pure none
  let _ ← keywordIn ["TRANSACTION", "WORK"]
  return "BEGIN" ++ lead " " modifier ++ " TRANSACTION" ++ (← transactionModesText)

/-- Whether another transaction follows, behind a space. -/
def chain : Parse String := do
  let _ ← keywordIn ["TRANSACTION", "WORK"]
  if ← keyword "AND" then
    let negated ← keyword "NO"
    expectKeywords "CHAIN"
    return if negated then "" else " AND CHAIN"
  else return ""

/-- `ROLLBACK` behind its word. -/
def rollback : Parse String := do
  let chained ← chain
  if ← keyword "TO" then
    let _ ← keyword "SAVEPOINT"
    return "ROLLBACK" ++ chained ++ " TO SAVEPOINT " ++ (← ident).text
  else return "ROLLBACK" ++ chained

/-! ### Cursors and prepared statements -/

/-- A number with an optional sign. -/
def count : Parse String := do
  match ← literal with
  | (n, .number) => return n
  | (p, .placeholder) => return p
  | _ =>
    modify (· - 1)
    expected "literal number"

/-- `FETCH` behind its word. -/
def fetch : Parse String := do
  let direction ←
    match ← keywordIn ["NEXT", "PRIOR", "FIRST", "LAST", "ALL", "ABSOLUTE", "RELATIVE", "FORWARD",
      "BACKWARD"] with
    | none => count
    | some k =>
      if k = "ABSOLUTE" ∨ k = "RELATIVE" then pure (k ++ " " ++ (← count))
      else if k = "FORWARD" ∨ k = "BACKWARD" then
        if ← keyword "ALL" then pure (k ++ " ALL") else pure (k ++ " " ++ (← count))
      else pure k
  let _ ← expectKeywordIn ["FROM", "IN"]
  let cursor := (← ident).text
  return "FETCH " ++ direction ++ " IN " ++ cursor ++ lead " INTO " (← behind "INTO" name)

/-- `DECLARE` behind its word. -/
def declareCursor : Parse String := do
  let i ← ident
  let binary ← flag "BINARY"
  let sensitive := lead " " (← keywordIn ["INSENSITIVE", "ASENSITIVE"])
  let scroll ← flag "NO SCROLL"
  let scroll ← if scroll.isEmpty then flag "SCROLL" else pure scroll
  expectKeywords "CURSOR"
  let hold ← flag "WITH HOLD"
  let hold ← if hold.isEmpty then flag "WITHOUT HOLD" else pure hold
  expectKeywords "FOR"
  return "DECLARE " ++ i.text ++ binary ++ sensitive ++ scroll ++ " CURSOR" ++ hold ++ " FOR " ++
    (← G.query)

/-- `EXECUTE` behind its word. -/
def executePrepared : Parse String := do
  let i ← ident
  if ← symbol "(" then
    let args ← list (expression G)
    expectSymbol ")"
    return "EXECUTE " ++ i.text ++ "(" ++ commas args ++ ")"
  else return "EXECUTE " ++ i.text

/-- `PREPARE` behind its word. -/
def prepare : Parse String := do
  let i ← ident
  let types ←
    if ← symbol "(" then
      let ts ← list (dataType G)
      expectSymbol ")"
      pure ("(" ++ commas (ts.map (·.text)) ++ ") ")
    else pure ""
  expectKeywords "AS"
  return "PREPARE " ++ i.text ++ " " ++ types ++ "AS " ++ (← G.statement).text

/-! ### Rights -/

/-- One right. -/
def privilege : Parse String := do
  match ← keywordIn ["CONNECT", "CREATE", "DELETE", "EXECUTE", "INSERT", "REFERENCES", "SELECT",
      "TEMPORARY", "TRIGGER", "TRUNCATE", "UPDATE", "USAGE"] with
  | none => expected "a privilege keyword"
  | some k =>
    if ["INSERT", "REFERENCES", "SELECT", "UPDATE"].contains k then
      return k ++ columnsText (← optionalColumns false)
    else return k

/-- Rights and the things they are about. -/
def privileges : Parse String := do
  let rights ←
    if ← keyword "ALL" then pure ("ALL" ++ (← flag "PRIVILEGES"))
    else pure (commas (← list privilege))
  expectKeywords "ON"
  for ks in ["ALL TABLES IN SCHEMA", "ALL SEQUENCES IN SCHEMA"] do
    if ← keywords ks then return rights ++ " ON " ++ ks ++ " " ++ commas (← list name)
  let kind ← keywordIn ["SEQUENCE", "SCHEMA", "TABLE"]
  let kind := kind.filter (· != "TABLE")
  return rights ++ " ON " ++ lead "" (kind.map (· ++ " ")) ++ commas (← list name)

/-- `GRANT` behind its word. -/
def grant : Parse String := do
  let rights ← privileges
  expectKeywords "TO"
  let grantees ← list (return (← ident).text)
  let option ← flag "WITH GRANT OPTION"
  let grantor := lead " GRANTED BY " ((← behind "GRANTED BY" ident).map (·.text))
  return "GRANT " ++ rights ++ " TO " ++ commas grantees ++ option ++ grantor

/-- `REVOKE` behind its word. -/
def revoke : Parse String := do
  let rights ← privileges
  expectKeywords "FROM"
  let grantees ← list (return (← ident).text)
  let grantor := lead " GRANTED BY " ((← behind "GRANTED BY" ident).map (·.text))
  let place := (← peekPlaced).place
  let cascade ← keyword "CASCADE"
  let restrict ← keyword "RESTRICT"
  if cascade && restrict then
    failAt "Cannot specify both CASCADE and RESTRICT in REVOKE" place
  return "REVOKE " ++ rights ++ " FROM " ++ commas grantees ++ grantor ++
    (if cascade then " CASCADE" else " RESTRICT")

/-! ### Settings -/

/-- The value of a pragma. -/
def pragmaValue : Parse String := do
  match ← literal with
  | (v, .other) =>
    modify (· - 1)
    let _ := v
    expected "number or string or ? placeholder"
  | (v, _) => return v

/-- `PRAGMA` behind its word. -/
def pragma : Parse String := do
  let p ← name
  if ← symbol "(" then
    let v ← pragmaValue
    expectSymbol ")"
    return "PRAGMA " ++ p ++ "(" ++ v ++ ")"
  else if ← symbol "=" then return "PRAGMA " ++ p ++ " = " ++ (← pragmaValue)
  else return "PRAGMA " ++ p

/-- The values of a variable. -/
def settingValues : Nat → Parse (List String)
  | 0 => return []
  | n + 1 => do
    let value ←
      if ← symbol "(" then
        if ← atQuery then
          let q ← G.query
          expectSymbol ")"
          pure ("(" ++ q ++ ")")
        else
          modify (· - 1)
          plain
      else plain
    if ← symbol "," then return value :: (← settingValues n) else return [value]
where
  plain : Parse String := do
    match ← attempt (expression G) with
    | some e => return e
    | none => expected "variable value"

/-- The role of the session, behind `SET` and its modifier. -/
def setRole (modifier : Option String) : Parse String := do
  expectKeywords "ROLE"
  let front := "SET " ++ lead "" (modifier.map (· ++ " ")) ++ "ROLE "
  if ← keyword "NONE" then return front ++ "NONE" else return front ++ (← ident).text

/-- `SET` behind its word. -/
def setVariable : Parse String := do
  let modifier ← keywordIn ["SESSION", "LOCAL", "HIVEVAR"]
  if modifier = some "HIVEVAR" then expectSymbol ":"
  else
    match ← attempt (setRole modifier) with
    | some text => return text
    | none => pure ()
  let front := if modifier = some "LOCAL" then "LOCAL " else
    if modifier = some "HIVEVAR" then "HIVEVAR:" else ""
  let variable' ← if ← keywords "TIME ZONE" then pure "TIMEZONE" else name
  let upper := variable'.map Char.toUpper
  if upper = "NAMES" ∧ (← dialectIn [.mysql, .generic]) then
    if ← keyword "DEFAULT" then return "SET NAMES DEFAULT"
    let charset ← stringValue
    let collation ← behind "COLLATE" stringValue
    return "SET NAMES " ++ charset ++ lead " COLLATE " collation
  if ← orElse (symbol "=") (keyword "TO") then
    return "SET " ++ front ++ variable' ++ " = " ++ commas (← settingValues G (← remaining))
  if upper = "TIMEZONE" then
    match ← attempt (expression G) with
    | some e => return "SET " ++ (if modifier = some "LOCAL" then "LOCAL " else "") ++ "TIME ZONE " ++ e
    | none => expected "timezone value"
  else if variable' = "CHARACTERISTICS" then
    expectKeywords "AS TRANSACTION"
    return "SET SESSION CHARACTERISTICS AS TRANSACTION" ++ (← transactionModesText)
  else if variable' = "TRANSACTION" ∧ modifier = none then
    if ← keyword "SNAPSHOT" then return "SET TRANSACTION SNAPSHOT " ++ (← literal).1
    else return "SET TRANSACTION" ++ (← transactionModesText)
  else expected "equals sign or TO"

/-- What the things to be shown are filtered by, behind a space. -/
def showFilter : Parse String := do
  if ← keyword "LIKE" then return " LIKE '" ++ (← stringValue) ++ "'"
  else if ← keyword "ILIKE" then return " ILIKE '" ++ (← stringValue) ++ "'"
  else if ← keyword "WHERE" then return " WHERE " ++ (← expression G)
  else return ""

/-- The words of a variable to be shown: all words up to the end or an equals sign. -/
def shownVariable : Parse String := do
  let words ← many do
    match ← peek with
    | .word value quote _ =>
      skip
      return some (some (Ident.mk value quote).text)
    | .eof => return none
    | .symbol "=" => return none
    | _ =>
      skip
      return some none
  return String.join ((words.filterMap id).map (" " ++ ·))

/-- `SHOW` behind its word. -/
def showThings : Parse String := do
  let extended ← flag "EXTENDED"
  let full ← flag "FULL"
  let session ← flag "SESSION"
  let global ← flag "GLOBAL"
  if (← keywordIn ["COLUMNS", "FIELDS"]).isSome then
    let _ ← expectKeywordIn ["FROM", "IN"]
    let table ← name
    let database ←
      if (← keywordIn ["FROM", "IN"]).isSome then pure ((← ident).text ++ ".") else pure ""
    return "SHOW" ++ extended ++ full ++ " COLUMNS FROM " ++ database ++ table ++ (← showFilter G)
  else if ← keyword "TABLES" then
    let database ←
      if (← keywordIn ["FROM", "IN"]).isSome then pure (" FROM " ++ (← ident).text) else pure ""
    return "SHOW" ++ extended ++ full ++ " TABLES" ++ database ++ (← showFilter G)
  else if ← keyword "FUNCTIONS" then return "SHOW FUNCTIONS" ++ (← showFilter G)
  else if !(extended ++ full).isEmpty then
    fail "EXTENDED/FULL are not supported with this type of SHOW query"
  else if ← keyword "CREATE" then
    let kind ← expectKeywordIn ["TABLE", "TRIGGER", "FUNCTION", "PROCEDURE", "EVENT", "VIEW"]
    return "SHOW CREATE " ++ kind ++ " " ++ (← name)
  else if ← keyword "COLLATION" then return "SHOW COLLATION" ++ (← showFilter G)
  else if (← keyword "VARIABLES") && (← dialectIn [.mysql, .generic]) then
    return "SHOW" ++ global ++ session ++ " VARIABLES" ++ (← showFilter G)
  else if (← keyword "STATUS") && (← dialectIn [.mysql, .generic]) then
    return "SHOW" ++ global ++ session ++ " STATUS" ++ (← showFilter G)
  else return "SHOW" ++ (← shownVariable)

/-! ### Other commands -/

/-- `KILL` behind its word. -/
def kill : Parse String := do
  let modifier ← keywordIn ["CONNECTION", "QUERY", "MUTATION"]
  let id ← natural
  if modifier = some "MUTATION" ∧ !(← dialectIn [.clickhouse, .generic]) then
    expected "Unsupported type for KILL, allowed: CONNECTION | QUERY"
  return "KILL " ++ lead "" (modifier.map (· ++ " ")) ++ id

/-- `DISCARD` behind its word. -/
def discard : Parse String := do
  match ← keywordIn ["ALL", "PLANS", "SEQUENCES", "TEMP", "TEMPORARY"] with
  | some "TEMPORARY" => return "DISCARD TEMP"
  | some k => return "DISCARD " ++ k
  | none => expected "ALL, PLANS, SEQUENCES, TEMP or TEMPORARY after DISCARD"

/-- `ANALYZE` behind its word. -/
def analyze : Parse String := do
  expectKeywords "TABLE"
  let table ← name
  let parts ← many do
    if ← keyword "PARTITION" then
      return some (" PARTITION (" ++ commas (← parenthesized (list (expression G))) ++ ")")
    else if ← keyword "NOSCAN" then return some " NOSCAN"
    else if ← keyword "FOR" then
      expectKeywords "COLUMNS"
      let columns ← attempt (list (return (← ident).text))
      return some (" FOR COLUMNS" ++ lead " " (columns.map commas))
    else if ← keyword "CACHE" then
      expectKeywords "METADATA"
      return some " CACHE METADATA"
    else if ← keyword "COMPUTE" then
      expectKeywords "STATISTICS"
      return some " COMPUTE STATISTICS"
    else return none
  return "ANALYZE TABLE " ++ table ++ String.join parts

/-- `ATTACH` behind its word. -/
def attach : Parse String := do
  let word ← flag "DATABASE"
  if (← dialect) == .duckdb then
    let absent ← ifNotExists
    let file := (← ident).text
    let called := lead " AS " ((← behind "AS" ident).map (·.text))
    return "ATTACH" ++ word ++ absent ++ " " ++ file ++ called
  let file ← expression G
  expectKeywords "AS"
  return "ATTACH" ++ word ++ " " ++ file ++ " AS " ++ (← ident).text

/-- `DETACH` behind its word. -/
def detach : Parse String := do
  let word ← flag "DATABASE"
  let present ← ifExists
  return "DETACH" ++ word ++ present ++ " " ++ (← ident).text

/-- `CALL` behind its word. -/
def callProcedure : Parse String := do
  let procedure ← name
  if ← atSymbol "(" then return "CALL " ++ (← call G (interval G) procedure).text
  else return "CALL " ++ procedure

/-- `ASSERT` behind its word. -/
def assert : Parse String := do
  let e ← expression G
  return "ASSERT " ++ e ++ lead " AS " (← behind "AS" (expression G))

/-- One option of `COPY`. -/
def copyOption : Parse String := do
  let t ← next
  match t.token with
  | .word value _ _ =>
    match ← peek with
    | .symbol "(" => return value ++ " (" ++ commas (← columns false) ++ ")"
    | .symbol "," => return value
    | .symbol ")" => return value
    | .symbol "*" =>
      skip
      return value ++ " *"
    | .string .single s =>
      skip
      return value ++ " '" ++ s ++ "'"
    | _ => return value ++ " " ++ (← next).token.text
  | _ => expectedAt "option" t

/-- Reads the rows that follow a statement, up to their end mark or the end of the text. -/
def skipRows : Parse Unit := do
  let _ ← many do
    match ← peek with
    | .eof => return none
    | .symbol "\\" =>
      skip
      if ← symbol "." then return none else return some ()
    | _ =>
      skip
      return some ()

/-- `COPY` behind its word. -/
def copy : Parse String := do
  let isQuery ← atSymbol "("
  let source ←
    if isQuery then subquery G
    else
      let table ← name
      pure (table ++ columnsText (← optionalColumns false))
  let direction ←
    match ← keywordIn ["FROM", "TO"] with
    | some k => pure k
    | none => expected "FROM or TO"
  if direction = "FROM" ∧ isQuery then fail "COPY ... FROM does not support query as a source"
  let stdin ← keyword "STDIN"
  let target ← do
    if stdin then pure "STDIN"
    else if ← keyword "STDOUT" then pure "STDOUT"
    else if ← keyword "PROGRAM" then pure ("PROGRAM '" ++ (← stringValue) ++ "'")
    else pure ("'" ++ (← stringValue) ++ "'")
  let _ ← keyword "WITH"
  let opts ←
    if ← symbol "(" then
      let os ← list copyOption
      expectSymbol ")"
      pure (" (" ++ commas os ++ ")")
    else pure ""
  let legacy ← many do
    match ← keywordIn ["BINARY", "CSV", "DELIMITER", "NULL", "HEADER"] with
    | some "DELIMITER" =>
      let _ ← keyword "AS"
      return some (" DELIMITER " ++ (← plainStringText))
    | some "NULL" =>
      let _ ← keyword "AS"
      return some (" NULL " ++ (← plainStringText))
    | some k => return some (" " ++ k)
    | none => return none
  if stdin then
    expectSymbol ";"
    skipRows
  return "COPY " ++ source ++ " " ++ direction ++ " " ++ target ++ opts ++ String.join legacy

/-- `UNLOAD` behind its word. -/
def unload : Parse String := do
  let q ← subquery G
  expectKeywords "TO"
  let target ← ident
  let opts := (← behind "WITH" (parenthesized (list do
    let i ← ident
    expectSymbol "="
    return i.text ++ " = " ++ (← expression G)))).getD []
  return "UNLOAD" ++ q ++ " TO " ++ target.text ++
    (if opts.isEmpty then "" else " WITH (" ++ commas opts ++ ")")

/-- `OPTIMIZE` behind its word. -/
def optimize : Parse String := do
  expectKeywords "TABLE"
  let table ← name
  let final ← flag "FINAL"
  let once ←
    if ← keyword "DEDUPLICATE" then
      pure (" DEDUPLICATE" ++ lead " BY " (← behind "BY" (expression G)))
    else pure ""
  return "OPTIMIZE TABLE " ++ table ++ final ++ once

/-- `COMMENT` behind its word. -/
def commentOn : Parse String := do
  let present ← ifExists
  expectKeywords "ON"
  let kind ← expectKeywordIn ["COLUMN", "TABLE", "EXTENSION", "SCHEMA", "DATABASE", "USER", "ROLE"]
  let thing ← name
  expectKeywords "IS"
  let text ← if ← keyword "NULL" then pure "NULL" else plainStringText
  return "COMMENT" ++ present ++ " ON " ++ kind ++ " " ++ thing ++ " IS " ++ text

/-- `MSCK` behind its word. -/
def repairTable : Parse String := do
  let repair ← flag "REPAIR"
  expectKeywords "TABLE"
  let table ← name
  let action ← keywordIn ["ADD", "DROP", "SYNC"]
  match action with
  | some a =>
    expectKeywords "PARTITIONS"
    return "MSCK" ++ repair ++ " TABLE " ++ table ++ " " ++ a ++ " PARTITIONS"
  | none => return "MSCK" ++ repair ++ " TABLE " ++ table

/-- `CACHE` behind its word. -/
def cacheTable : Parse String := do
  let mode ← if ← atKeyword "TABLE" then pure none else some <$> name
  expectKeywords "TABLE"
  let table ← name
  let query ← do
    if ← keyword "AS" then pure (" AS " ++ (← G.query))
    else if ← atQuery then pure (" " ++ (← G.query))
    else pure ""
  return "CACHE " ++ lead "" (mode.map (· ++ " ")) ++ "TABLE " ++ table ++ query

/-- `UNCACHE` behind its word. -/
def uncacheTable : Parse String := do
  if ← keyword "TABLE" then
    let present ← ifExists
    return "UNCACHE TABLE" ++ present ++ " " ++ (← name)
  else expected "a `TABLE` keyword"

/-- Locks on tables, behind `LOCK TABLES`. -/
def lockTables : Parse String := do
  let locks ← list do
    let table ← ident
    let called := lead " AS " ((← behind "AS" ident).map (·.text))
    let kind ← do
      if ← keyword "READ" then
        let l ← flag "LOCAL"
        pure ("READ" ++ l)
      else if ← keywords "LOW_PRIORITY WRITE" then pure "LOW_PRIORITY WRITE"
      else if ← keyword "WRITE" then pure "WRITE"
      else expected "an lock type in LOCK TABLES"
    return table.text ++ called ++ " " ++ kind
  return "LOCK TABLES " ++ commas locks

end SqlJob.Sql.Parse
