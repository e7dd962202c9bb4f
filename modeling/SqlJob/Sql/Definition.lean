import SqlJob.Sql.Column
import SqlJob.Sql.Write

/-!
# Statements that define things

`CREATE` with its kinds: tables, views, indexes, schemas, sequences, types and the rest. Which
kinds there are depends on the dialect.
-/

namespace SqlJob.Sql.Parse

variable (G : Grammar)

/-- The words between `CREATE` and the kind of the thing. -/
structure CreateWords where
  orReplace : Bool := false
  orAlter : Bool := false
  /-- `LOCAL` or `GLOBAL`. -/
  scope : Option String := none
  transient : Bool := false
  temporary : Bool := false

/-- A word with a space behind, if the condition holds. -/
def wordIf (b : Bool) (word : String) : String := if b then word ++ " " else ""

/-- The words between `CREATE` and the kind of the thing. -/
def createWords : Parse CreateWords := do
  let orReplace ← keywords "OR REPLACE"
  let orAlter ← keywords "OR ALTER"
  let local' ← keyword "LOCAL"
  let global ← keyword "GLOBAL"
  let transient ← keyword "TRANSIENT"
  let temporary := (← keywordIn ["TEMP", "TEMPORARY"]).isSome
  if (← dialect) == .duckdb then
    let _ ← keyword "PERSISTENT"
  return {
    orReplace, orAlter, transient, temporary
    scope := if global then some "GLOBAL" else if local' then some "LOCAL" else none }

/-- How a table is stored, in the words of Hive. -/
structure TableStorage where
  /-- What is written in front of the options, each part behind a space. -/
  formats : String := ""
  /-- The format of the files. -/
  fileFormat : Option String := none
  location : Option String := none

/-- The names of file formats. -/
def fileFormats : List String :=
  ["AVRO", "JSONFILE", "ORC", "PARQUET", "RCFILE", "SEQUENCEFILE", "TEXTFILE"]

/-- The name of a file format. -/
def fileFormat : Parse String := do
  match ← keywordIn fileFormats with
  | some f => return f
  | none => expected "fileformat"

/-- One clause on the storage of a table, if one is next. -/
def storageStep (found : TableStorage) : Parse (Option TableStorage) := do
  if ← keywords "ROW FORMAT" then
    if ← keyword "SERDE" then
      return some { found with
        formats := found.formats ++ " ROW FORMAT SERDE '" ++ (← stringValue) ++ "'" }
    else
      expectKeywords "DELIMITED"
      let parts ← many delimiter?
      return some { found with formats := found.formats ++ " ROW FORMAT DELIMITED" ++ String.join parts }
  else if ← keywords "STORED AS" then
    if ← keyword "INPUTFORMAT" then
      let input ← expression G
      expectKeywords "OUTPUTFORMAT"
      let output ← expression G
      return some { found with
        formats := found.formats ++ " STORED AS INPUTFORMAT " ++ input ++ " OUTPUTFORMAT " ++ output }
    else return some { found with fileFormat := some (← fileFormat) }
  else if ← keyword "LOCATION" then return some { found with location := some (← stringValue) }
  else
    match ← options G "WITH SERDEPROPERTIES" with
    | [] => return none
    | os => return some { found with
        formats := found.formats ++ " WITH SERDEPROPERTIES (" ++ commas os ++ ")" }
where
  delimiter? : Parse (Option String) := do
    for ks in ["FIELDS TERMINATED BY", "ESCAPED BY", "COLLECTION ITEMS TERMINATED BY",
        "MAP KEYS TERMINATED BY", "LINES TERMINATED BY", "NULL DEFINED AS"] do
      if ← keywords ks then return some (" " ++ ks ++ " " ++ (← ident).text)
    return none

/-- The clauses on the storage of a table. -/
def storage (found : TableStorage) : Nat → Parse TableStorage
  | 0 => return found
  | n + 1 => do
    match ← storageStep G found with
    | some found => storage found n
    | none => return found

/-- How rows are spread over files, behind a space. -/
def distribution : Parse String := do
  let partitions ←
    if ← keywords "PARTITIONED BY" then
      pure (" PARTITIONED BY (" ++ commas (← parenthesized (list (columnDefinition G))) ++ ")")
    else pure ""
  let clusters ←
    if ← keywords "CLUSTERED BY" then
      let columns ← requiredColumns
      let sorted ←
        if ← keywords "SORTED BY" then
          pure (" SORTED BY (" ++ commas (← parenthesized (list (orderItem G))) ++ ")")
        else pure ""
      expectKeywords "INTO"
      let n := (← literal).1
      expectKeywords "BUCKETS"
      pure (" CLUSTERED BY (" ++ commas columns ++ ")" ++ sorted ++ " INTO " ++ n ++ " BUCKETS")
    else pure ""
  return partitions ++ clusters

/-- A keyword, an equals sign and a word, behind a space. -/
def wordSetting (ks : String) : Parse String := do
  if !(← keywords ks) then return ""
  expectSymbol "="
  let t ← next
  match t.token with
  | .word value _ _ => return " " ++ ks ++ "=" ++ value
  | _ => expectedAt "identifier" t

/-- A comment on a table, behind a space. -/
def tableComment : Parse String := do
  if !(← keyword "COMMENT") then return ""
  let eq ← symbol "="
  let t ← next
  match t.token with
  | .string .single value => return (if eq then " COMMENT = '" else " COMMENT '") ++ value ++ "'"
  | _ => expectedAt "comment" t

/-- The storage engine of a table, behind a space. -/
def tableEngine : Parse String := do
  if !(← keyword "ENGINE") then return ""
  expectSymbol "="
  let t ← next
  match t.token with
  | .word value _ _ =>
    let parameters ←
      if ← atSymbol "(" then
        pure ("(" ++ commas (← parenthesized (listBefore ")" (return (← ident).text))) ++ ")")
      else pure ""
    return " ENGINE=" ++ value ++ parameters
  | _ => expectedAt "identifier" t

/-- How a table is partitioned and clustered, behind a space. -/
def tablePartition : Parse String := do
  if !(← dialectIn [.bigquery, .postgres, .generic]) then return ""
  let partition := lead " PARTITION BY " (← behind "PARTITION BY" (expression G))
  if !(← dialectIn [.bigquery, .generic]) then return partition
  let cluster ←
    if ← keywords "CLUSTER BY" then pure (" CLUSTER BY " ++ commas (← list (expression G)))
    else pure ""
  let opts ← options G "OPTIONS"
  return partition ++ cluster ++ (if opts.isEmpty then "" else " OPTIONS(" ++ commas opts ++ ")")

/-- What becomes of the rows of a temporary table, behind a space. -/
def onCommit : Parse String := do
  if !(← keywords "ON COMMIT") then return ""
  for k in ["DELETE ROWS", "PRESERVE ROWS", "DROP"] do
    if ← keywords k then return " ON COMMIT " ++ k
  fail "Expecting DELETE ROWS, PRESERVE ROWS or DROP"

/-- The order of a table's rows, behind a space. -/
def tableOrder : Parse String := do
  if !(← keywords "ORDER BY") then return ""
  if ← symbol "(" then
    let items ← listBefore ")" (expression G)
    expectSymbol ")"
    return " ORDER BY (" ++ commas items ++ ")"
  else return " ORDER BY " ++ (← expression G)

/-- Options behind a space and keywords, if there are any. -/
def optionsText (ks : String) (opts : List String) : String :=
  if opts.isEmpty then "" else " " ++ ks ++ " (" ++ commas opts ++ ")"

/-- The cluster a definition is for, behind a space. -/
def onCluster : Parse String := do
  if ← keywords "ON CLUSTER" then return " ON CLUSTER " ++ (← ident).text else return ""

/-- The query a table is made from, if there is one. -/
def tableQuery : Parse String := do
  if ← keyword "AS" then return " AS " ++ (← G.query)
  else if ← inDialects [.mysql] (atKeyword "SELECT") then return " AS " ++ (← G.query)
  else return ""

/-- `CREATE TABLE` behind its words. -/
def createTable (w : CreateWords) : Parse Statement := do
  let d ← dialect
  let absent ← ifNotExists
  let table ← tableName
  let cluster ← onCluster
  let like ← if ← orElse (keyword "LIKE") (keyword "ILIKE") then attempt tableName else pure none
  let clone ← if ← keyword "CLONE" then attempt tableName else pure none
  let (columns, constraints) ← tableColumns G
  let hiveComment ← if d == .hive then tableComment else pure ""
  let withoutRowid ← flag "WITHOUT ROWID"
  let spread ← distribution G
  let found ← storage G {} (← remaining)
  let withOptions ← options G "WITH"
  let properties ← options G "TBLPROPERTIES"
  let engine ← tableEngine
  let increment ←
    if ← keyword "AUTO_INCREMENT" then
      let _ ← symbol "="
      pure (" AUTO_INCREMENT " ++ (← natural))
    else pure ""
  let key ←
    if ← inDialects [.clickhouse, .generic] (keywords "PRIMARY KEY") then
      pure (" PRIMARY KEY " ++ (← expression G))
    else pure ""
  let order ← tableOrder G
  let partition ← tablePartition G
  let charset ← wordSetting "DEFAULT CHARSET"
  let collate ← wordSetting "COLLATE"
  let commit ← onCommit
  let strict ← flag "STRICT"
  let comment ← if d == .hive then pure "" else tableComment
  let query ← tableQuery G
  let parts := columns ++ constraints
  let body :=
    if !parts.isEmpty then " (" ++ commas parts ++ ")"
    else if query.isEmpty && like.isNone && clone.isNone then " ()"
    else ""
  return {
    kind := .createTable
    text := "CREATE " ++ wordIf w.orReplace "OR REPLACE" ++ lead "" (w.scope.map (· ++ " ")) ++
      wordIf w.temporary "TEMPORARY" ++ wordIf w.transient "TRANSIENT" ++ "TABLE" ++ absent ++
      " " ++ table ++ cluster ++ body ++ hiveComment ++ withoutRowid ++ lead " LIKE " like ++
      lead " CLONE " clone ++ spread ++ found.formats ++ lead " STORED AS " found.fileFormat ++
      lead " LOCATION '" (found.location.map (· ++ "'")) ++ optionsText "TBLPROPERTIES" properties ++
      optionsText "WITH" withOptions ++ engine ++ comment ++ increment ++ key ++ order ++
      partition ++ charset ++ collate ++ commit ++ strict ++ query }

/-- `CREATE EXTERNAL TABLE` behind its words. -/
def createExternalTable (w : CreateWords) : Parse Statement := do
  expectKeywords "TABLE"
  let absent ← ifNotExists
  let table ← name
  let (columns, constraints) ← tableColumns G
  let spread ← distribution G
  let found ← storage G {} (← remaining)
  let properties ← options G "TBLPROPERTIES"
  let parts := columns ++ constraints
  return {
    kind := .createTable
    text := "CREATE " ++ wordIf w.orReplace "OR REPLACE" ++ "EXTERNAL TABLE" ++ absent ++ " " ++
      table ++ (if parts.isEmpty then " ()" else " (" ++ commas parts ++ ")") ++ spread ++
      found.formats ++ lead " STORED AS " found.fileFormat ++
      lead " LOCATION '" (found.location.map (· ++ "'")) ++
      optionsText "TBLPROPERTIES" properties }

/-- `CREATE VIEW` from the word `MATERIALIZED` or `VIEW` on. -/
def createView (w : CreateWords) : Parse String := do
  let materialized ← keyword "MATERIALIZED"
  expectKeywords "VIEW"
  let absent ← if ← dialectIn [.bigquery, .sqlite, .generic] then ifNotExists else pure ""
  let view ← tableName
  let columns ←
    if ← symbol "(" then
      let cs ← listBefore ")" do
        let i ← ident
        if (← dialect) == .clickhouse then
          match ← attempt (dataType G) with
          | some t => return i.text ++ " " ++ t.text
          | none => return i.text
        else return i.text
      expectSymbol ")"
      pure cs
    else pure []
  let withOptions ← options G "WITH"
  let cluster ←
    if ← keyword "CLUSTER" then
      expectKeywords "BY"
      pure (← optionalColumns false)
    else pure []
  let opts ← if ← dialectIn [.bigquery, .generic] then options G "OPTIONS" else pure []
  let target ←
    if ← dialectIn [.clickhouse, .generic] then
      pure (lead " TO " (← behind "TO" name))
    else pure ""
  let comment ← if ← dialectIn [.snowflake, .generic] then tableComment else pure ""
  expectKeywords "AS"
  let q ← G.query
  let late ← if ← dialectIn [.redshift, .generic] then flag "WITH NO SCHEMA BINDING" else pure ""
  return "CREATE " ++ wordIf w.orReplace "OR REPLACE" ++ wordIf materialized "MATERIALIZED" ++
    wordIf w.temporary "TEMPORARY" ++ "VIEW" ++ absent ++ " " ++ view ++ target ++
    columnsText columns ++ optionsText "WITH" withOptions ++ comment ++
    (if cluster.isEmpty then "" else " CLUSTER BY (" ++ commas cluster ++ ")") ++
    (if opts.isEmpty then "" else " OPTIONS(" ++ commas opts ++ ")") ++ " AS " ++ q ++ late

/-- `CREATE INDEX` behind its words. -/
def createIndex (unique : Bool) : Parse String := do
  let concurrently ← flag "CONCURRENTLY"
  let absent ← ifNotExists
  let index ←
    if ← onlyIf absent.isEmpty (keyword "ON") then pure ""
    else
      let i ← name
      expectKeywords "ON"
      pure (i ++ " ")
  let table ← name
  let method ← behind "USING" (return (← ident).text)
  let columns ← parenthesized (list (orderItem G))
  let included ←
    if ← keyword "INCLUDE" then
      let cs ← parenthesized (list (return (← ident).text))
      pure (" INCLUDE (" ++ String.intercalate "," cs ++ ")")
    else pure ""
  let nulls ←
    if ← keyword "NULLS" then
      let negated ← flag "NOT"
      expectKeywords "DISTINCT"
      pure (" NULLS" ++ negated ++ " DISTINCT")
    else pure ""
  let parameters ←
    if ← inDialects [.postgres, .generic] (keyword "WITH") then
      pure (" WITH (" ++ commas (← parenthesized (list (expression G))) ++ ")")
    else pure ""
  let condition ← whereClause G
  return "CREATE " ++ wordIf unique "UNIQUE" ++ "INDEX" ++ concurrently ++ absent ++ " " ++ index ++
    "ON " ++ table ++ lead " USING " (method.map (· ++ " ")) ++ "(" ++
    String.intercalate "," columns ++ ")" ++ included ++ nulls ++ parameters ++ condition

/-- `CREATE VIRTUAL TABLE` behind the word `VIRTUAL`. -/
def createVirtualTable : Parse String := do
  expectKeywords "TABLE"
  let absent ← ifNotExists
  let table ← name
  expectKeywords "USING"
  let module := (← ident).text
  return "CREATE VIRTUAL TABLE" ++ absent ++ " " ++ table ++ " USING " ++ module ++
    columnsText (← optionalColumns false)

/-- `CREATE SCHEMA` behind its words. -/
def createSchema : Parse String := do
  let absent ← ifNotExists
  let schema ←
    if ← keyword "AUTHORIZATION" then pure ("AUTHORIZATION " ++ (← ident).text)
    else
      let n ← name
      pure (n ++ lead " AUTHORIZATION " ((← behind "AUTHORIZATION" ident).map (·.text)))
  return "CREATE SCHEMA" ++ absent ++ " " ++ schema

/-- `CREATE DATABASE` behind its words. -/
def createDatabase : Parse String := do
  let absent ← ifNotExists
  let database ← name
  let places ← many do
    match ← keywordIn ["LOCATION", "MANAGEDLOCATION"] with
    | some k => return some (" " ++ k ++ " " ++ (← plainStringText))
    | none => return none
  return "CREATE DATABASE" ++ absent ++ " " ++ database ++ String.join places

/-- The words that may follow a role. -/
def roleWords : List String := [
  "BYPASSRLS", "NOBYPASSRLS", "CREATEDB", "NOCREATEDB", "CREATEROLE", "NOCREATEROLE", "INHERIT",
  "NOINHERIT", "LOGIN", "NOLOGIN", "REPLICATION", "NOREPLICATION", "SUPERUSER", "NOSUPERUSER"]

/-- `CREATE ROLE` behind its words. -/
def createRole : Parse String := do
  let absent ← ifNotExists
  let names ← list name
  let _ ← keyword "WITH"
  let words ←
    match ← dialect with
    | .mssql =>
      if ← keyword "AUTHORIZATION" then pure [" AUTHORIZATION " ++ (← name)] else pure []
    | .postgres =>
      many do
        match ← keywordIn roleWords with
        | some k => return some (" " ++ k)
        | none =>
          if ← keyword "PASSWORD" then return some (" PASSWORD " ++ (← expression G)) else return none
    | _ => pure []
  return "CREATE ROLE" ++ absent ++ " " ++ commas names ++ String.join words

/-- `CREATE SEQUENCE` behind its words. -/
def createSequence (temporary : Bool) : Parse String := do
  let absent ← ifNotExists
  let sequence ← name
  let type ← behind "AS" (dataType G)
  let opts ← sequenceOptions G
  let owner ←
    if ← keywords "OWNED BY" then
      if ← keyword "NONE" then pure " OWNED BY NONE" else pure (" OWNED BY " ++ (← name))
    else pure ""
  return "CREATE " ++ wordIf temporary "TEMPORARY" ++ "SEQUENCE" ++ absent ++ " " ++ sequence ++
    lead " AS " (type.map (·.text)) ++ opts ++ owner

/-- `CREATE TYPE` behind its words. -/
def createType : Parse String := do
  let type ← name
  expectKeywords "AS"
  if ← keyword "ENUM" then
    let labels ← parenthesized (listBefore ")" (return (← ident).text))
    return "CREATE TYPE " ++ type ++ " AS ENUM (" ++ commas labels ++ ")"
  let fields ← parenthesized (listBefore ")" do
    let i ← ident
    let t ← dataType G
    return i.text ++ " " ++ t.text ++ lead " COLLATE " (← behind "COLLATE" name))
  return "CREATE TYPE " ++ type ++ " AS (" ++ commas fields ++ ")"

/-- `CREATE EXTENSION` behind its words. -/
def createExtension : Parse String := do
  let absent ← ifNotExists
  let i ← ident
  if ← keyword "WITH" then
    let schema := lead " SCHEMA " ((← behind "SCHEMA" ident).map (·.text))
    let version := lead " VERSION " ((← behind "VERSION" ident).map (·.text))
    let cascade ← flag "CASCADE"
    return "CREATE EXTENSION" ++ absent ++ " " ++ i.text ++
      (if (schema ++ version ++ cascade).isEmpty then "" else " WITH" ++ schema ++ version ++ cascade)
  else return "CREATE EXTENSION" ++ absent ++ " " ++ i.text

/-- At most so many statements with semicolons between them. A statement with none behind it needs an
end: that of the text, or the word `END`. -/
def statementsFrom : Nat → Bool → Parse (List Statement)
  | 0, _ => return []
  | n + 1, needsEnd => do
    let skipped ← many do
      if ← symbol ";" then return some () else return none
    let needsEnd := needsEnd && skipped.isEmpty
    let t ← peek
    if t == .eof then return []
    else if needsEnd && t.isKeyword "END" then return []
    else if needsEnd then expected "end of statement"
    else
      let s ← G.statement
      return s :: (← statementsFrom n true)

/-- Statements with semicolons between them. -/
def statements : Parse (List Statement) := do
  statementsFrom G ((← remaining) + 1) false

/-- `CREATE PROCEDURE` behind its words. -/
def createProcedure (orAlter : Bool) : Parse String := do
  let procedure ← name
  let parameters ←
    if ← symbol "(" then
      let ps ← listBefore ")" do
        let i ← ident
        return i.text ++ " " ++ (← dataType G).text
      expectSymbol ")"
      pure (" (" ++ commas ps ++ ")")
    else pure ""
  expectKeywords "AS"
  expectKeywords "BEGIN"
  let body ← statements G
  expectKeywords "END"
  return "CREATE " ++ wordIf orAlter "OR ALTER" ++ "PROCEDURE " ++ procedure ++ parameters ++
    " AS BEGIN " ++ String.intercalate "; " (body.map (·.text)) ++ " END"

/-- An argument of a function. -/
def functionArgument : Parse String := do
  let mode ← keywordIn ["IN", "OUT", "INOUT"]
  let t ← dataType G
  let named ← attempt (dataType G)
  let text :=
    match named with
    | some t' => t.text ++ " " ++ t'.text
    | none => t.text
  let value ←
    if ← orElse (keyword "DEFAULT") (symbol "=") then pure (" = " ++ (← expression G)) else pure ""
  return lead "" (mode.map (· ++ " ")) ++ text ++ value

/-- One clause of a function's definition, behind a space, if one is next. -/
def functionClause? : Parse (Option String) := do
  for ks in ["IMMUTABLE", "STABLE", "VOLATILE", "CALLED ON NULL INPUT", "RETURNS NULL ON NULL INPUT",
      "STRICT", "PARALLEL UNSAFE", "PARALLEL RESTRICTED", "PARALLEL SAFE"] do
    if ← keywords ks then return some (" " ++ ks)
  if ← keyword "LANGUAGE" then return some (" LANGUAGE " ++ (← ident).text)
  else if ← keyword "AS" then
    let body ← expression G
    let link ← if ← symbol "," then pure (", " ++ (← expression G)) else pure ""
    return some (" AS " ++ body ++ link)
  else if ← keyword "RETURN" then return some (" RETURN " ++ (← expression G))
  else return none

/-- `CREATE FUNCTION` behind its words, in the dialects where a function has typed arguments. -/
def createFunction (w : CreateWords) : Parse String := do
  let function ← name
  let args ← parenthesized (listBefore ")" (functionArgument G))
  let result ← behind "RETURNS" (dataType G)
  let clauses ← many (functionClause? G)
  return "CREATE " ++ wordIf w.orReplace "OR REPLACE" ++ wordIf w.temporary "TEMPORARY" ++
    "FUNCTION " ++ function ++ "(" ++ commas args ++ ")" ++
    lead " RETURNS " (result.map (·.text)) ++ String.join clauses

/-- `CREATE FUNCTION` behind its words, in the dialect where a function names its class. -/
def createHiveFunction (w : CreateWords) : Parse String := do
  let function ← name
  expectKeywords "AS"
  let cls ← expression G
  let source ←
    if ← keyword "USING" then
      let kind ← expectKeywordIn ["JAR", "FILE", "ARCHIVE"]
      pure (" USING " ++ kind ++ " " ++ (← plainStringText))
    else pure ""
  return "CREATE " ++ wordIf w.orReplace "OR REPLACE" ++ wordIf w.temporary "TEMPORARY" ++
    "FUNCTION " ++ function ++ " AS " ++ cls ++ source

/-- `CREATE MACRO` behind its words. -/
def createMacro (w : CreateWords) : Parse String := do
  let macroName ← name
  expectSymbol "("
  let args ← listBefore ")" do
    let i ← ident
    if ← symbol ":=" then return i.text ++ " := " ++ (← expression G) else return i.text
  expectSymbol ")"
  expectKeywords "AS"
  let body ← if ← keyword "TABLE" then pure ("TABLE " ++ (← G.query)) else expression G
  return "CREATE " ++ wordIf w.orReplace "OR REPLACE" ++ wordIf w.temporary "TEMPORARY" ++
    "MACRO " ++ macroName ++ "(" ++ commas args ++ ") AS " ++ body

/-- One event of a trigger. -/
def triggerEvent : Parse String := do
  let k ← expectKeywordIn ["INSERT", "UPDATE", "DELETE", "TRUNCATE"]
  if k = "UPDATE" ∧ (← keyword "OF") then
    return "UPDATE OF " ++ commas (← list (return (← ident).text))
  else return k

/-- `CREATE TRIGGER` behind its words. -/
def createTrigger (w : CreateWords) (constraint : Bool) : Parse String := do
  let trigger ← name
  let time ←
    match ← expectKeywordIn ["BEFORE", "AFTER", "INSTEAD"] with
    | "INSTEAD" =>
      expectKeywords "OF"
      pure "INSTEAD OF"
    | k => pure k
  let first ← triggerEvent
  let events ← many do
    if ← keyword "OR" then return some (← triggerEvent) else return none
  expectKeywords "ON"
  let table ← name
  let referenced := lead " FROM " (← behind "FROM" name)
  let timing ← constraintTiming
  let each ←
    if ← keyword "FOR" then
      let each ← flag "EACH"
      pure (" FOR" ++ each ++ " " ++ (← expectKeywordIn ["ROW", "STATEMENT"]))
    else pure ""
  let condition := lead " WHEN " (← behind "WHEN" (expression G))
  expectKeywords "EXECUTE"
  let kind ← expectKeywordIn ["FUNCTION", "PROCEDURE"]
  let function ← name
  let args ←
    if ← symbol "(" then
      let args ← listBefore ")" (expression G)
      expectSymbol ")"
      pure ("(" ++ commas args ++ ")")
    else pure ""
  return "CREATE " ++ wordIf w.orReplace "OR REPLACE" ++ wordIf constraint "CONSTRAINT" ++
    "TRIGGER " ++ trigger ++ " " ++ time ++ " " ++ String.intercalate " OR " (first :: events) ++
    " ON " ++ table ++ referenced ++ timing ++ each ++ condition ++ " EXECUTE " ++ kind ++ " " ++
    function ++ args

/-- Fails because the word read last is no kind of thing in the dialect. -/
def noSuchKind {α : Type} (verb : String) : Parse α := do
  modify (· - 1)
  expected ("an object type after " ++ verb)

/-- `CREATE` behind its word. -/
def create : Parse Statement := do
  let w ← createWords
  let plain (p : Parse String) : Parse Statement := return { text := ← p }
  let d ← dialect
  if ← keyword "TABLE" then createTable G w
  else if (← atKeyword "MATERIALIZED") || (← atKeyword "VIEW") then plain (createView G w)
  else if ← keyword "EXTERNAL" then createExternalTable G w
  else if ← keyword "FUNCTION" then
    if [Dialect.postgres, .generic].contains d then plain (createFunction G w)
    else if d == .hive then plain (createHiveFunction G w)
    else if d == .duckdb then plain (createMacro G w)
    else if d == .bigquery then plain (createFunction G w)
    else noSuchKind "CREATE"
  else if ← keyword "TRIGGER" then
    if [Dialect.postgres, .generic].contains d then plain (createTrigger G w false)
    else noSuchKind "CREATE"
  else if ← keywords "CONSTRAINT TRIGGER" then
    if [Dialect.postgres, .generic].contains d then plain (createTrigger G w true)
    else noSuchKind "CREATE"
  else if ← keyword "MACRO" then
    if [Dialect.duckdb, .generic].contains d then plain (createMacro G w) else noSuchKind "CREATE"
  else if w.orReplace then
    expected "[EXTERNAL] TABLE or [MATERIALIZED] VIEW or FUNCTION after CREATE OR REPLACE"
  else if ← keyword "EXTENSION" then plain createExtension
  else if ← keyword "INDEX" then plain (createIndex G false)
  else if ← keywords "UNIQUE INDEX" then plain (createIndex G true)
  else if ← keyword "VIRTUAL" then plain createVirtualTable
  else if ← keyword "SCHEMA" then plain createSchema
  else if ← keyword "DATABASE" then plain createDatabase
  else if ← keyword "ROLE" then plain (createRole G)
  else if ← keyword "SEQUENCE" then plain (createSequence G w.temporary)
  else if ← keyword "TYPE" then plain (createType G)
  else if ← keyword "PROCEDURE" then plain (createProcedure G w.orAlter)
  else expected "an object type after CREATE"

end SqlJob.Sql.Parse
