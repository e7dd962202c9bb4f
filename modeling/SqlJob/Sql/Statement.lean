import SqlJob.Sql.Alteration
import SqlJob.Sql.Command
import SqlJob.Sql.Lexer

/-!
# Statements

The first word of a statement decides what it is. Here the parts of the grammar are tied together:
each part is built from the grammar of smaller texts, and every use of a part costs one unit of
fuel, so that the whole is defined by recursion on the fuel. A text of `n` tokens never needs more
than a few units for each of them.
-/

namespace SqlJob.Sql.Parse

variable (G : Grammar)

/-- The format of a plan behind `FORMAT`. -/
def planFormat : Parse Unit := do
  if ← keyword "FORMAT" then
    let t ← peekPlaced
    match ← keywordIn ["TEXT", "GRAPHVIZ", "JSON"] with
    | some _ => return
    | none => expectedAt "fileformat" t

/-- `EXPLAIN` and its relatives behind their word: a request for the plan of a statement, or for
the description of a table if no statement follows. -/
def explain (word : String) : Parse Statement := do
  let analyze ← flag "ANALYZE"
  let verbose ← flag "VERBOSE"
  planFormat
  match ← attempt G.statement with
  | some inner =>
    match inner.kind with
    | .explain _ => fail "Explain must be root of the plan"
    | .describe => fail "Explain must be root of the plan"
    | _ => return { text := word ++ analyze ++ verbose ++ " " ++ inner.text, kind := .explain inner.text }
  | none =>
    let format := lead " " (← keywordIn ["EXTENDED", "FORMATTED"])
    let table ← if ← dialectIn [.snowflake, .clickhouse] then flag "TABLE" else pure ""
    return { text := word ++ format ++ table ++ " " ++ (← name), kind := .describe }

/-- A statement behind its first word, which is the keyword `k`; none if the keyword starts no
statement. -/
def statementFor? (d : Dialect) (k : String) : Option (Parse Statement) :=
  let text (p : Parse String) : Option (Parse Statement) := some do return { text := ← p }
  let textIn (ds : List Dialect) (p : Parse String) : Option (Parse Statement) :=
    if ds.contains d then text p else none
  let unsupported (ds : List Dialect) (p : Parse Statement) : Option (Parse Statement) :=
    some do
      if ds.contains d then p else failAt ("Unsupported statement " ++ k) (← peekPlaced).place
  match k with
  | "KILL" => text kill
  | "FLUSH" => unsupported [.mysql, .generic] (return { text := "FLUSH" ++ (← shownVariable) })
  | "DESC" | "DESCRIBE" | "EXPLAIN" => some (explain G k)
  | "ANALYZE" => text (analyze G)
  | "TRUNCATE" => text (truncate G)
  | "ATTACH" => text (attach G)
  | "DETACH" => textIn [.duckdb, .generic] detach
  | "MSCK" => text repairTable
  | "CREATE" => some (create G)
  | "CACHE" => text (cacheTable G)
  | "DROP" => text (drop G)
  | "DISCARD" => text discard
  | "DECLARE" => text (declareCursor G)
  | "FETCH" => text fetch
  | "DELETE" => text (delete G)
  | "INSERT" => some (insert G "INSERT")
  | "REPLACE" =>
    if d = .sqlite then some (do modify (· - 1); insert G "INSERT")
    else unsupported [.mysql, .generic] (insert G "REPLACE")
  | "UNCACHE" => text uncacheTable
  | "UPDATE" => text (update G)
  | "ALTER" => text (alter G)
  | "CALL" => text (callProcedure G)
  | "COPY" => text (copy G)
  | "CLOSE" => text do
    if ← keyword "ALL" then return "CLOSE ALL" else return "CLOSE " ++ (← ident).text
  | "SET" => text (setVariable G)
  | "SHOW" => text (showThings G)
  | "USE" => text (return "USE " ++ (← ident).text)
  | "GRANT" => text grant
  | "REVOKE" => text revoke
  | "START" => text do
    expectKeywords "TRANSACTION"
    return "START TRANSACTION" ++ (← transactionModesText)
  | "BEGIN" => text beginTransaction
  | "END" => text (return "COMMIT" ++ (← chain))
  | "SAVEPOINT" => text (return "SAVEPOINT " ++ (← ident).text)
  | "RELEASE" => text do
    let _ ← keyword "SAVEPOINT"
    return "RELEASE SAVEPOINT " ++ (← ident).text
  | "COMMIT" => text (return "COMMIT" ++ (← chain))
  | "ROLLBACK" => text rollback
  | "ASSERT" => text (assert G)
  | "DEALLOCATE" => text do
    let prepared ← flag "PREPARE"
    return "DEALLOCATE" ++ prepared ++ " " ++ (← ident).text
  | "EXECUTE" => text (executePrepared G)
  | "PREPARE" => text (prepare G)
  | "MERGE" => text (merge G)
  | "PRAGMA" => text pragma
  | "UNLOAD" => text (unload G)
  | "INSTALL" => textIn [.duckdb, .generic] (return "INSTALL " ++ (← ident).text)
  | "LOAD" => textIn [.duckdb, .generic] (return "LOAD " ++ (← ident).text)
  | "OPTIMIZE" => textIn [.clickhouse, .generic] (optimize G)
  | "COMMENT" => textIn [.postgres] commentOn
  | "LOCK" => textIn [.mysql] do
    expectKeywords "TABLES"
    lockTables
  | "UNLOCK" => textIn [.mysql] do
    expectKeywords "TABLES"
    return "UNLOCK TABLES"
  | _ => none

/-- A statement. -/
def statement : Parse Statement := do
  let t ← peekPlaced
  match t.token with
  | .word _ none k =>
    if ["SELECT", "WITH", "VALUES"].contains k then return { text := ← G.query }
    match statementFor? G (← dialect) k with
    | some p =>
      skip
      p
    | none => expected "an SQL statement"
  | .symbol "(" => return { text := ← G.query }
  | _ => expected "an SQL statement"

/-- The grammar whose parts may use each other at most as often as the fuel says. -/
def grammar : Nat → Grammar
  | 0 =>
    let none {α : Type} : Parse α := throw .tooDeep
    { statement := none, query := none, queryBody := fun _ => none, expression := none
      operand := fun _ => none, primary := none, innerType := none, joinedTable := none }
  | fuel + 1 =>
    let G := grammar fuel
    { statement := nested (statement G)
      query := nested (query G)
      queryBody := queryBody G
      expression := nested (operandAbove G 0)
      operand := operandAbove G
      primary := primary G
      innerType := innerType G
      joinedTable := joinedTable G }

end SqlJob.Sql.Parse

namespace SqlJob.Sql

/-- How deeply statements, queries and expressions may be nested in each other. -/
def maxDepth : Nat := 50

/-- The statements of a text. -/
def readStatements (d : Dialect) (text : String) : Except SqlError (List Statement) := do
  let ts ← tokens d text
  let tokens := ts.toArray
  let ctx : ParseContext := {
    dialect := d, tokens, depth := maxDepth, trailingCommas := d.trailingCommas }
  let fuel := 4 * tokens.size + 200
  let (statements, _) ← Parse.statements (Parse.grammar fuel) ctx 0
  return statements

end SqlJob.Sql
