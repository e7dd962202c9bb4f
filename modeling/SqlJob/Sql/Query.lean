import SqlJob.Sql.Table

/-!
# Queries

`SELECT`, `VALUES` and queries between parentheses, joined by set operations, with common tables in
front and an order and limits behind.
-/

namespace SqlJob.Sql.Parse

variable (G : Grammar)

/-- What may follow a star in a select list, behind a space. -/
def starDetails : Parse String := do
  let like ←
    if ← dialectIn [.generic, .snowflake] then
      pure (lead " ILIKE '" ((← behind "ILIKE" stringValue).map (· ++ "'")))
    else pure ""
  let exclude ←
    if ← inDialects [.generic, .duckdb, .snowflake] (keyword "EXCLUDE") then
      if ← atSymbol "(" then pure (" EXCLUDE (" ++ commas (← columns false) ++ ")")
      else pure (" EXCLUDE " ++ (← ident).text)
    else pure ""
  let except' ←
    if ← inDialects [.generic, .bigquery, .clickhouse] (keyword "EXCEPT") then
      if ← atSymbol "(" then pure (" EXCEPT (" ++ commas (← columns false) ++ ")")
      else pure (" EXCEPT (" ++ (← ident).text ++ ")")
    else pure ""
  let replace ←
    if ← inDialects [.generic, .bigquery, .clickhouse, .duckdb, .snowflake] (keyword "REPLACE") then
      if ← atSymbol "(" then pure (" REPLACE (" ++ commas (← parenthesized (list replaced)) ++ ")")
      else pure (" REPLACE (" ++ (← replaced) ++ ")")
    else pure ""
  let rename ←
    if ← inDialects [.generic, .snowflake] (keyword "RENAME") then
      if ← atSymbol "(" then pure (" RENAME (" ++ commas (← parenthesized (list renamed)) ++ ")")
      else pure (" RENAME " ++ (← renamed))
    else pure ""
  return like ++ exclude ++ except' ++ replace ++ rename
where
  replaced : Parse String := do
    let e ← expression G
    let marked ← flag "AS"
    return e ++ marked ++ " " ++ (← ident).text
  renamed : Parse String := do
    let i ← ident
    expectKeywords "AS"
    return i.text ++ " AS " ++ (← ident).text

/-- One item of a select list. -/
def selectItem : Parse String := do
  let e ← wildcardExpression G
  match e.shape with
  | .wildcard => return e.text ++ (← starDetails G)
  | .qualifiedWildcard => return e.text ++ (← starDetails G)
  | .name value =>
    if value.toList.map Char.toLower = "from".toList then
      failAt ("Expected an expression, found: " ++ value) (← peekPlaced).place
    else withAlias e.text
  | _ => withAlias e.text
where
  withAlias (text : String) : Parse String := do
    return text ++ lead " AS " ((← alias? notColumnAlias).map (·.text))

/-- `DISTINCT` behind a space, if it is there. -/
def distinctness : Parse String := do
  let place := (← peekPlaced).place
  let all ← keyword "ALL"
  if !(← keyword "DISTINCT") then return ""
  if all then failAt "Cannot specify both ALL and DISTINCT" place
  if !(← keyword "ON") then return " DISTINCT"
  expectSymbol "("
  let keys ← listBefore ")" (expression G)
  expectSymbol ")"
  return " DISTINCT ON (" ++ commas keys ++ ")"

/-- The number of rows to take, in front of the select list, behind a space. -/
def top : Parse String := do
  if !(← keyword "TOP") then return ""
  let quantity ←
    if ← atSymbol "(" then pure ("(" ++ (← parenthesized (expression G)) ++ ")") else natural
  return " TOP " ++ quantity ++ (← flag "PERCENT") ++ (← flag "WITH TIES")

/-- Columns and nested columns of one grouping. -/
def groupItem : Parse String := do
  if ← dialectIn [.postgres, .generic, .duckdb, .redshift] then
    if ← keywords "GROUPING SETS" then return "GROUPING SETS (" ++ (← sets true) ++ ")"
    else if ← keyword "CUBE" then return "CUBE (" ++ (← sets false) ++ ")"
    else if ← keyword "ROLLUP" then return "ROLLUP (" ++ (← sets false) ++ ")"
    else if ← symbols ["(", ")"] then return "()"
    else expression G
  else expression G
where
  tuple (parentheses : Bool) : Parse String := do
    if ← symbol "(" then
      let items ← listBefore ")" (expression G)
      expectSymbol ")"
      if items.length = 1 ∧ !parentheses then return commas items
      else return "(" ++ commas items ++ ")"
    else return (if parentheses then "(" else "") ++ (← expression G) ++
      (if parentheses then ")" else "")
  sets (parentheses : Bool) : Parse String := do
    return commas (← parenthesized (list (tuple parentheses)))

/-- `GROUP BY` with its columns behind a space, if it is there. -/
def groupBy : Parse String := do
  if !(← keywords "GROUP BY") then return ""
  let items ← if ← keyword "ALL" then pure "ALL" else pure (commas (← list (groupItem G)))
  let modifiers ←
    if ← dialectIn [.clickhouse, .generic] then
      many do
        if ← keyword "WITH" then
          return some (" WITH " ++ (← expectKeywordIn ["ROLLUP", "CUBE", "TOTALS"]))
        else return none
    else pure []
  return " GROUP BY " ++ items ++ String.join modifiers

/-- Where the rows of a query go, behind a space. -/
def selectInto : Parse String := do
  if !(← keyword "INTO") then return ""
  let temporary ← keywordIn ["TEMP", "TEMPORARY"]
  let unlogged ← flag "UNLOGGED"
  let table ← flag "TABLE"
  return " INTO" ++ (if temporary.isSome then " TEMPORARY" else "") ++ unlogged ++ table ++ " " ++
    (← name)

/-- One named window. -/
def namedWindow : Parse String := do
  let i ← ident
  expectKeywords "AS"
  if ← symbol "(" then return i.text ++ " AS " ++ (← windowSpec G (interval G))
  else if ← dialectIn [.generic, .bigquery] then return i.text ++ " AS " ++ (← ident).text
  else expected "("

/-- Windows and the condition on them, in the order in which they are written. -/
def windows : Parse String := do
  if ← keyword "WINDOW" then
    let ws ← windowList
    return ws ++ (← qualify)
  else
    let q ← qualify
    if q.isEmpty then return ""
    else if ← keyword "WINDOW" then return q ++ (← windowList)
    else return q
where
  windowList : Parse String := return " WINDOW " ++ commas (← list (namedWindow G))
  qualify : Parse String := return lead " QUALIFY " (← behind "QUALIFY" (expression G))

/-- A hierarchy of rows, behind a space. -/
def hierarchy : Parse String := do
  if !(← dialectIn [.generic, .snowflake]) then return ""
  if ← keywords "START WITH" then
    let start ← expression G
    expectKeywords "CONNECT BY"
    return " START WITH " ++ start ++ " CONNECT BY " ++ commas (← list (expression G))
  else if ← keywords "CONNECT BY" then
    let steps ← list (expression G)
    expectKeywords "START WITH"
    return " START WITH " ++ (← expression G) ++ " CONNECT BY " ++ commas steps
  else return ""

/-- One view of the elements of a column, behind a space. -/
def lateralView? : Parse (Option String) := do
  if !(← keywords "LATERAL VIEW") then return none
  let outer ← flag "OUTER"
  let e ← expression G
  let view ← name
  let names ← if ← keyword "AS" then list (return (← ident).text) else pure []
  return some (" LATERAL VIEW" ++ outer ++ " " ++ e ++ " " ++ view ++
    (if names.isEmpty then "" else " AS " ++ commas names))

/-- A list of expressions behind keywords, behind a space, if it is there. -/
def listClause (ks : String) : Parse String := do
  return lead (" " ++ ks ++ " ") ((← behind ks (list (expression G))).map commas)

/-- `WHERE` with its condition behind a space, if it is there. -/
def whereClause : Parse String := do
  return lead " WHERE " (← behind "WHERE" (expression G))

/-- `SELECT` behind its word. -/
def select : Parse String := do
  let d ← dialect
  let table ←
    if ← onlyIf (d == .bigquery) (keyword "AS") then
      match ← keywordIn ["VALUE", "STRUCT"] with
      | some k => pure (" AS " ++ k)
      | none => expected "VALUE or STRUCT"
    else pure ""
  let distinct ← distinctness G
  let top ← top G
  let items ← withTrailingCommas d.projectionTrailingCommas (list (selectItem G))
  let into ← selectInto
  let tables ← behind "FROM" (list (return (← G.joinedTable).text))
  let views ← many (lateralView? G)
  let early ←
    if [Dialect.clickhouse, .generic].contains d then
      pure (lead " PREWHERE " (← behind "PREWHERE" (expression G)))
    else pure ""
  let condition ← whereClause G
  let groups ← groupBy G
  let cluster ← listClause G "CLUSTER BY"
  let distribute ← listClause G "DISTRIBUTE BY"
  let sort ← listClause G "SORT BY"
  let having := lead " HAVING " (← behind "HAVING" (expression G))
  let windows ← windows G
  let hierarchy ← hierarchy G
  return "SELECT" ++ table ++ distinct ++ top ++ " " ++ commas items ++ into ++
    lead " FROM " (tables.map commas) ++ String.join views ++ early ++ condition ++ groups ++
    cluster ++ distribute ++ sort ++ having ++ windows ++ hierarchy

/-- The rows behind `VALUES`, in normal form with the word. -/
def valuesRows (allowEmpty : Bool) : Parse String := do
  let rows ← list do
    let marked ← keyword "ROW"
    expectSymbol "("
    let row ←
      if ← onlyIf allowEmpty (symbol ")") then pure "()"
      else
        let items ← list (expression G)
        expectSymbol ")"
        pure ("(" ++ commas items ++ ")")
    return (marked, row)
  let front := if rows.any (·.1) then "ROW" else ""
  return "VALUES " ++ commas (rows.map fun (_, row) => front ++ row)

/-- A whole table as a query, behind its word. Three tokens are read whatever they are. -/
def wholeTable : Parse String := do
  let first ← next
  let second ← next
  let third ← next
  let word (what : String) (t : PlacedToken) : Parse String := do
    match t.token with
    | .word value _ _ => return value
    | _ => expectedAt what t
  if second.token == .symbol "." then
    return "TABLE " ++ (← word "Schema name" first) ++ "." ++ (← word "Table name" third)
  else return "TABLE " ++ (← word "Table name" first)

/-- How set operations treat equal rows, behind a space. -/
def setQuantifier : Parse String := do
  if ← keywords "DISTINCT BY NAME" then return " DISTINCT BY NAME"
  else if ← keywords "BY NAME" then return " BY NAME"
  else if ← keyword "ALL" then
    if ← keywords "BY NAME" then return " ALL BY NAME" else return " ALL"
  else flag "DISTINCT"

/-- The set operations behind a query that bind tighter than the given strength. -/
def setOperations (strength : Nat) : Nat → String → Parse String
  | 0, left => return left
  | n + 1, left => do
    let t ← peek
    match ["UNION", "EXCEPT", "INTERSECT"].find? t.isKeyword with
    | none => return left
    | some k =>
      let s := if k = "INTERSECT" then 20 else 10
      if strength ≥ s then return left
      skip
      let quantifier ← setQuantifier
      let right ← G.queryBody s
      setOperations strength n (left ++ " " ++ k ++ quantifier ++ " " ++ right)

/-- A query without what can follow its set operations. -/
def queryBody (strength : Nat) : Parse String := do
  let first ← do
    if ← keyword "SELECT" then select G
    else if ← symbol "(" then
      let q ← G.query
      expectSymbol ")"
      pure ("(" ++ q ++ ")")
    else if ← keyword "VALUES" then valuesRows G ((← dialect) == .mysql)
    else if ← keyword "TABLE" then wholeTable
    else expected "SELECT, VALUES, or a subquery in the query body"
  setOperations G strength (← remaining) first

/-- One common table. -/
def commonTable : Parse String := do
  let i ← ident
  let columns ← if ← atKeyword "AS" then pure [] else optionalColumns false
  expectKeywords "AS"
  let materialized ←
    if (← dialect) == .postgres then
      let m ← flag "MATERIALIZED"
      if m.isEmpty then flag "NOT MATERIALIZED" else pure m
    else pure ""
  let q ← subquery G
  let from' := lead " FROM " ((← behind "FROM" ident).map (·.text))
  return i.text ++ columnsText columns ++ " AS" ++ materialized ++ " " ++ q ++ from'

/-- The common tables in front of a query, with a space behind. -/
def commonTables : Parse String := do
  if !(← keyword "WITH") then return ""
  let recursive ← flag "RECURSIVE"
  return "WITH" ++ recursive ++ " " ++ commas (← list (commonTable G)) ++ " "

/-- The offset and the limit of a query, in any order. -/
structure Limits where
  limit : Option String := none
  offset : Option String := none

/-- Reads a limit and an offset where they are next. -/
def limitStep (found : Limits) : Parse Limits := do
  let found ←
    if ← onlyIf found.limit.isNone (keyword "LIMIT") then
      if ← keyword "ALL" then pure found else pure { found with limit := some (← expression G) }
    else pure found
  let found ←
    if ← onlyIf found.offset.isNone (keyword "OFFSET") then
      let e ← expression G
      pure { found with offset := some (e ++ lead " " (← keywordIn ["ROW", "ROWS"])) }
    else pure found
  if ← onlyIf (found.limit.isSome && found.offset.isNone)
      (inDialects [.generic, .mysql, .clickhouse] (symbol ",")) then
    return { limit := some (← expression G), offset := found.limit }
  else return found

/-- A number of rows to fetch, behind a space. -/
def fetchClause : Parse String := do
  if !(← keyword "FETCH") then return ""
  let _ ← expectKeywordIn ["FIRST", "NEXT"]
  let quantity ←
    match ← keywordIn ["ROW", "ROWS"] with
    | some _ => pure ""
    | none =>
      let n := (← literal).1
      let percent ← flag "PERCENT"
      let _ ← expectKeywordIn ["ROW", "ROWS"]
      pure (" " ++ n ++ percent)
  if ← keyword "ONLY" then return " FETCH FIRST" ++ quantity ++ " ROWS ONLY"
  else if ← keywords "WITH TIES" then return " FETCH FIRST" ++ quantity ++ " ROWS WITH TIES"
  else expected "one of ONLY or WITH TIES"

/-- One lock on the rows of a query, behind a space, if it is there. -/
def lock? : Parse (Option String) := do
  if !(← keyword "FOR") then return none
  if ← keyword "BROWSE" then return some " FOR BROWSE"
  let kind ← expectKeywordIn ["UPDATE", "SHARE"]
  let table := lead " OF " (← behind "OF" name)
  let wait ← flag "NOWAIT"
  let wait ← if wait.isEmpty then flag "SKIP LOCKED" else pure wait
  return some (" FOR " ++ kind ++ table ++ wait)

/-- One setting of a query. -/
def setting : Parse String := do
  let i ← ident
  expectSymbol "="
  return i.text ++ " = " ++ (← literal).1

/-- What can follow the set operations of a query, behind a space. -/
def queryTail : Parse String := do
  let order := lead " ORDER BY " (← orderBy? G)
  let interpolate ←
    if ← onlyIf (!order.isEmpty) (inDialects [.clickhouse, .generic] (keyword "INTERPOLATE")) then
      if ← atSymbol "(" then
        pure (" INTERPOLATE (" ++ commas (← parenthesized (listBefore ")" interpolation)) ++ ")")
      else pure " INTERPOLATE"
    else pure ""
  let found ← limitStep G {}
  let found ← limitStep G found
  let by' ← if ← dialectIn [.clickhouse, .generic] then listClause G "BY" else pure ""
  let settings ←
    if ← inDialects [.clickhouse, .generic] (keyword "SETTINGS") then
      pure (" SETTINGS " ++ commas (← list setting))
    else pure ""
  let fetch ← fetchClause
  let locks ← many lock?
  let format ←
    if ← inDialects [.clickhouse, .generic] (keyword "FORMAT") then
      if ← keyword "NULL" then pure " FORMAT NULL" else pure (" FORMAT " ++ (← ident).text)
    else pure ""
  return order ++ interpolate ++ lead " LIMIT " found.limit ++ lead " OFFSET " found.offset ++ by' ++
    settings ++ fetch ++ String.join locks ++ format
where
  interpolation : Parse String := do
    let i ← ident
    return i.text ++ lead " AS " (← behind "AS" (expression G))

/-- A query; `write` reads an insert or an update that may stand in the place of its body. -/
def queryWith (write : Parse (Option String)) : Parse String := do
  let tables ← commonTables G
  match ← write with
  | some text => return tables ++ text
  | none =>
    let body ← G.queryBody 0
    return tables ++ body ++ (← queryTail G)

end SqlJob.Sql.Parse
