import SqlJob.Database.Reader.Definition

/-!
# Reading statements one after another

A text may hold several statements with semicolons between them. They are read one at a time, so
that a fault in a later one does not keep the earlier ones from being executed.
-/

namespace SqlJob.Database.Read

variable (G : Grammar)

/-- New values for columns, behind `SET`. -/
def assignments : Read (List Assignment) := list do
  if ← symbol "(" then
    let columns ← list name
    expectSymbol ")"
    expectSymbol "="
    return { columns, value := ← G.expr 0 }
  else
    let column ← name
    expectSymbol "="
    return { columns := [column], value := ← G.expr 0 }

/-- `RETURNING` with its items, if it is there. -/
def returning : Read (List ResultItem) := do
  if ← word "RETURNING" then list (resultItem G) else return []

/-- What happens where an inserted row meets one that is there. -/
def upserts : Read (List Upsert) := many do
  if !(← words "ON" ["CONFLICT"]) then return none
  let target ← do
    if ← atSymbol "(" then
      let columns ← parenthesized (list (orderTerm G))
      let _ ← condition? G
      pure (some (columns.map (·.expr)))
    else pure none
  expectWord "DO"
  if ← word "NOTHING" then return some { target, change := none }
  expectWord "UPDATE"
  expectWord "SET"
  let changes ← assignments G
  return some { target, change := some (changes, ← condition? G) }

/-- `OR` with what happens on a conflict, if it is there. -/
def orConflict : Read (Option Conflict) := behind "OR" conflictAction

/-- An insert behind its first word. -/
def insert (common : List CommonTable) (conflict : Option Conflict) : Read Statement := do
  expectWord "INTO"
  let table ← objectName
  let alias? ← behind "AS" name
  let columns ← do
    if ← atSymbol "(" then pure (some (← parenthesized (list name))) else pure none
  if ← words "DEFAULT" ["VALUES"] then
    return .insert {
      common, conflict, table, alias?, columns, source := .defaults, returning := ← returning G }
  else
    if !(← atQuery) then unexpected
    let q ← G.query
    let upserts ← upserts G
    return .insert {
      common, conflict, table, alias?, columns, source := .query q, upserts
      returning := ← returning G }

/-- An update behind its first word. -/
def update (common : List CommonTable) : Read Statement := do
  let conflict ← orConflict
  let table ← objectName
  let alias? ← behind "AS" name
  expectWord "SET"
  let assignments ← assignments G
  let source ← if ← word "FROM" then G.source else pure []
  let condition ← condition? G
  return .update {
    common, conflict, table, alias?, assignments, source, condition, returning := ← returning G }

/-- A delete behind its first word. -/
def delete (common : List CommonTable) : Read Statement := do
  expectWord "FROM"
  let table ← objectName
  let alias? ← behind "AS" name
  let condition ← condition? G
  return .delete { common, table, alias?, condition, returning := ← returning G }

/-- A statement that may have common tables in front. -/
def withCommon : Read Statement := do
  let common ← commonTables G
  if ← word "INSERT" then insert G common (← orConflict)
  else if ← word "REPLACE" then insert G common (some .replace)
  else if ← word "UPDATE" then update G common
  else if ← word "DELETE" then delete G common
  else return .query (← queryAfter G common)

/-- The name of a transaction, which means nothing. -/
def transactionName : Read Unit := do
  if ← word "TRANSACTION" then
    if (nameOf? true (← peek)).isSome then skip

/-- The value of a pragma: a number with a sign or a word. -/
def pragmaValue : Read String := do
  let sign ← do
    if ← symbol "-" then pure "-"
    else
      let _ ← symbol "+"
      pure ""
  let l ← peek
  match l.token with
  | .integer =>
    skip
    return sign ++ l.text
  | .float =>
    skip
    return sign ++ l.text
  | .word k =>
    if ["ON", "DELETE", "DEFAULT"].contains k then
      skip
      return l.text
    else name
  | _ => name

/-- `PRAGMA` behind its word. -/
def pragma : Read Statement := do
  let n ← objectName
  if ← symbol "=" then return .pragma n.name (some (← pragmaValue))
  else if ← atSymbol "(" then return .pragma n.name (some (← parenthesized pragmaValue))
  else return .pragma n.name none

/-- A statement. -/
def statement : Read Statement := do
  if ← word "CREATE" then create G
  else if ← word "DROP" then drop
  else if ← word "ALTER" then alter G
  else if ← word "BEGIN" then
    if !(← word "DEFERRED") then
      if !(← word "IMMEDIATE") then
        let _ ← word "EXCLUSIVE"
    transactionName
    return .begin
  else if ← word "COMMIT" then
    transactionName
    return .commit
  else if ← word "END" then
    transactionName
    return .commit
  else if ← word "ROLLBACK" then
    transactionName
    if ← word "TO" then
      let _ ← word "SAVEPOINT"
      return .rollbackTo (← name)
    return .rollback
  else if ← word "SAVEPOINT" then return .savepoint (← name)
  else if ← word "RELEASE" then
    let _ ← word "SAVEPOINT"
    return .release (← name)
  else if ← word "PRAGMA" then pragma
  else if ← word "VACUUM" then
    if (nameOf? true (← peek)).isSome then skip
    let _ ← behind "INTO" (G.expr 0)
    return .maintain
  else if ← word "ANALYZE" then
    if (nameOf? true (← peek)).isSome then
      let _ ← objectName
    return .maintain
  else if ← word "REINDEX" then
    if (nameOf? true (← peek)).isSome then return .reindex (some (← objectName).name)
    return .reindex none
  else if ← word "ATTACH" then
    let _ ← word "DATABASE"
    let _ ← G.expr 0
    expectWord "AS"
    let _ ← G.expr 0
    return .maintain
  else if ← word "DETACH" then
    let _ ← word "DATABASE"
    return .detach (← name)
  else withCommon G

/-- A statement, or a request for its plan or its program. -/
def command : Read Statement := do
  if ← word "EXPLAIN" then
    if ← words "QUERY" ["PLAN"] then return .plan (← statement G)
    return .program (← statement G)
  else statement G

/-- The next statement, if there is one, up to the semicolon behind it. -/
def next? : Read (Option Statement) := do
  let _ ← many do
    if ← symbol ";" then return some () else return none
  match (← peek).token with
  | .eof => return none
  | _ =>
    let s ← command G
    match (← peek).token with
    | .eof => return some s
    | _ =>
      expectSymbol ";"
      return some s

end SqlJob.Database.Read

namespace SqlJob.Database

/-- The text as input of the readers. -/
def Input.ofText (text : String) : Input := ⟨text.toList, (Database.lexemes text).toArray⟩

/-- How deep the parts of a text may be nested: as deep as it has tokens, and more. -/
def Input.fuel (i : Input) : Nat := 4 * i.lexemes.size + 100

/-- The statement at a position, if there is one, and the position behind it. -/
def Input.statementAt (i : Input) (position : Nat) : Except Fault (Option Statement × Nat) := do
  let (s, c) ← Read.next? (Read.grammar i.fuel) i { position }
  return (s, c.position)

end SqlJob.Database
