import SqlJob.Database.Reader.Query

/-!
# Reading definitions

The definitions of tables, indexes and views, and the changes to tables.
-/

namespace SqlJob.Database.Read

variable (G : Grammar)

/-- What happens on a conflict. -/
def conflictAction : Read Conflict := do
  if ← word "ROLLBACK" then return .rollback
  else if ← word "ABORT" then return .abort
  else if ← word "FAIL" then return .fail
  else if ← word "IGNORE" then return .ignore
  else if ← word "REPLACE" then return .replace
  else unexpected

/-- What happens on a conflict, behind a constraint, if it is said. -/
def onConflict : Read (Option Conflict) := do
  if isWord (← peek) "ON" && isWord (← peekAt 1) "CONFLICT" then
    skip
    skip
    return some (← conflictAction)
  else return none

/-! ### Constraints -/

/-- What happens to referencing rows. -/
def referenceAction : Read ReferenceAction := do
  if ← word "SET" then
    if ← word "NULL" then return .setNull
    expectWord "DEFAULT"
    return .setDefault
  else if ← word "CASCADE" then return .cascade
  else if ← word "RESTRICT" then return .restrict
  else if ← words "NO" ["ACTION"] then return .none
  else unexpected

/-- When a reference is checked: whether only at the end of the transaction; none if it is not
said. -/
def deferral : Read (Option Bool) := do
  let negated := isWord (← peek) "NOT" && isWord (← peekAt 1) "DEFERRABLE"
  if negated then skip
  if ← word "DEFERRABLE" then
    if ← word "INITIALLY" then
      if ← word "DEFERRED" then return some (!negated)
      expectWord "IMMEDIATE"
    return some false
  else return none

/-- `REFERENCES` behind its word. -/
def reference : Read Reference := do
  let table ← name
  let columns ← do
    if ← atSymbol "(" then parenthesized (list name) else pure []
  let r : Reference := { table, columns }
  let r ← actions (← remaining) r
  match ← deferral with
  | some deferred => return { r with deferred }
  | none => return r
where
  actions : Nat → Reference → Read Reference
    | 0, r => return r
    | n + 1, r => do
      if ← word "ON" then
        if ← word "DELETE" then actions n { r with onDelete := ← referenceAction }
        else
          expectWord "UPDATE"
          actions n { r with onUpdate := ← referenceAction }
      else if ← word "MATCH" then
        let _ ← name
        actions n r
      else return r

/-- A condition between parentheses with its text. -/
def condition : Read (Expr × String) := parenthesized (withText (G.expr 0))

/-- A column computed from others, behind `AS`. -/
def computed : Read Expr := do
  let e ← parenthesized (G.expr 0)
  if !(← word "STORED") then
    let _ ← word "VIRTUAL"
  return e

/-- The value of a column that is given none, behind `DEFAULT`. -/
def defaultValue : Read (Expr × String) := do
  if ← atSymbol "(" then condition G
  else withText do
    let l ← peek
    match l.token with
    | .word "NULL" =>
      skip
      return .literal .null
    | .word _ =>
      match nameOf? true l with
      | some n =>
        skip
        return .name none n false
      | none => unexpected
    | .quoted value _ =>
      skip
      return .literal (.text value)
    | _ => if isSymbol l "(" then unexpected else G.expr 12

/-- One constraint of a column, with the name in front of it, if one is next. -/
def columnConstraint? (label : Option String) : Read (Option ColumnConstraint) := do
  if ← word "NULL" then
    let _ ← onConflict
    return some (.notNull (some .ignore))
  else if isWord (← peek) "NOT" && isWord (← peekAt 1) "NULL" then
    skip
    skip
    return some (.notNull (some ((← onConflict).getD .abort)))
  else if ← words "PRIMARY" ["KEY"] then
    let ascending ← word "ASC"
    let descending ← if ascending then pure false else word "DESC"
    let conflict ← onConflict
    return some (.primaryKey descending conflict (← word "AUTOINCREMENT"))
  else if ← word "UNIQUE" then return some (.unique (← onConflict))
  else if ← word "CHECK" then
    let (e, text) ← condition G
    return some (.check (label.getD text) e)
  else if ← word "DEFAULT" then
    let (e, text) ← defaultValue G
    return some (.default e text)
  else if ← word "COLLATE" then return some (.collate (← name))
  else if ← word "REFERENCES" then return some (.references (← reference))
  else if ← words "GENERATED" ["ALWAYS", "AS"] then return some (.generated (← computed G))
  else if ← word "AS" then return some (.generated (← computed G))
  else return none

/-- One column. -/
def columnDefinition : Read ColumnDefinition := do
  let n ← name
  let type ← typeName
  let constraints ← many do
    let label ← behind "CONSTRAINT" name
    match ← columnConstraint? G label with
    | some c => return some [c]
    | none =>
      match ← deferral with
      | some _ => return some []
      | none => if label.isSome then return some [] else return none
  return { name := n, type, constraints := constraints.flatten.filter (!isNullable ·) }
where
  isNullable : ColumnConstraint → Bool
    | .notNull (some .ignore) => true
    | _ => false

/-- One column of an index or of a key. -/
def indexedColumn : Read IndexedColumn := do
  let t ← orderTerm G
  return { expr := t.expr, descending := t.descending }

/-- One constraint of a table, if one is next. -/
def tableConstraint? : Read (Option TableConstraint) := do
  let label ← behind "CONSTRAINT" name
  if ← words "PRIMARY" ["KEY"] then
    expectSymbol "("
    let columns ← list (indexedColumn G)
    let _ ← word "AUTOINCREMENT"
    expectSymbol ")"
    return some (.primaryKey columns (← onConflict))
  else if ← word "UNIQUE" then
    let columns ← parenthesized (list (indexedColumn G))
    return some (.unique columns (← onConflict))
  else if ← word "CHECK" then
    let (e, text) ← condition G
    let _ ← onConflict
    return some (.check (label.getD text) e)
  else if ← words "FOREIGN" ["KEY"] then
    let columns ← parenthesized (list name)
    expectWord "REFERENCES"
    return some (.foreignKey columns (← reference))
  else if label.isSome then unexpected
  else return none

/-! ### Definitions -/

/-- `IF NOT EXISTS`, if it is there. -/
def ifNotExists : Read Bool := words "IF" ["NOT", "EXISTS"]

/-- `IF EXISTS`, if it is there. -/
def ifExists : Read Bool := words "IF" ["EXISTS"]

/-- Whether a constraint of a table is next. -/
def atTableConstraint : Read Bool := do
  match (← peek).token with
  | .word k => return ["CONSTRAINT", "PRIMARY", "UNIQUE", "CHECK", "FOREIGN"].contains k
  | _ => return false

/-- The columns and the constraints of a table. -/
def tableContents : Read (List ColumnDefinition × List TableConstraint) := do
  expectSymbol "("
  let first ← columnDefinition G
  let columns ← many do
    if isSymbol (← peek) "," then
      skip
      if ← atTableConstraint then return none
      return some (← columnDefinition G)
    else return none
  let constraints ← do
    if ← atTableConstraint then
      many do
        if let some c ← tableConstraint? G then
          let _ ← symbol ","
          return some c
        else return none
    else pure []
  expectSymbol ")"
  return (first :: columns, constraints)

/-- An option behind a table. One that is unknown is a fault only if the statement can go on behind
it: what cannot go on is the first fault that counts. -/
def tableOption : Read String := do
  let without ← word "WITHOUT"
  let spelling := (← peek).text
  let _ ← name
  let known := if without then "ROWID" else "STRICT"
  if spelling.map Char.toUpper == known then return known
  else
    let next ← peek
    if next.token == .eof || isSymbol next "," || isSymbol next ";" then
      throw (.general ("unknown table option: " ++ spelling))
    else unexpected

/-- The options behind a table: whether it is without row numbers and whether it is strict. -/
def tableOptions : Read (Bool × Bool) := do
  if (nameOf? true (← peek)).isNone then return (false, false)
  let options ← list tableOption
  return (options.contains "ROWID", options.contains "STRICT")

/-- A reader with the text that it read, from the place of an earlier token on. -/
def textFrom (start : Nat) : Read String := do
  let last := (← read).lexemes[(← get).position - 1]?
  textBetween start ((last.map (·.stop)).getD start)

/-- `CREATE TABLE` behind its words. -/
def createTable : Read Statement := do
  let absent ← ifNotExists
  let start := (← peek).start
  let n ← objectName
  if ← word "AS" then return .createTableAs absent n (← G.query)
  else
    let (columns, constraints) ← tableContents G
    let (withoutRowid, strict) ← tableOptions
    let d : TableDefinition := { name := n, columns, constraints, withoutRowid, strict }
    return .createTable absent d (← textFrom start)

/-- `CREATE INDEX` behind its words. -/
def createIndex (unique : Bool) : Read Statement := do
  let absent ← ifNotExists
  let start := (← peek).start
  let n ← objectName
  expectWord "ON"
  let table ← name
  let columns ← parenthesized (list (indexedColumn G))
  let condition ← condition? G
  return .createIndex unique absent n table columns condition (← textFrom start)

/-- `CREATE VIEW` behind its words. -/
def createView : Read Statement := do
  let absent ← ifNotExists
  let start := (← peek).start
  let n ← objectName
  let columns ← do
    if ← atSymbol "(" then pure (some (← parenthesized (list name))) else pure none
  expectWord "AS"
  let q ← G.query
  return .createView absent n columns q (← textFrom start)

/-- `CREATE VIRTUAL TABLE` behind its words. -/
def createVirtual : Read Statement := do
  let absent ← ifNotExists
  let n ← objectName
  expectWord "USING"
  let module ← name
  if ← symbol "(" then
    let _ ← arguments (← remaining) 0
  return .createVirtual absent n module
where
  arguments : Nat → Nat → Read Unit
    | 0, _ => unexpected
    | n + 1, depth => do
      let l ← peek
      if l.token == .eof then unexpected
      skip
      if isSymbol l "(" then arguments n (depth + 1)
      else if isSymbol l ")" then
        if depth = 0 then return () else arguments n (depth - 1)
      else arguments n depth

/-- `CREATE TRIGGER` behind its words, up to the statements of the trigger. -/
def createTrigger : Read Statement := do
  let _ ← ifNotExists
  let _ ← objectName
  if !(← word "BEFORE") then
    if !(← word "AFTER") then
      let _ ← words "INSTEAD" ["OF"]
  if ← word "UPDATE" then
    if ← word "OF" then
      let _ ← list name
  else if !(← word "DELETE") then expectWord "INSERT"
  expectWord "ON"
  let _ ← objectName
  let _ ← words "FOR" ["EACH", "ROW"]
  let _ ← condition? G
  expectWord "BEGIN"
  unexpected

/-- `CREATE` behind its word. -/
def create : Read Statement := do
  if ← word "TABLE" then createTable G
  else if ← words "UNIQUE" ["INDEX"] then createIndex G true
  else if ← word "INDEX" then createIndex G false
  else if ← word "VIEW" then createView G
  else if ← word "TRIGGER" then createTrigger G
  else if ← words "VIRTUAL" ["TABLE"] then createVirtual
  else
    if !(← word "TEMP") then expectWord "TEMPORARY"
    if ← word "TABLE" then createTable G
    else if ← word "VIEW" then createView G
    else
      expectWord "TRIGGER"
      createTrigger G

/-- `DROP` behind its word. -/
def drop : Read Statement := do
  let kind : ObjectKind ← do
    if ← word "TABLE" then pure .table
    else if ← word "INDEX" then pure .index
    else if ← word "VIEW" then pure .view
    else
      expectWord "TRIGGER"
      pure .trigger
  let present ← ifExists
  return .drop kind present (← objectName)

/-- `ALTER` behind its word. -/
def alter : Read Statement := do
  expectWord "TABLE"
  let table ← objectName
  if ← word "RENAME" then
    if ← word "TO" then return .alter table (.rename (← name))
    let _ ← word "COLUMN"
    let column ← name
    expectWord "TO"
    return .alter table (.renameColumn column (← name))
  else if ← word "ADD" then
    let _ ← word "COLUMN"
    let (c, text) ← withText (columnDefinition G)
    return .alter table (.addColumn c text)
  else
    expectWord "DROP"
    let _ ← word "COLUMN"
    return .alter table (.dropColumn (← name))

end SqlJob.Database.Read
