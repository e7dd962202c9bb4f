import SqlJob.Sql.Query

/-!
# Columns and constraints

The parts of a table's definition: columns with their types and constraints, constraints on the
whole table, and options.
-/

namespace SqlJob.Sql.Parse

variable (G : Grammar)

/-- What happens to the rows that refer to a row. -/
def referentialAction : Parse String := do
  for a in ["RESTRICT", "CASCADE", "SET NULL", "NO ACTION", "SET DEFAULT"] do
    if ← keywords a then return a
  expected "one of RESTRICT, CASCADE, SET NULL, NO ACTION or SET DEFAULT"

/-- What happens to referring rows when a row is deleted or updated, behind a space. -/
def referentialActions : Parse String := do
  let first ← step none none
  let second ← step first.1 first.2
  return lead " ON DELETE " second.1 ++ lead " ON UPDATE " second.2
where
  step (onDelete onUpdate : Option String) : Parse (Option String × Option String) := do
    if ← onlyIf onDelete.isNone (keywords "ON DELETE") then
      return (some (← referentialAction), onUpdate)
    else if ← onlyIf onUpdate.isNone (keywords "ON UPDATE") then
      return (onDelete, some (← referentialAction))
    else return (onDelete, onUpdate)

/-- When a constraint is checked. -/
structure Timing where
  deferrable : String := ""
  initially : String := ""
  enforced : String := ""

/-- When a constraint is checked, behind a space. -/
def constraintTiming : Parse String := do
  let t ← step {}
  let t ← step t
  let t ← step t
  return t.deferrable ++ t.initially ++ t.enforced
where
  oneOf (found : String) (ks : List String) : Parse String := do
    if !found.isEmpty then return found
    for k in ks do
      if ← keywords k then return " " ++ k
    return ""
  step (t : Timing) : Parse Timing := do
    let deferrable ← oneOf t.deferrable ["NOT DEFERRABLE", "DEFERRABLE"]
    let initially ← oneOf t.initially ["INITIALLY DEFERRED", "INITIALLY IMMEDIATE"]
    let enforced ← oneOf t.enforced ["NOT ENFORCED", "ENFORCED"]
    return { deferrable, initially, enforced }

/-- A computed column's expression and whether it is stored, from the opening parenthesis on. -/
def computed : Parse String := do
  let e ← parenthesized (expression G)
  let mode ← keywordIn ["STORED", "VIRTUAL"]
  return "(" ++ e ++ ")" ++ lead " " mode

/-- Options of a sequence, each behind a space. -/
def sequenceOptions : Parse String := do
  let increment ←
    if ← keyword "INCREMENT" then
      let by' ← flag "BY"
      pure (" INCREMENT" ++ by' ++ " " ++ (← number))
    else pure ""
  let low ←
    if ← keyword "MINVALUE" then pure (" MINVALUE " ++ (← expression G)) else flag "NO MINVALUE"
  let high ←
    if ← keyword "MAXVALUE" then pure (" MAXVALUE " ++ (← expression G)) else flag "NO MAXVALUE"
  let start ←
    if ← keyword "START" then
      let with' ← flag "WITH"
      pure (" START" ++ with' ++ " " ++ (← number))
    else pure ""
  let cache := lead " CACHE " (← behind "CACHE" number)
  let cycle ← flag "NO CYCLE"
  let cycle ← if cycle.isEmpty then flag "CYCLE" else pure cycle
  return increment ++ low ++ high ++ start ++ cache ++ cycle
where
  number : Parse String := do
    if ← symbol "-" then return "-" ++ (← literal).1 else return (← literal).1

/-- `GENERATED` behind its word, if what follows is known. -/
def generated? : Parse (Option String) := do
  for k in ["ALWAYS AS IDENTITY", "BY DEFAULT AS IDENTITY"] do
    if ← keywords k then
      if ← symbol "(" then
        let options ← sequenceOptions G
        expectSymbol ")"
        return some ("GENERATED " ++ k ++ " (" ++ options ++ " )")
      else return some ("GENERATED " ++ k)
  if ← keywords "ALWAYS AS" then
    if ← atSymbol "(" then return some ("GENERATED ALWAYS AS " ++ (← computed G)) else return none
  else return none

/-- One constraint of a column, if one is next. Some words are read in every dialect, but mean
something in a few only. -/
def columnOption? : Parse (Option String) := do
  let d ← dialect
  if ← keywords "CHARACTER SET" then return some ("CHARACTER SET " ++ (← name))
  else if ← keywords "NOT NULL" then return some "NOT NULL"
  else if ← keyword "COMMENT" then
    let t ← next
    match t.token with
    | .string .single value => return some ("COMMENT " ++ quoted '\'' value)
    | _ => expectedAt "string" t
  else if ← keyword "NULL" then return some "NULL"
  else if ← keyword "DEFAULT" then return some ("DEFAULT " ++ (← expression G))
  else if ← keywords "PRIMARY KEY" then return some ("PRIMARY KEY" ++ (← constraintTiming))
  else if ← keyword "UNIQUE" then return some ("UNIQUE" ++ (← constraintTiming))
  else if ← keyword "REFERENCES" then
    let table ← name
    let columns ← optionalColumns false
    let actions ← referentialActions
    return some ("REFERENCES " ++ table ++ columnsText columns ++ actions ++ (← constraintTiming))
  else if ← keyword "CHECK" then
    return some ("CHECK (" ++ (← parenthesized (expression G)) ++ ")")
  else if (← keyword "AUTO_INCREMENT") && [Dialect.mysql, .generic].contains d then
    return some "AUTO_INCREMENT"
  else if (← keyword "AUTOINCREMENT") && [Dialect.sqlite, .generic].contains d then
    return some "AUTOINCREMENT"
  else if (← keywords "ON UPDATE") && [Dialect.mysql, .generic].contains d then
    return some ("ON UPDATE " ++ (← expression G))
  else if ← keyword "GENERATED" then generated? G
  else if (← keyword "AS") && [Dialect.mysql, .sqlite, .duckdb, .generic].contains d then
    return some ("AS " ++ (← computed G))
  else if (← keyword "IDENTITY") && [Dialect.mssql, .generic].contains d then
    if ← symbol "(" then
      let seed ← literal
      expectSymbol ","
      let step ← literal
      expectSymbol ")"
      return some ("IDENTITY(" ++ seed.1 ++ ", " ++ step.1 ++ ")")
    else return some "IDENTITY"
  else return none

/-- Whether a column has no type: the dialect allows that and no name of a type follows. -/
def isUntyped : Parse Bool := do
  if (← dialect) != .sqlite then return false
  match ← peek with
  | .word _ quote k =>
    return quote.isNone && ["CONSTRAINT", "PRIMARY", "NOT", "UNIQUE", "CHECK", "DEFAULT", "COLLATE",
      "REFERENCES", "GENERATED", "AS"].contains k
  | _ => return true

/-- One column. -/
def columnDefinition : Parse String := do
  let i ← ident
  let type ← if ← isUntyped then pure "" else pure (" " ++ (← dataType G).text)
  let collation ← behind "COLLATE" name
  let parts ← many do
    if ← keyword "CONSTRAINT" then
      let c ← ident
      match ← columnOption? G with
      | some o => return some (Sum.inl (" CONSTRAINT " ++ c.text ++ " " ++ o))
      | none => expected "constraint details after CONSTRAINT <name>"
    else
      match ← columnOption? G with
      | some o => return some (Sum.inl (" " ++ o))
      | none =>
        if ← inDialects [.mysql, .snowflake, .generic] (keyword "COLLATE") then
          return some (Sum.inr (← name))
        else return none
  let collation := parts.foldl (fun c p => p.elim (fun _ => c) some) collation
  return i.text ++ type ++ lead " COLLATE " collation ++
    String.join (parts.map fun p => p.elim id fun _ => "")

/-- An optional name of an index and an optional kind, each behind a space. -/
def indexName : Parse String := do
  let i ← attempt ident
  let kind ← behind "USING" (expectKeywordIn ["BTREE", "HASH"])
  return lead " " (i.map (·.text)) ++ lead " USING " kind

/-- One constraint on a table, if one is next. -/
def tableConstraint? : Parse (Option String) := do
  let start ← get
  let constraint ← behind "CONSTRAINT" ident
  let front := lead "CONSTRAINT " (constraint.map (·.text ++ " "))
  let mysql ← dialectIn [.mysql, .generic]
  let t ← peekPlaced
  let k ← keywordIn ["UNIQUE", "PRIMARY", "FOREIGN", "CHECK"]
  match k with
  | some "UNIQUE" =>
    let display ← keywordIn ["INDEX", "KEY"]
    if display.isSome && !mysql then expected "`index_name` or `(column_name [, ...])`"
    let index ← indexName
    let columns ← requiredColumns
    return some (front ++ "UNIQUE" ++ lead " " display ++ index ++ " (" ++ commas columns ++ ")" ++
      (← constraintTiming))
  | some "PRIMARY" =>
    expectKeywords "KEY"
    let index ← indexName
    let columns ← requiredColumns
    return some (front ++ "PRIMARY KEY" ++ index ++ " (" ++ commas columns ++ ")" ++
      (← constraintTiming))
  | some "FOREIGN" =>
    expectKeywords "KEY"
    let columns ← requiredColumns
    expectKeywords "REFERENCES"
    let table ← name
    let referred ← requiredColumns
    let actions ← referentialActions
    return some (front ++ "FOREIGN KEY (" ++ commas columns ++ ") REFERENCES " ++ table ++ "(" ++
      commas referred ++ ")" ++ actions ++ (← constraintTiming))
  | some _ =>
    return some (front ++ "CHECK (" ++ (← parenthesized (expression G)) ++ ")")
  | none =>
    if constraint.isSome then expectedAt "PRIMARY, UNIQUE, FOREIGN, or CHECK" t
    else if mysql then
      match ← keywordIn ["INDEX", "KEY", "FULLTEXT", "SPATIAL"] with
      | some word =>
        let second ←
          if word = "FULLTEXT" ∨ word = "SPATIAL" then keywordIn ["INDEX", "KEY"] else pure none
        let index ← if ← atSymbol "(" then pure "" else indexName
        let columns ← requiredColumns
        return some (word ++ lead " " second ++ index ++ " (" ++ commas columns ++ ")")
      | none =>
        set start
        return none
    else
      set start
      return none

/-- The columns and constraints of a table between parentheses, if they are there. -/
def tableColumns : Parse (List String × List String) := do
  if !(← symbol "(") then return ([], [])
  if ← symbol ")" then return ([], [])
  let items ← go (← remaining)
  return (items.filterMap (·.getLeft?), items.filterMap (·.getRight?))
where
  item : Parse (Sum String String) := do
    match ← tableConstraint? G with
    | some c => return .inr c
    | none =>
      match ← peek with
      | .word _ _ _ => return .inl (← columnDefinition G)
      | _ => expected "column name or constraint definition"
  go : Nat → Parse (List (Sum String String))
    | 0 => return []
    | n + 1 => do
      let i ← item
      let comma ← symbol ","
      let close ← atSymbol ")"
      if !comma && !close then expected "',' or ')' after column definition"
      else if close && (!comma || (← read).trailingCommas) then
        skip
        return [i]
      else return i :: (← go n)

/-- One option of a table. -/
def tableOption : Parse String := do
  let i ← ident
  expectSymbol "="
  return i.text ++ " = " ++ (← expression G)

/-- Options between parentheses behind keywords, if they are there. -/
def options (ks : String) : Parse (List String) := do
  return ((← behind ks (parenthesized (list (tableOption G)))).getD [])

end SqlJob.Sql.Parse
