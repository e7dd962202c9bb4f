import SqlJob.Database.Reader.Expression

/-!
# Reading queries

A query is made of selects and lists of rows with set operations between them, of common tables in
front and of an order and a limit behind.
-/

namespace SqlJob.Database.Read

variable (G : Grammar)

/-- An alias, which may stand alone if it is no word with another meaning. -/
def alias? : Read (Option String) := do
  if ← word "AS" then return some (← name)
  let l ← peek
  match l.token with
  | .word k =>
    if operatorWords.contains k || (k == "WINDOW") then return none
    else bare l
  | _ => bare l
where
  bare (l : Lexeme) : Read (Option String) := do
    match nameOf? false l with
    | some n =>
      skip
      return some n
    | none => return none

/-- One item of a select list. -/
def resultItem : Read ResultItem := do
  if ← symbol "*" then return .star
  let isTableStar := (nameOf? true (← peek)).isSome && isSymbol (← peekAt 1) "." &&
    isSymbol (← peekAt 2) "*"
  if isTableStar then
    let table ← name
    skip
    skip
    return .tableStar table
  let (e, text) ← withText (G.expr 0)
  return .expr e (← alias?) text

/-- How an item of a `FROM` clause joins those before it: whether it is natural and which rows are
kept; none if no item follows. -/
def join? : Read (Option (Bool × JoinKind)) := do
  if ← symbol "," then return some (false, .inner)
  if ← word "JOIN" then return some (false, .inner)
  let l ← peek
  match l.token with
  | .word k =>
    if !joinWords.contains k then return none
    let ws ← many do
      let l ← peek
      match l.token with
      | .word k =>
        if joinWords.contains k then
          skip
          return some k
        else return none
      | _ => return none
    expectWord "JOIN"
    let left := ws.contains "LEFT" || ws.contains "FULL"
    let right := ws.contains "RIGHT" || ws.contains "FULL"
    let kind : JoinKind :=
      match left, right with
      | true, true => .full
      | true, false => .left
      | false, true => .right
      | false, false => .inner
    return some (ws.contains "NATURAL", kind)
  | _ => return none

/-- What rows are taken from. -/
def tableTerm : Read TableTerm := do
  if ← symbol "(" then
    if ← atQuery then
      let q ← G.query
      expectSymbol ")"
      return .query q (← alias?)
    else
      let items ← G.source
      expectSymbol ")"
      return .group items
  else
    let n ← objectName
    if ← symbol "(" then
      let args ← if ← atSymbol ")" then pure [] else list (G.expr 0)
      expectSymbol ")"
      return .function n.name args (← alias?)
    let a ← alias?
    if ← words "INDEXED" ["BY"] then
      let _ ← name
    else
      let _ ← words "NOT" ["INDEXED"]
    return .table n a

/-- One item of a `FROM` clause with its condition. -/
def fromItem (natural : Bool) (kind : JoinKind) : Read FromItem := do
  let term ← tableTerm G
  if ← word "ON" then return { kind, natural, term, on := some (← G.expr 0) }
  else if ← word "USING" then return { kind, natural, term, shared := ← parenthesized (list name) }
  else return { kind, natural, term }

/-- The items of a `FROM` clause. -/
def source : Read (List FromItem) := do
  let first ← fromItem G false .inner
  return first :: (← many do
    match ← join? with
    | some (natural, kind) => return some (← fromItem G natural kind)
    | none => return none)

/-- `WHERE` with its condition, if it is there. -/
def condition? : Read (Option Expr) := behind "WHERE" (G.expr 0)

/-- `SELECT` behind its word. -/
def select : Read Select := do
  let distinct ← word "DISTINCT"
  if !distinct then
    let _ ← word "ALL"
  let items ← list (resultItem G)
  let source ← if ← word "FROM" then G.source else pure []
  let condition ← condition? G
  let groupBy ← do
    if ← words "GROUP" ["BY"] then list (G.expr 0) else pure []
  let having ← behind "HAVING" (G.expr 0)
  modify fun c => { c with selects := c.selects + 1 }
  return { number := (← get).selects, distinct, items, source, condition, groupBy, having }

/-- A select or a list of rows. -/
def simpleBody : Read Body := do
  if ← word "SELECT" then return .select (← select G)
  else if ← word "VALUES" then
    let rows ← list (parenthesized (list (G.expr 0)))
    modify fun c => { c with selects := c.selects + 1 }
    return .values rows
  else unexpected

/-- The operator of a set operation, if one is next. -/
def setOperator? : Read (Option SetOperator) := do
  if ← word "UNION" then
    if ← word "ALL" then return some .unionAll else return some .union
  else if ← word "INTERSECT" then return some .intersect
  else if ← word "EXCEPT" then return some .except
  else return none

/-- The set operations behind a body, at most `n` of them. -/
def setOperations : Nat → Body → Read Body
  | 0, b => return b
  | n + 1, b => do
    match ← setOperator? with
    | some op => setOperations n (.compound op b (← simpleBody G))
    | none => return b

/-- The common tables in front of a statement. -/
def commonTables : Read (List CommonTable) := do
  if !(← word "WITH") then return []
  let _ ← word "RECURSIVE"
  list do
    let n ← name
    let columns ← do
      if ← atSymbol "(" then pure (some (← parenthesized (list name))) else pure none
    expectWord "AS"
    if ← word "NOT" then expectWord "MATERIALIZED"
    else
      let _ ← word "MATERIALIZED"
    return { name := n, columns, query := ← parenthesized G.query }

/-- A query behind its common tables. -/
def queryAfter (common : List CommonTable) : Read Query := do
  let first ← simpleBody G
  let body ← setOperations G (← remaining) first
  let order ← orderBy G
  if ← word "LIMIT" then
    let n ← G.expr 0
    if ← word "OFFSET" then
      return { common, body, order, limit := some n, offset := some (← G.expr 0) }
    else if ← symbol "," then
      return { common, body, order, limit := some (← G.expr 0), offset := some n }
    else return { common, body, order, limit := some n }
  else return { common, body, order }

/-- A query. -/
def query : Read Query := do
  queryAfter G (← commonTables G)

/-- The grammar whose parts may use each other at most as often as the fuel says. -/
def grammar : Nat → Grammar
  | 0 =>
    let stop {α : Type} : Read α := throw (.general "parser stack overflow")
    { expr := fun _ => stop, query := stop, source := stop }
  | fuel + 1 =>
    let G := grammar fuel
    { expr := expression G, query := query G, source := source G }

end SqlJob.Database.Read
