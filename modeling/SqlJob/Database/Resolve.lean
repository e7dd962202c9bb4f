import SqlJob.Database.Scope

/-!
# What queries give

The columns of a query are known before any row is looked at: their names, and the declarations
behind them. Finding them out is also the check of the query: every table, column and function in
it must exist, and each part must fit its place.
-/

namespace SqlJob.Database

/-- The recursive parts of the check. -/
structure Resolver where
  /-- What is known of the value of an expression. -/
  expr : Env → Expr → Except Fault ScopeColumn
  /-- The columns of a query. -/
  query : Env → Query → Except Fault (List ScopeColumn)

namespace Resolve

/-- A column of which nothing is known but the name. -/
def plain (name : String) : ScopeColumn := { name }

/-- Columns with other names, as far as there are any. -/
def renamed (names : Option (List String)) (columns : List ScopeColumn) : List ScopeColumn :=
  match names with
  | some ns => columns.zipIdx.map fun (c, i) => { c with name := ns.getD i c.name }
  | none => columns

/-- Columns with names of their own: a repeated one gets a number. -/
def distinctNames (columns : List ScopeColumn) : List ScopeColumn :=
  columns.foldl (fun done c => done ++ [{ c with name := fresh done c.name }]) []
where
  taken (done : List ScopeColumn) (n : String) : Bool := done.any fun c => sameName c.name n
  fresh (done : List ScopeColumn) (n : String) : String :=
    if taken done n then
      ((List.range done.length).map fun i => n ++ ":" ++ toString (i + 1)).find?
        (fun m => !taken done m) |>.getD n
    else n

/-- The functions that only make sense on a window. -/
def windowFunctions : List String := [
  "row_number", "rank", "dense_rank", "percent_rank", "cume_dist", "ntile", "lag", "lead",
  "first_value", "last_value", "nth_value"]

/-- The columns of the table that lists what was made. -/
def schemaColumns : List ScopeColumn := [
  { name := "type", type := some "TEXT", affinity := some .text },
  { name := "name", type := some "TEXT", affinity := some .text },
  { name := "tbl_name", type := some "TEXT", affinity := some .text },
  { name := "rootpage", type := some "INT", affinity := some .integer },
  { name := "sql", type := some "TEXT", affinity := some .text }]

/-- The names of that table. -/
def isSchemaTable (name : String) : Bool :=
  ["sqlite_master", "sqlite_schema"].contains (foldName name)

/-- A table as an item of a `FROM` clause. -/
def tableSource (t : Table) (name : String) : Source where
  name := some name
  columns := t.columns.map fun c =>
    { name := c.name, type := c.type, affinity := some c.affinity, collation := some c.collation }
  rowid :=
    if t.withoutRowid then none
    else some (((t.rowidColumn.bind (t.columns[·]?)).map (·.name)).getD "rowid")

/-- A fault about a table that a view needs. -/
def inView (f : Fault) : Fault :=
  match f with
  | .noSuchTable n => if n.contains '.' then f else .noSuchTable ("main." ++ n)
  | f => f

variable (R : Resolver)

/-- Whether a query takes rows from a table of the given name. -/
def mentions (name : String) : Nat → Query → Bool
  | 0, _ => false
  | fuel + 1, q => body fuel q.body
where
  body : Nat → Body → Bool
    | 0, _ => false
    | fuel + 1, b =>
      match b with
      | .select s => terms fuel s.source
      | .values _ => false
      | .compound _ a b => body fuel a || body fuel b
  terms : Nat → List FromItem → Bool
    | 0, _ => false
    | fuel + 1, items => items.any fun i =>
      match i.term with
      | .table n _ => n.schema.isNone && sameName n.name name
      | .function _ _ _ => false
      | .query q _ => body fuel q.body
      | .group items => terms fuel items

/-- The columns of a table that a query defines for itself. One that takes rows from itself has the
columns of the first part of its body. -/
def commonColumns (env : Env) (t : CommonTable) (before : List Common) :
    Except Fault (List ScopeColumn) := do
  let outer := { env with common := before }
  let columns ←
    match t.query.body with
    | .compound _ first _ =>
      if mentions t.name Expr.depthLimit t.query then do
        let columns ← R.query outer { t.query with body := first, order := [], limit := none,
                                                   offset := none }
        let columns := distinctNames (renamed t.columns columns)
        R.query { env with common := .rows t.name { columns } :: before } t.query
      else R.query outer t.query
    | _ =>
      if mentions t.name Expr.depthLimit t.query then
        throw (.general ("circular reference: " ++ t.name))
      else R.query outer t.query
  match t.columns with
  | some ns =>
    if ns.length != columns.length then
      throw (.general ("table " ++ t.name ++ " has " ++ toString columns.length ++
        " values for " ++ toString ns.length ++ " columns"))
  | none => pure ()
  return distinctNames (renamed t.columns columns)

/-- The columns of a view. -/
def viewColumns (env : Env) (v : View) : Except Fault (List ScopeColumn) :=
  match R.query { env with common := [], frames := [] } v.query with
  | .ok columns =>
    match v.columns with
    | some ns =>
      if ns.length != columns.length then
        .error (.general ("expected " ++ toString ns.length ++ " columns for '" ++ v.name ++
          "' but got " ++ toString columns.length))
      else .ok (distinctNames (renamed v.columns columns))
    | none => .ok (distinctNames columns)
  | .error f => .error (inView f)

/-- A table term that is no group as an item of a `FROM` clause. -/
def termSource (env : Env) : TableTerm → Except Fault Source
  | .table n alias? => do
    let name := alias?.getD n.name
    match if n.schema.isNone then env.common? n.name else none with
    | some (.query t before) =>
      return { name := some name, columns := ← commonColumns R env t before }
    | some (.rows _ r) => return { name := some name, columns := r.columns }
    | none =>
      if !env.isReadable then throw .notADatabase
      if !n.isLocal then throw (.noSuchTable n.display)
      match env.store.table? n.name with
      | some t => return tableSource t name
      | none =>
        match env.store.view? n.name with
        | some v => return { name := some name, columns := ← viewColumns R env v }
        | none =>
          if isSchemaTable n.name then
            return { name := some name, columns := schemaColumns, rowid := some "rowid" }
          else throw (.noSuchTable n.display)
  | .function n _ _ => throw (.noSuchTable n)
  | .query q alias? => do
    return { name := alias?, columns := distinctNames (← R.query env q) }
  | .group _ => return { name := none, columns := [] }

/-- The names that an item has in common with those before it, where it joins them by such. -/
def sharedNames (before : List Source) (i : FromItem) (s : Source) : Except Fault (List String) := do
  let isBefore (n : String) : Bool :=
    before.any fun b => b.columns.any fun c => sameName c.name n
  if i.natural then return (s.columns.filter fun c => isBefore c.name).map (·.name)
  for n in i.shared do
    if !(isBefore n && s.columns.any fun c => sameName c.name n) then
      throw (.general ("cannot join using column " ++ n ++
        " - column not present in both tables"))
  return i.shared

/-- The item with its shared columns marked as merged. -/
def merge (names : List String) (s : Source) : Source :=
  { s with columns := s.columns.map fun c =>
      if names.any (sameName c.name) then { c with merged := true } else c }

/-- The columns that bare shared names mean, where a join keeps rows of its later side that have no
partner: those of that side, or both in turn. -/
def standIns (kind : JoinKind) (names : List String) (before added : List Source) : List Source :=
  if kind = .inner || kind = .left then before
  else before.zipIdx.map fun (s, i) =>
    { s with columns := s.columns.zipIdx.map fun (c, j) =>
        match if names.any (sameName c.name) && !c.merged then place c.name else none with
        | some p =>
          let earlier := if c.instead.isEmpty then [(i, j)] else c.instead
          { c with instead := if kind = .full then earlier ++ [p] else [p] }
        | none => c }
where
  place (n : String) : Option (Nat × Nat) :=
    added.zipIdx.findSome? fun (s, k) =>
      (s.columns.findIdx? fun c => sameName c.name n).map (before.length + k, ·)

/-- The items before a join and those that it adds, with their shared columns merged. -/
def joined (before : List Source) (i : FromItem) (added : List Source) :
    Except Fault (List Source) := do
  let names ← added.mapM (sharedNames before i)
  let shift (c : ScopeColumn) : ScopeColumn :=
    { c with instead := c.instead.map fun (k, l) => (before.length + k, l) }
  let added := added.map fun s => { s with columns := s.columns.map shift }
  return standIns i.kind names.flatten before added ++ (added.zip names).map fun (s, ns) => merge ns s

/-- The items of a `FROM` clause behind those before them; groups are taken apart. -/
def sourcesFrom (env : Env) : Nat → List Source → List FromItem → Except Fault (List Source)
  | 0, before, _ => .ok before
  | _ + 1, before, [] => .ok before
  | fuel + 1, before, i :: rest => do
    let added ←
      match i.term with
      | .group items => sourcesFrom env fuel [] items
      | term => do pure [← termSource R env term]
    sourcesFrom env fuel (← joined before i added) rest

/-- The items of a `FROM` clause. -/
def sources (env : Env) (items : List FromItem) : Except Fault (List Source) :=
  sourcesFrom R env Expr.depthLimit [] items

/-- The conditions in a `FROM` clause. -/
def joinConditions : Nat → List FromItem → List Expr
  | 0, _ => []
  | fuel + 1, items => items.flatMap fun i =>
    (match i.term with
      | .group items => joinConditions fuel items
      | _ => []) ++ i.on.toList

/-- The conditions that shared columns are equal, between the sources from `start` on and those from
`middle` on. -/
def sharedConditions (sources : List Source) (start middle : Nat) (names : List String) :
    List Expr :=
  names.filterMap fun n =>
    let column (i : Nat) : Option Expr :=
      (sources[i]?).bind fun s =>
        (s.columns.zipIdx.find? fun c => sameName c.1.name n).map fun (c, j) => c.expr i j
    match (List.range' start (middle - start)).findSome? column,
      (List.range' middle (sources.length - middle)).findSome? column with
    | some a, some b => some (.binary .equal a b)
    | _, _ => none

/-- The conditions of items whose sources stand from some place on, each with the place of the last
source that it is about, and the place behind the items. The items of a group see no source before
`start`. -/
def conditionsFrom (sources : List Source) :
    Nat → Nat → Nat → List FromItem → Except Fault (List (Nat × Expr) × Nat)
  | 0, _, place, _ => .ok ([], place)
  | _ + 1, _, place, [] => .ok ([], place)
  | fuel + 1, start, place, i :: rest => do
    let (inner, stop) ←
      match i.term with
      | .group items => conditionsFrom sources fuel place place items
      | _ => .ok ([], place + 1)
    let added := (sources.take stop).drop place
    let names ← added.mapM (sharedNames ((sources.take place).drop start) i)
    let own := i.on.toList ++ sharedConditions (sources.take stop) start place names.flatten
    let (others, last) ← conditionsFrom sources fuel start stop rest
    return (inner ++ own.map (stop - 1, ·) ++ others, last)

/-- All conditions of a `FROM` clause, each with the place of the last source that it is about. -/
def conditions (sources : List Source) (items : List FromItem) :
    Except Fault (List (Nat × Expr)) := do
  return (← conditionsFrom sources Expr.depthLimit 0 0 items).1

/-! ### Select lists -/

/-- Whether the expression is a name of a column, with what it means. -/
def columnMeaning? (env : Env) : Expr → Option ScopeColumn
  | .name t c q =>
    match env.meaning t c q with
    | .ok (.field _ _ _ info) => some info
    | _ => none
  | .field i j =>
    match env.frames with
    | f :: _ => (f.sources[i]?).bind fun s => s.columns[j]?
    | [] => none
  | _ => none

/-- The columns that a star stands for, as expressions with their names. -/
def starColumns (sources : List Source) (wanted : Source → Bool) (all : Bool) :
    List (Expr × String) :=
  sources.zipIdx.flatMap fun (s, i) =>
    if wanted s then
      (s.columns.zipIdx.filter fun (c, _) => all || !c.merged).map fun (c, j) =>
        (if all then .field i j else c.expr i j, c.name)
    else []

/-- The expressions of a select list with the names of the columns they give. -/
def expandItems (env : Env) (sources : List Source) (items : List ResultItem) :
    Except Fault (List (Expr × String)) := do
  let parts ← items.mapM fun
    | .star => do
      if sources.isEmpty then throw (.general "no tables specified")
      return starColumns sources (fun _ => true) false
    | .tableStar t => do
      if !(sources.any (·.hasName t)) then throw (.noSuchTable t)
      return starColumns sources (·.hasName t) true
    | .expr e alias? text => do
      match alias? with
      | some a => return [(e, a)]
      | none =>
        match columnMeaning? env e with
        | some c => return [(e, c.name)]
        | none => return [(e, text)]
  return parts.flatten

/-- The names that a select list gives to expressions. -/
def aliases (items : List ResultItem) : List (String × Expr) :=
  items.filterMap fun
    | .expr e (some a) _ => some (a, e)
    | _ => none

/-- An ordinal number. -/
def ordinal (n : Nat) : String :=
  let suffix :=
    if n % 100 / 10 = 1 then "th"
    else match n % 10 with
      | 1 => "st"
      | 2 => "nd"
      | 3 => "rd"
      | _ => "th"
  toString n ++ suffix

/-- The place that an expression names in a list of so many columns: a number in range, the name of
a column or an alias. -/
def place? (clause : String) (position columns : Nat) (named : String → Option Nat) (e : Expr) :
    Except Fault (Option Nat) :=
  match e with
  | .literal (.int n) =>
    if 1 ≤ n ∧ n ≤ columns then .ok (some (n.toNat - 1))
    else .error (.general (ordinal (position + 1) ++ " " ++ clause ++
      " BY term out of range - should be between 1 and " ++ toString columns))
  | .name none c _ => .ok (named c)
  | .collate e _ =>
    match e with
    | .name none c _ => .ok (named c)
    | _ => .ok none
  | _ => .ok none

/-- The position of an alias in a select list. -/
def aliasPlace? (items : List (Expr × String)) (names : List (String × Expr)) (n : String) :
    Option Nat :=
  if names.any (sameName n ·.1) then items.findIdx? fun i => sameName i.2 n else none

/-- The columns of a select. Every expression in it is checked. -/
def selectColumns (env : Env) (s : Select) : Except Fault (List ScopeColumn) := do
  let sources ← sources R env s.source
  let names := aliases s.items
  let frame : Frame := { sources, aliases := names }
  let inside := env.push frame
  let plainFrame := env.push { frame with allowsAggregates := false }
  let bare := env.push { frame with aliases := [] }
  let items ← expandItems bare sources s.items
  let columns ← items.mapM fun (e, n) => do return { (← R.expr bare e) with name := n }
  for e in joinConditions Expr.depthLimit s.source do
    let _ ← R.expr (env.push { frame with aliases := [], allowsAggregates := false }) e
  let aggregated := !s.groupBy.isEmpty || items.any (·.1.hasAggregate) ||
    s.having.any (·.hasAggregate)
  if let some e := s.having then
    if !aggregated then throw (.general "HAVING clause on a non-aggregate query")
    let _ ← R.expr inside e
  if let some e := s.condition then
    let _ ← R.expr plainFrame e
  for (e, i) in s.groupBy.zipIdx do
    match ← place? "GROUP" i items.length (fun _ => none) e with
    | some _ => pure ()
    | none =>
      if e.hasAggregate then
        throw (.general "aggregate functions are not allowed in the GROUP BY clause")
      let _ ← R.expr plainFrame e
  return columns

/-- The columns of a body. -/
def bodyColumns (env : Env) : Nat → Body → Except Fault (List ScopeColumn)
  | 0, _ => .ok []
  | fuel + 1, b =>
    match b with
    | .select s => selectColumns R env s
    | .values rows => do
      let n := (rows.headD []).length
      if rows.any (·.length != n) then throw .unequalRows
      for row in rows do
        for e in row do
          let _ ← R.expr (env.push { sources := [] }) e
      return (List.range n).map fun i => plain ("column" ++ toString (i + 1))
    | .compound op a b => do
      let left ← bodyColumns env fuel a
      let right ← bodyColumns env fuel b
      if left.length != right.length then
        match b with
        | .values _ => throw .unequalRows
        | _ => throw (.unequalColumns op.text)
      return left

/-- The environment of a query behind its common tables. -/
def withCommon (env : Env) (tables : List CommonTable) : Env :=
  tables.foldl (fun env t => { env with common := .query t env.common :: env.common }) env

/-- The columns of a query. -/
def queryColumns (env : Env) (q : Query) : Except Fault (List ScopeColumn) := do
  let env := withCommon env q.common
  let columns ← bodyColumns R env Expr.depthLimit q.body
  match q.body with
  | .select s =>
    let sources ← sources R env s.source
    let inside := env.push { sources, aliases := aliases s.items }
    let items ← expandItems (env.push { sources }) sources s.items
    for (t, i) in q.order.zipIdx do
      match ← place? "ORDER" i columns.length (aliasPlace? items (aliases s.items)) t.expr with
      | some _ => pure ()
      | none =>
        let _ ← R.expr inside t.expr
  | _ =>
    for (t, i) in q.order.zipIdx do
      let named (n : String) : Option Nat := columns.findIdx? fun c => sameName c.name n
      match ← place? "ORDER" i columns.length named t.expr with
      | some _ => pure ()
      | none => throw (.general (ordinal (i + 1) ++
          " ORDER BY term does not match any column in the result set"))
  for e in q.limit.toList ++ q.offset.toList do
    let _ ← R.expr { env with frames := [] } e
  return columns

/-! ### Expressions -/

/-- Checks the call of a function. -/
def checkCall (env : Env) (c : Call) : Except Fault Unit := do
  let f := foldName c.function
  let n := c.args.length
  let isAggregate := Expr.isAggregate (.call { c with window := none })
  if windowFunctions.contains f then
    if c.window.isNone then
      throw (.general ("misuse of window function " ++ c.function ++ "()"))
  else if isAggregate then
    match Aggregate.arities.lookup f with
    | some bounds =>
      if !Function.admits bounds n || (c.star && f != "count") then
        throw (.wrongArguments c.function)
    | none => pure ()
    if c.window.isNone && env.frames.head?.any (!·.allowsAggregates) then
      throw (.misusedAggregate c.function)
    if c.args.any (·.hasAggregate) then
      throw (.general ("misuse of aggregate function " ++ c.function ++ "()"))
  else
    match Function.arities.lookup f with
    | some bounds =>
      if !Function.admits bounds n || c.star then throw (.wrongArguments c.function)
    | none =>
      if (Aggregate.arities.lookup f).isSome then throw (.wrongArguments c.function)
      throw (.noSuchFunction c.function)
    if c.window.isSome then
      throw (.general (c.function ++ "() may not be used as a window function"))

/-- How many values an expression gives. -/
def width : Expr → Nat
  | .row items => items.length
  | _ => 1

/-- What is known of the value of an expression whose names all mean something. -/
def exprColumn (env : Env) (e : Expr) : Except Fault ScopeColumn := do
  for c in e.children do
    let _ ← R.expr env c
  match e with
  | .name t c q =>
    match ← env.meaning t c q with
    | .field _ _ _ info => return info
    | .output depth e => R.expr (env.atDepth depth) e
    | .constant _ => return plain ""
  | .field .. => return (columnMeaning? env e).getD (plain "")
  | .unary op e =>
    match op with
    | .positive => return { (← R.expr env e) with affinity := none, type := none }
    | _ => return plain ""
  | .binary op a b =>
    if op.isComparison && width a != width b then throw (.general "row value misused")
    return plain ""
  | .collate e n =>
    match Collation.ofName? n with
    | some c => return { (← R.expr env e) with collation := some c, type := none }
    | none => throw (.noSuchCollation n)
  | .cast e t =>
    return { (← R.expr env e) with affinity := some (Affinity.ofTypeName t), type := none }
  | .like _ f _ _ _ =>
    if f = "REGEXP" then throw (.noSuchFunction "REGEXP")
    return plain ""
  | .inQuery _ a q =>
    let columns ← R.query env q
    if columns.length != width a then throw (.subqueryColumns columns.length (width a))
    return plain ""
  | .existsIn q =>
    let _ ← R.query env q
    return plain ""
  | .scalar q =>
    let columns ← R.query env q
    match columns with
    | [c] => return c
    | _ => throw (.subqueryColumns columns.length 1)
  | .call c =>
    checkCall env c
    return plain ""
  | _ => return plain ""

/-- The check whose parts may use each other at most as often as the fuel says. -/
def resolver : Nat → Resolver
  | 0 =>
    { expr := fun _ _ => .error (.general "Expression tree is too large (maximum depth 1000)")
      query := fun _ _ => .error (.general "parser stack overflow") }
  | fuel + 1 =>
    let R := resolver fuel
    { expr := exprColumn R, query := queryColumns R }

end Resolve

end SqlJob.Database
