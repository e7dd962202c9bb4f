import SqlJob.Database.Evaluate

/-!
# The rows of queries

A select goes through the rows of its `FROM` clause in the order of its plan, keeps those that meet
its condition, puts them into groups if functions of rows are called, and gives one row for each
that is left. Set operations, orders and limits work on the rows that are given.
-/

namespace SqlJob.Database.Evaluate

variable (R : Resolver) (E : Evaluator)

/-! ### Rows of tables -/

/-- The keys that an index sorts a row by. -/
def indexKeys (i : Index) (r : Row) : List SortKey :=
  i.keys.map fun k =>
    { cell := ((k.column.bind (r.cells[·]?))).getD .null
      collation := k.collation, descending := k.descending }

/-- The rows of a table as the items of a `FROM` clause have them. -/
def tableRows (t : Table) (rows : List Row) : List (List Cell) :=
  rows.map fun r => if t.withoutRowid then r.cells else r.cells ++ [.int r.rowid]

/-- The rows of a table without row numbers in the order of its primary key. -/
def naturalRows (t : Table) : List Row :=
  if t.withoutRowid then
    sorted (t.rows.map fun r =>
      (t.primaryKey.map fun c =>
        { cell := (r.cells[c]?).getD .null
          collation := ((t.columns[c]?).map (·.collation)).getD .binary : SortKey }, r))
  else t.rows

/-- The rows of a table in the order in which they are accessed. -/
def accessed (t : Table) (l : Loop) : List (List Cell) :=
  let rows :=
    match l.access with
    | .indexScan i _ => sorted (t.rows.map fun r => (indexKeys i r, r))
    | .index i _ _ => sorted (t.rows.map fun r => (indexKeys i r, r))
    | _ => naturalRows t
  tableRows t (if l.reversed then rows.reverse else rows)

/-- The rows of the table that lists what was made. -/
def schemaRows (s : Store) : List (List Cell) :=
  let objects : List (Nat × List Cell) :=
    s.tables.flatMap (fun t =>
      (t.sequence, [.text "table", .text t.name, .text t.name, .int (t.sequence + 2), .text t.text]) ::
      (t.indexes.map fun i =>
        (i.sequence, [.text "index", .text i.name, .text t.name, .int (i.sequence + 2),
          match i.text with
          | some x => .text x
          | none => .null]))) ++
    s.views.map fun v =>
      (v.sequence, [.text "view", .text v.name, .text v.name, .int 0, .text v.text])
  let ordered := objects.mergeSort fun a b => a.1 ≤ b.1
  ordered.zipIdx.map fun ((_, cells), i) => cells ++ [.int (i + 1)]

/-- How many rows a query that uses itself gives at most. -/
def recursionLimit : Nat := 100000

/-- The rows of a query that uses itself: each row is given back to it once, in turn. -/
def recursiveRows (step : List Cell → Except Fault (List (List Cell))) (distinct : Bool)
    (limit : Option Nat) : Nat → List (List Cell) → List (List Cell) → Except Fault (List (List Cell))
  | 0, _, done => .ok done.reverse
  | _ + 1, [], done => .ok done.reverse
  | fuel + 1, r :: queue, done =>
    if limit.any (· ≤ done.length) then .ok done.reverse
    else do
      let more ← step r
      let same (a b : List Cell) : Bool := (a.zip b).all fun (x, y) => Cell.same .binary x y
      let more :=
        if distinct then
          more.filter fun x => !((r :: queue) ++ done).any (same x)
        else more
      let more := if distinct then withoutRepetition same more else more
      recursiveRows step distinct limit fuel (queue ++ more) (r :: done)

/-- A limit or an offset, which must be an integer. -/
def count? (env : Env) : Option Expr → Except Fault (Option Int)
  | none => .ok none
  | some e => do
    match Affinity.numeric.apply (← E.expr { env with frames := [] } e) with
    | .int n => return some n
    | _ => throw .datatypeMismatch

/-- The rows of a table that a query defines for itself. -/
def commonRows (env : Env) (t : CommonTable) (before : List Common) :
    Except Fault (List (List Cell)) := do
  let outer := { env with common := before }
  match t.query.body with
  | .compound op first second =>
    if Resolve.mentions t.name Expr.depthLimit t.query then
      let columns ← Resolve.commonColumns R env t before
      let inside := Resolve.withCommon outer t.query.common
      let start ← E.query inside { body := first }
      let step (r : List Cell) : Except Fault (List (List Cell)) :=
        E.query { inside with common := .rows t.name { columns, rows := [r] } :: inside.common }
          { body := second }
      let limit := (← count? E outer t.query.limit).bind fun n =>
        if n < 0 then none else some n.toNat
      recursiveRows step (op = .union) limit recursionLimit start []
    else E.query outer t.query
  | _ => E.query outer t.query

/-- The rows of a table term that is no group. -/
def termRows (env : Env) : TableTerm → Except Fault (List (List Cell))
  | .table n _ => do
    match if n.schema.isNone then env.common? n.name else none with
    | some (.query t before) => commonRows R E env t before
    | some (.rows _ r) => return r.rows
    | none =>
      match env.store.table? n.name with
      | some t => return tableRows t (naturalRows t)
      | none =>
        match env.store.view? n.name with
        | some v => E.query { env with common := [], frames := [] } v.query
        | none =>
          if Resolve.isSchemaTable n.name then return schemaRows env.store
          else throw (.noSuchTable n.display)
  | .function n _ _ => throw (.noSuchTable n)
  | .query q _ => E.query env q
  | .group _ => return []

/-! ### Joins -/

/-- Keeps what a condition holds for. -/
def keep {α : Type} (holds : α → Except Fault Bool) : List α → Except Fault (List α)
  | [] => .ok []
  | x :: rest => do
    let tail ← keep holds rest
    if ← holds x then return x :: tail else return tail

/-- Joins rows with the rows of one more item. -/
def joinRows (kind : JoinKind) (holds : JoinedRow → Except Fault Bool) (nullsLeft : JoinedRow)
    (nullsRight : JoinedRow) (left right : List JoinedRow) : Except Fault (List JoinedRow) := do
  let pairs ← left.mapM fun r => do
    let partners ← (right.zipIdx).filterMapM fun (q, i) => do
      if ← holds (r ++ q) then return some (q, i) else return none
    return (r, partners)
  let rows := pairs.flatMap fun (r, partners) =>
    if partners.isEmpty && (kind = .left || kind = .full) then [r ++ nullsRight]
    else partners.map fun (q, _) => r ++ q
  if kind = .right || kind = .full then
    let met := pairs.flatMap fun (_, partners) => partners.map (·.2)
    let alone := right.zipIdx.filter fun (_, i) => !met.contains i
    return rows ++ alone.map fun (q, _) => nullsLeft ++ q
  else return rows

/-- The rows of a `FROM` clause in the order in which it is written, with its sources. -/
def writtenRows (env : Env) :
    Nat → List Source → List JoinedRow → List FromItem → Except Fault (List Source × List JoinedRow)
  | 0, sources, rows, _ => .ok (sources, rows)
  | _ + 1, sources, rows, [] => .ok (sources, rows)
  | fuel + 1, sources, rows, i :: rest => do
    let (added, right) ←
      match i.term with
      | .group items => writtenRows env fuel [] [[]] items
      | term => do
        let s ← Resolve.termSource R env term
        pure ([s], (← termRows R E env term).map fun r => [r])
    let names ← added.mapM (Resolve.sharedNames sources i)
    let all ← Resolve.joined sources i added
    let conditions := i.on.toList ++
      Resolve.sharedConditions (sources ++ added) 0 sources.length names.flatten
    let holds (row : JoinedRow) : Except Fault Bool := do
      let env := env.push { sources := all, row }
      conditions.allM fun e => do return (← E.expr env e).truth?.getD false
    let rows ← joinRows i.kind holds (sources.map (·.nullRow)) (added.map (·.nullRow)) rows right
    writtenRows env fuel all rows rest

/-- The table behind an item, if it is one of the store. -/
def itemTable? (store : Store) (i : FromItem) : Option Table :=
  match i.term with
  | .table n _ => store.table? n.name
  | _ => none

/-- The rows of loops over tables, each row with its fields in the order of the sources. -/
def loopRows (env : Env) (items : List FromItem) (count : Nat) (loops : List Loop) :
    List JoinedRow :=
  let own (l : Loop) : List (List Cell) :=
    match (items[l.source]?).bind (itemTable? env.store) with
    | some t => accessed t l
    | none => []
  let step (rows : List (List (Nat × List Cell))) (l : Loop) : List (List (Nat × List Cell)) :=
    rows.flatMap fun r => (own l).map fun cells => (l.source, cells) :: r
  (loops.foldl step [[]]).map fun r => (List.range count).map fun i => (r.lookup i).getD []

/-- The rows of a `FROM` clause. -/
def sourceRows (P : Planning.Planner) (env : Env) (sources : List Source) (s : Select)
    (order : List OrderTerm) : Except Fault (List JoinedRow) := do
  let items := Planning.flattened Expr.depthLimit s.source
  match if s.source.isEmpty then none else Planning.loops? R P env sources s order with
  | some loops =>
    let rows := loopRows env items sources.length loops
    let conditions ← Resolve.conditions sources s.source
    keep (fun row => do
      let env := env.push { sources, row }
      conditions.allM fun (_, e) => do return (← E.expr env e).truth?.getD false) rows
  | none => return (← writtenRows R E env Expr.depthLimit [] [[]] s.source).2

/-! ### Selects -/

/-- A row before it is given: a row of the `FROM` clause and the group behind it. -/
abbrev Candidate := JoinedRow × Option (List JoinedRow)

/-- The row of a group that stands for it: the first, or the one that the only call of `min` or
`max` picks. -/
def representative (env : Env) (calls : List Call) (rows : List JoinedRow) :
    Except Fault (Option JoinedRow) := do
  match calls with
  | [c] =>
    match foldName c.function, c.args with
    | f, [e] =>
      if f == "min" || f == "max" then
        let keyed ← rows.mapM fun r => do return (← E.expr (atRow env r none) e, r)
        let keyed := keyed.filter fun k => !k.1.isNull
        let collation := collationOf R env e
        let wanted : Ordering := if f == "min" then .lt else .gt
        match keyed with
        | [] => return rows.head?
        | k :: rest =>
          return some (rest.foldl (fun best x =>
            if Cell.compare collation x.1 best.1 == wanted then x else best) k).2
      else return rows.head?
    | _, _ => return rows.head?
  | _ => return rows.head?

/-- The groups of rows with the same keys, in the order of the keys. -/
def groups (env : Env) (keys : List Expr) (rows : List JoinedRow) :
    Except Fault (List (List JoinedRow)) := do
  let keyed ← rows.mapM fun r => do
    let env := atRow env r none
    let ks ← keys.mapM fun e => do
      return { cell := ← E.expr env e, collation := collationOf R env e : SortKey }
    return (ks, (ks, r))
  let ordered := sorted keyed
  let same (a b : List SortKey × JoinedRow) : Bool := keysLe a.1 b.1 && keysLe b.1 a.1
  return (runs same ordered).map fun g => g.map (·.2)

/-- The rows of a select with the keys that they are to be sorted by. -/
def selectRows (P : Planning.Planner) (env : Env) (s : Select) (order : List OrderTerm) :
    Except Fault (List (List Cell)) := do
  let sources ← Resolve.sources R env s.source
  let names := Resolve.aliases s.items
  let nulls := sources.map (·.nullRow)
  let frame : Frame := { sources, row := nulls, aliases := names }
  let inside := env.push frame
  let bare := env.push { frame with aliases := [] }
  let items ← Resolve.expandItems bare sources s.items
  let rows ← sourceRows R E P env sources s order
  let rows ←
    match s.condition with
    | some e => keep (fun r => do
        return (← E.expr (atRow inside r none) e).truth?.getD false) rows
    | none => pure rows
  let orderExprs := order.map (·.expr)
  let calls := (items.map (·.1) ++ s.having.toList ++ orderExprs).flatMap
    (Expr.aggregateCalls Expr.depthLimit)
  let candidates : List Candidate ←
    if !s.groupBy.isEmpty then do
      let keys ← s.groupBy.zipIdx.mapM fun (e, i) => do
        match ← Resolve.place? "GROUP" i items.length (fun _ => none) e with
        | some k => return ((items[k]?).map (·.1)).getD e
        | none => return e
      let gs ← groups R E inside keys rows
      gs.mapM fun g => do return ((← representative R E inside calls g).getD nulls, some g)
    else if !calls.isEmpty then do
      pure [((← representative R E inside calls rows).getD nulls, some rows)]
    else pure (rows.map fun r => (r, none))
  let candidates ←
    match s.having with
    | some e => keep (fun (c : Candidate) => do
        return (← E.expr (atRow inside c.1 c.2) e).truth?.getD false) candidates
    | none => pure candidates
  let hasWindow := (items.map (·.1) ++ orderExprs).any (·.hasWindow)
  let peers := if hasWindow then candidates else []
  let given ← candidates.zipIdx.mapM fun ((row, group), place) => do
    let at' (f : Frame) : Env := env.push { f with row, group, peers, place }
    let cells ← items.mapM fun (e, _) => E.expr (at' { frame with aliases := [] }) e
    let keys ← order.zipIdx.mapM fun (t, i) => do
      let named := Resolve.aliasPlace? items names
      let (cell, collation) ←
        match ← Resolve.place? "ORDER" i items.length named t.expr with
        | some k =>
          let e := ((items[k]?).map (·.1)).getD t.expr
          let own := match t.expr with
            | .collate .. => collationOf R inside t.expr
            | _ => collationOf R bare e
          pure ((cells[k]?).getD .null, own)
        | none => do pure (← E.expr (at' frame) t.expr, collationOf R inside t.expr)
      return { cell, collation, descending := t.descending, nullsFirst := t.nullsFirst : SortKey }
    return (keys, cells)
  let given :=
    if s.distinct then
      let collations := items.map fun (e, _) => collationOf R bare e
      withoutRepetition (fun a b =>
        (a.2.zip (b.2.zip collations)).all fun (x, y, c) => Cell.same c x y) given
    else given
  return sorted given

/-! ### Queries -/

/-- Whether two rows are the same under the collations of their columns. -/
def sameRow (collations : List Collation) (a b : List Cell) : Bool :=
  (a.zip (b.zip collations)).all fun (x, y, c) => Cell.same c x y

/-- Sorts rows by all their fields. -/
def sortedRows (collations : List Collation) (rows : List (List Cell)) : List (List Cell) :=
  sorted (rows.map fun r =>
    ((r.zip collations).map fun (cell, collation) => { cell, collation : SortKey }, r))

/-- The rows of a set operation. -/
def combine (op : SetOperator) (collations : List Collation) (left right : List (List Cell)) :
    List (List Cell) :=
  let same := sameRow collations
  let isIn (rows : List (List Cell)) (r : List Cell) : Bool := rows.any (same r)
  match op with
  | .unionAll => left ++ right
  | .union => sortedRows collations (withoutRepetition same (left ++ right))
  | .intersect => sortedRows collations (withoutRepetition same (left.filter (isIn right)))
  | .except =>
    sortedRows collations (withoutRepetition same (left.filter fun r => !isIn right r))

/-- The rows of a body; a select sorts its own. -/
def bodyRows (P : Planning.Planner) (env : Env) (order : List OrderTerm) :
    Nat → Body → Except Fault (List (List Cell))
  | 0, _ => .ok []
  | fuel + 1, b =>
    match b with
    | .select s => selectRows R E P env s order
    | .values rows => rows.mapM fun row => row.mapM (E.expr (env.push { sources := [] }))
    | .compound op a b => do
      let columns ← Resolve.bodyColumns R env Expr.depthLimit a
      let collations := columns.map fun c => c.collation.getD .binary
      return combine op collations (← bodyRows P env [] fuel a) (← bodyRows P env [] fuel b)

/-- The rows of a query. -/
def queryRows (P : Planning.Planner) (env : Env) (q : Query) :
    Except Fault (List (List Cell)) := do
  let env := Resolve.withCommon env q.common
  let rows ←
    match q.body with
    | .select _ => bodyRows R E P env q.order Expr.depthLimit q.body
    | b => do
      let rows ← bodyRows R E P env [] Expr.depthLimit b
      if q.order.isEmpty then pure rows
      else
        let columns ← Resolve.bodyColumns R env Expr.depthLimit b
        let keys ← q.order.zipIdx.mapM fun (t, i) => do
          let named (n : String) : Option Nat := columns.findIdx? fun c => sameName c.name n
          let k := (← Resolve.place? "ORDER" i columns.length named t.expr).getD 0
          let collation :=
            match t.expr with
            | .collate _ n => (Collation.ofName? n).getD .binary
            | _ => ((columns[k]?).bind (·.collation)).getD .binary
          return (k, collation, t)
        pure (sorted (rows.map fun r =>
          (keys.map fun (k, collation, t) =>
            { cell := (r[k]?).getD .null, collation, descending := t.descending
              nullsFirst := t.nullsFirst : SortKey }, r)))
  let limit ← count? E env q.limit
  let offset ← count? E env q.offset
  let rows := rows.drop (offset.getD 0).toNat
  match limit with
  | some n => return if n < 0 then rows else rows.take n.toNat
  | none => return rows

/-- The evaluation whose parts may use each other at most as often as the fuel says. -/
def evaluator (R : Resolver) (P : Planning.Planner) : Nat → Evaluator
  | 0 =>
    { expr := fun _ _ => .error (.general "Expression tree is too large (maximum depth 1000)")
      query := fun _ _ => .error (.general "parser stack overflow") }
  | fuel + 1 =>
    let E := evaluator R P fuel
    { expr := expr R E, query := queryRows R E P }

end SqlJob.Database.Evaluate
