import SqlJob.Database.Plan

/-!
# Planning queries

From the text of a select to the problem that the planner solves: which tables are gone through,
which conditions limit which columns, which columns are needed and in which order the rows are
wanted. A simple query in a `FROM` clause is planned as if its tables stood there themselves. The
plan of a whole query is a tree, with the queries inside its expressions below it.
-/

namespace SqlJob.Database.Planning

/-- The tables of a `FROM` clause. -/
structure Layout where
  items : List Plan.Item := []
  /-- The item and the column behind each column of each source, where there is one. -/
  fields : List (List (Option (Nat × Nat))) := []
  /-- The conditions of queries that were taken apart, with the environments to read them in and
  the fields of their own sources. -/
  inner : List (Env × List (List (Option (Nat × Nat))) × Expr) := []
  /-- The plans of queries that come first. -/
  before : List PlanTree := []
  /-- The order that a query gives its rows in that was taken apart, if it gives any: item, column,
  collation and direction of each key, if each is a column. -/
  order : Option (Option (List (Nat × Nat × Collation × Bool))) := none

/-- The item and the column of a name in the innermost frame. -/
def fieldOf? (env : Env) (fields : List (List (Option (Nat × Nat)))) : Expr → Option (Nat × Nat)
  | .name t c q =>
    match env.meaning t c q with
    | .ok (.field 0 i j _) => ((fields[i]?).bind (·[j]?)).join
    | _ => none
  | .field i j => ((fields[i]?).bind (·[j]?)).join
  | .collate e _ => fieldOf? env fields e
  | _ => none

/-- Whether a query takes values from the queries around it. -/
def isCorrelated (R : Resolver) (env : Env) (q : Query) : Bool :=
  match R.query { env with frames := [] } q with
  | .ok _ => false
  | .error _ => true

/-- The items that an expression takes values from. -/
def itemsOf (R : Resolver) (env : Env) (fields : List (List (Option (Nat × Nat)))) (e : Expr) :
    List (Nat × Nat) :=
  ((e.names (isCorrelated R env) Expr.depthLimit).filterMap (fun (t, c) =>
    fieldOf? env fields (.name t c false)) ++
    (e.fields Expr.depthLimit).filterMap fun (i, j) => fieldOf? env fields (.field i j)).eraseDups

/-- The affinity that two sides are compared with. -/
def comparisonAffinity (a b : Option Affinity) : Option Affinity :=
  match a, b with
  | none, b => b
  | a, none => a
  | some a, some b => if a.isNumeric || b.isNumeric then some .numeric else some .blob

/-- The collation that two sides are compared with: one that is asked for, else that of a
column. -/
def comparisonCollation (R : Resolver) (env : Env) (a b : Expr) : Collation :=
  let explicit : Expr → Option Collation
    | .collate _ n => Collation.ofName? n
    | _ => none
  let declared (e : Expr) : Option Collation :=
    match R.expr env e with
    | .ok c => c.collation
    | .error _ => none
  ((explicit a).orElse fun _ => (explicit b).orElse fun _ => (declared a).orElse fun _ =>
    declared b).getD .binary

/-- The affinity of an expression. -/
def affinityOf (R : Resolver) (env : Env) (e : Expr) : Option Affinity :=
  match R.expr env e with
  | .ok c => c.affinity
  | .error _ => none

/-- How a condition limits columns: the column, the limit, and what it is compared with. -/
def limits : Nat → Expr → List (Expr × Plan.Limit × List Expr)
  | 0, _ => []
  | fuel + 1, e =>
    match e with
    | .binary op a b =>
      match op with
      | .equal | .is => [(a, .equal, [b]), (b, .equal, [a])]
      | .less | .lessEqual => [(a, .upper, [b]), (b, .lower, [a])]
      | .greater | .greaterEqual => [(a, .lower, [b]), (b, .upper, [a])]
      | .or =>
        -- Equalities of one column with several values are a choice among them.
        match limits fuel a, limits fuel b with
        | (.name t c q, l, xs) :: _, (.name t' c' _, l', ys) :: _ =>
          let isChoice : Plan.Limit → Bool
            | .equal => true
            | .oneOf _ => true
            | _ => false
          if t.map foldName == t'.map foldName && sameName c c' && isChoice l && isChoice l' then
            [(.name t c q, .oneOf (Cost.ofNat (xs.length + ys.length)), xs ++ ys)]
          else []
        | _, _ => []
      | _ => []
    | .isNull false a => [(a, .equal, [])]
    | .between false a low high => [(a, .lower, [low]), (a, .upper, [high])]
    | .inList false a items =>
      match items with
      | [x] => [(a, .equal, [x])]
      | items => [(a, .oneOf (Cost.ofNat items.length), items)]
    | .inQuery false a q => [(a, .oneOf 46, [.scalar q])]
    | _ => []

/-- Whether an expression is a whole number next to zero. -/
def isSmall : Expr → Bool
  | .literal (.int n) => -1 ≤ n && n ≤ 1
  | .unary .negative (.literal (.int n)) => n ≤ 1
  | _ => false

variable (R : Resolver)

/-- What a condition says to the planner. -/
def analyse (env : Env) (fields : List (List (Option (Nat × Nat)))) (allowed : Nat → Bool)
    (n : Nat) (e : Expr) : List Plan.Term × Plan.Condition :=
  let terms := (limits Expr.depthLimit e).filterMap fun (column, limit, others) =>
    (fieldOf? env fields column).bind fun (item, c) =>
      let needs := (others.flatMap (itemsOf R env fields)).map (·.1) |>.eraseDups
      if needs.contains item || !allowed item then none
      else
        let other := others.headD (.literal .null)
        some ({
          condition := n, item, column := c, limit, needs
          affinity :=
            match limit with
            | .oneOf _ => affinityOf R env column
            | _ => if others.isEmpty then none
              else comparisonAffinity (affinityOf R env column) (affinityOf R env other)
          collation := comparisonCollation R env column other } : Plan.Term)
  let isEquality := (limits Expr.depthLimit e).any fun l => l.2.1 = .equal
  (terms, {
    items := ((itemsOf R env fields e).map (·.1)).eraseDups
    isEquality
    isLikely :=
      match e with
      | .binary _ _ b => isSmall b
      | _ => false })

/-- What the select around a query in its `FROM` clause lets the query have, if the query is to be
planned as a part of it. -/
structure Surroundings where
  /-- A limit. -/
  limit : Bool
  /-- An order that its rows come in. -/
  order : Bool
  /-- An order without effect. -/
  anyOrder : Bool

/-- Whether a select can be planned as a part of the one around it. -/
def isSimple (around : Surroundings) (q : Query) : Option Select :=
  match q.body with
  | .select s =>
    let isPlain := s.items.all fun
      | .expr e _ _ => !e.hasAggregate && !e.hasWindow
      | _ => true
    let mayOrder := q.order.isEmpty || around.order || (around.anyOrder && q.limit.isNone)
    if !s.distinct && s.groupBy.isEmpty && s.having.isNone && (q.limit.isNone || around.limit) &&
        q.offset.isNone && mayOrder && !s.source.isEmpty && isPlain then some s
    else none
  | _ => none

/-- Whether all items of a `FROM` clause join without keeping rows that have no partner. -/
def isInner : Nat → List FromItem → Bool
  | 0, _ => false
  | fuel + 1, items => items.all fun i => i.kind = .inner &&
    match i.term with
    | .group items => isInner fuel items
    | _ => true

/-- The items of a `FROM` clause with groups taken apart. -/
def flattened : Nat → List FromItem → List FromItem
  | 0, items => items
  | fuel + 1, items => items.flatMap fun i =>
    match i.term with
    | .group items => flattened fuel items
    | _ => [i]

/-- The columns of items that expressions name. -/
def neededBy (env : Env) (fields : List (List (Option (Nat × Nat)))) (es : List Expr) :
    List (Nat × Nat) :=
  (es.flatMap (itemsOf R env fields)).eraseDups

/-- The number of the last select of a query. -/
def lastNumber : Nat → Body → Nat
  | 0, _ => 0
  | fuel + 1, b =>
    match b with
    | .select s => s.number
    | .values _ => 1
    | .compound _ _ b => lastNumber fuel b

/-- A query that rows come from. -/
structure Behind where
  /-- The environment that it is read in. -/
  env : Env
  query : Query
  /-- The names that it goes by in the loops and where its own plan is shown. -/
  label : String
  name : String
  /-- Whether it takes rows from itself. -/
  isRecursive : Bool := false

/-- The query behind a table term, if rows come from one. -/
def behind? (env : Env) : TableTerm → Option Behind
  | .table n alias? =>
    let label := alias?.getD n.name
    match if n.schema.isNone then env.common? n.name else none with
    | some (.query t before) =>
      some { env := { env with common := before }, query := t.query, label, name := t.name
             isRecursive := Resolve.mentions t.name Expr.depthLimit t.query }
    | some (.rows _ _) => none
    | none =>
      match env.store.table? n.name with
      | some _ => none
      | none => (env.store.view? n.name).map fun v =>
          { env := { env with common := [], frames := [] }, query := v.query, label, name := v.name }
  | .query q alias? =>
    let name := alias?.getD ("(subquery-" ++ toString (lastNumber Expr.depthLimit q.body) ++ ")")
    some { env, query := q, label := name, name }
  | _ => none

/-- The expression that a term to sort by means: a column of the result by its number or its new
name, or the expression itself. -/
def meantBy (s : Select) (outputs : List Expr) (e : Expr) : Expr :=
  match e with
  | .literal (.int n) => (outputs[n.toNat - 1]?).getD e
  | .name none c _ =>
    (s.items.findSome? fun
      | .expr e (some a) _ => if sameName a c then some e else none
      | _ => none).getD e
  | e => e

/-- The keys of an order, if each of them is a column of an item. -/
def keysOf (env : Env) (fields : List (List (Option (Nat × Nat)))) (s : Select)
    (outputs : List Expr) (order : List OrderTerm) : Option (List (Nat × Nat × Collation × Bool)) :=
  order.mapM fun t =>
    let e := meantBy s outputs t.expr
    (fieldOf? env fields e).bind fun (item, c) =>
      if t.nullsFirst.any (· == t.descending) then none
      else some (item, c, comparisonCollation R env e (.literal .null), t.descending)

/-- The parts of a plan that need each other. -/
structure Planner where
  query : Env → Query → List PlanTree

variable (P : Planner)

/-- Puts an item behind a layout. -/
def Layout.add (l : Layout) (item : Plan.Item) (columns : Nat) : Layout :=
  { l with
    items := l.items ++ [item]
    fields := l.fields ++ [(List.range (columns + 1)).map fun j => some (l.items.length, j)] }

/-- The plan of a query that takes rows from itself. -/
def recursiveTrees (b : Behind) (columns : List ScopeColumn) : List PlanTree :=
  match b.query.body with
  | .compound _ first second =>
    let inside := Resolve.withCommon b.env b.query.common
    let again := { inside with common := .rows b.name { columns } :: inside.common }
    [.node "SETUP" (P.query inside (.ofBody first)),
      .node "RECURSIVE STEP" (P.query again (.ofBody second))]
  | _ => []

/-- Adds what stands behind a name for a query to a layout, where `within` gives the layout of a
query's own tables. -/
def Layout.addBehind (within : Env → Surroundings → List (FromItem × Source) → Layout) (env : Env)
    (around : Surroundings) (i : FromItem) (s : Source) (l : Layout) : Layout :=
  match behind? env i.term with
  | none => l.add { label := (s.name).getD "", table := none, join := i.kind } s.columns.length
  | some b =>
    let simple := if i.kind = .inner && !b.isRecursive then isSimple around b.query else none
    let parts : Option (Select × List Source) :=
      simple.bind fun sel =>
        if isInner Expr.depthLimit sel.source then
          match Resolve.sources R (Resolve.withCommon b.env b.query.common) sel.source with
          | .ok sources => some (sel, sources)
          | .error _ => none
        else none
    match parts with
    | none =>
      let isOnce := i.kind = .inner && l.before.isEmpty
      let trees := if b.isRecursive then recursiveTrees P b s.columns else P.query b.env b.query
      let l := { l with before := l.before ++
        [PlanTree.node ((if isOnce then "CO-ROUTINE " else "MATERIALIZE ") ++ b.name) trees] }
      l.add { label := b.label, table := none, join := i.kind } s.columns.length
    | some (sel, sources) =>
      let env' := Resolve.withCommon b.env b.query.common
      let items := flattened Expr.depthLimit sel.source
      let inner := within env'
        { limit := false, order := false, anyOrder := around.anyOrder || items.length != 1 }
        (items.zip sources)
      let shift : Option (Nat × Nat) → Option (Nat × Nat) :=
        Option.map fun (n, j) => (l.items.length + n, j)
      let innerFields := inner.fields.map (·.map shift)
      let inside := env'.push { sources }
      let outputs :=
        match Resolve.expandItems inside sources sel.items with
        | .ok items => items.map (·.1)
        | .error _ => []
      let joined :=
        match Resolve.conditions sources sel.source with
        | .ok cs => cs.map (·.2)
        | .error _ => []
      let conditions := (joined ++ sel.condition.toList).flatMap (Expr.conjuncts Expr.depthLimit)
      { l with
        items := l.items ++ inner.items
        fields := l.fields ++ [outputs.map (fieldOf? inside innerFields)]
        inner := l.inner ++ inner.inner.map (fun (e, fs, c) => (e, fs.map (·.map shift), c)) ++
          conditions.map (inside, innerFields, ·)
        before := l.before ++ inner.before
        order :=
          if around.order && !b.query.order.isEmpty then
            some (keysOf R inside innerFields sel outputs b.query.order)
          else l.order }

/-- The tables of a `FROM` clause, whose sources are known. -/
def layout : Nat → Env → Surroundings → List (FromItem × Source) → Layout
  | 0, _, _, _ => {}
  | fuel + 1, env, around, items =>
    items.foldl (fun (l : Layout) (i, s) =>
      match i.term with
      | .table n alias? =>
        let isCommon := n.schema.isNone && (env.common? n.name).isSome
        match if isCommon then none else env.store.table? n.name with
        | some t =>
          l.add { label := alias?.getD n.name, table := some t, join := i.kind } t.columns.length
        | none => l.addBehind R P (layout fuel) env around i s
      | _ => l.addBehind R P (layout fuel) env around i s) {}

/-- A select as a problem for the planner: with the wanted order, and whether items may be put in
another order. -/
structure Posed where
  problem : Plan.Problem
  mayReorder : Bool
  layout : Layout
  /-- The conditions of the problem, each with the environment that it is read in. -/
  conditions : List (Env × Expr)

/-- The least or greatest value that a select without groups asks for, as an order in which it comes
first. -/
def extreme? (s : Select) (outputs : List Expr) : Option OrderTerm :=
  if !s.groupBy.isEmpty || s.having.isSome then none
  else
    match outputs.flatMap (Expr.aggregateCalls Expr.depthLimit) with
    | [c] =>
      match foldName c.function, c.args with
      | "min", [e] => some { expr := e }
      | "max", [e] => some { expr := e, descending := true }
      | _, _ => none
    | _ => none

/-- The only function of rows that a select without groups calls, if it leaves repeated values out. -/
def loneDistinct? (s : Select) (outputs : List Expr) : Option Call :=
  match s.groupBy, outputs.flatMap (Expr.aggregateCalls Expr.depthLimit) with
  | [], [c] => if c.distinct then some c else none
  | _, _ => none

/-- The order of keys that are no columns: rows never come in it. -/
def unsortable : List (Nat × Nat × Collation × Bool) := [(0, 1000000, .binary, false)]

/-- The expressions that a select gives, where it can be read. -/
def outputsOf (env : Env) (sources : List Source) (s : Select) : List Expr :=
  match Resolve.expandItems (env.push { sources }) sources s.items with
  | .ok outputs => outputs.map (·.1)
  | .error _ => []

/-- Poses the problem of a select in an environment with its sources. -/
def pose (env : Env) (sources : List Source) (s : Select) (order : List OrderTerm)
    (isLimited : Bool) : Posed :=
  let items := flattened Expr.depthLimit s.source
  let inside := env.push { sources, aliases := Resolve.aliases s.items }
  let outputs := outputsOf env sources s
  let isGrouped := !s.groupBy.isEmpty || s.having.isSome || outputs.any (·.hasAggregate)
  let isAlone := items.length = 1 && !isGrouped && !s.distinct
  let around : Surroundings := {
    limit := isAlone && s.condition.isNone && !isLimited
    order := isAlone && order.isEmpty
    anyOrder := !order.isEmpty || items.length != 1 }
  let l := layout R P Expr.depthLimit env around (items.zip sources)
  let joined :=
    match Resolve.conditions sources s.source with
    | .ok cs => cs
    | .error _ => []
  -- The condition of a join that keeps rows without partners limits the later item only.
  let own : List (Expr × (Nat → Bool)) :=
    joined.flatMap (fun (n, e) => (e.conjuncts Expr.depthLimit).map fun c =>
      (c, fun (m : Nat) => (items[n]?).all (·.kind = .inner) || m == n)) ++
    (s.condition.toList.flatMap (Expr.conjuncts Expr.depthLimit)).map fun c =>
      (c, fun (_ : Nat) => true)
  let shared : List (Env × List (List (Option (Nat × Nat))) × Expr × (Nat → Bool)) :=
    own.map (fun (e, allowed) => (inside, l.fields, e, allowed)) ++
      l.inner.map fun (e, fs, c) => (e, fs, c, fun (_ : Nat) => true)
  let analysed := shared.zipIdx.map fun ((e, fs, c, allowed), n) => analyse R e fs allowed n c
  let needed := neededBy R inside l.fields (outputs ++ joined.map (·.2) ++ s.condition.toList ++
    s.groupBy ++ s.having.toList ++ order.map (·.expr)) ++
    l.inner.flatMap fun (e, fs, c) => itemsOf R e fs c
  let lone := loneDistinct? s outputs
  let wanted : List OrderTerm :=
    if !s.groupBy.isEmpty then s.groupBy.map fun e => { expr := e }
    else if !order.isEmpty then order
    else if s.distinct then outputs.map fun e => { expr := e }
    else (lone.elim [] (·.args)).map fun e => { expr := e }
  { layout := l
    mayReorder := isInner Expr.depthLimit s.source
    conditions := shared.map fun (e, _, c, _) => (e, c)
    problem := {
      items := l.items.zipIdx.map fun (item, n) =>
        { item with needed := (needed.filter (·.1 = n)).map (·.2) }
      terms := analysed.flatMap (·.1)
      conditions := analysed.map (·.2)
      order :=
        if wanted.isEmpty then l.order.map (·.getD unsortable)
        else some ((keysOf R inside l.fields s outputs wanted).getD unsortable)
      width := outputs.length
      isDistinct := s.distinct || lone.isSome } }

/-- The loops of a select whose sources are all tables, in the order in which they are run. -/
def loops? (env : Env) (sources : List Source) (s : Select) (order : List OrderTerm) :
    Option (List Loop) :=
  let posed := pose R P env sources s order true
  let isTable (i : FromItem) : Bool :=
    match i.term with
    | .table n _ => (n.schema.isSome || (env.common? n.name).isNone) && (env.store.table? n.name).isSome
    | _ => false
  let isPlain := (flattened Expr.depthLimit s.source).all isTable &&
    posed.problem.items.length = sources.length && posed.mayReorder
  if isPlain then some (Plan.solve posed.problem posed.mayReorder).1 else none

/-! ### Trees -/

/-- The line of a test whether a value is among the rows of a query that can be looked up where they
are stored: the query gives one column of one table. If the rows are gone through, they must not
repeat. -/
def storedTest? (env : Env) (left : Expr) (isDriving : Bool) (q : Query) : Option String :=
  match q.body with
  | .select s =>
    match s.source with
    | [i] =>
      match i.term, Resolve.sources R env s.source with
      | .table n _, .ok sources =>
        let outputs := outputsOf env sources s
        let inside := env.push { sources }
        let isPlain := q.common.isEmpty && !s.distinct && s.condition.isNone && s.groupBy.isEmpty &&
          s.having.isNone && q.limit.isNone && (n.schema.isSome || (env.common? n.name).isNone)
        match if isPlain then env.store.table? n.name else none, outputs with
        | some t, [e] =>
          let all := [(List.range (t.columns.length + 1)).map fun j => some (0, j)]
          (fieldOf? inside all e).bind fun (_, c) =>
            if !t.withoutRowid && (t.rowidColumn == some c || c == t.columns.length) then
              some ("USING ROWID SEARCH ON TABLE " ++ t.name ++ " FOR IN-OPERATOR")
            else (t.columns[c]?).bind fun column =>
              let affinity := comparisonAffinity (affinityOf R env left) (some column.affinity)
              let fits (x : Index) : Bool := x.condition.isNone &&
                (x.keys.head?).any (fun k => k.column == some c && k.collation ==
                  ((affinityOf R env left).bind fun _ => some (comparisonCollation R env left left)).getD
                    column.collation) &&
                (!isDriving || (x.unique && x.keys.length = 1))
              if affinity.any (·.isNumeric) && !column.affinity.isNumeric then none
              else (t.indexes.reverse.find? fits).map fun x =>
                "USING INDEX " ++ x.name ++ " FOR IN-OPERATOR"
        | _, _ => none
      | _, _ => none
    | _ => none
  | _ => none

/-- The plans of the queries inside an expression, each with whether it has to be run again for each
row. -/
def subqueryTrees (env : Env) (isDriving : Bool) : Nat → Expr → List (Bool × PlanTree)
  | 0, _ => []
  | fuel + 1, e =>
    e.children.flatMap (subqueryTrees env false fuel) ++
      (match e.query? with
        | none => []
        | some q =>
          let again := isCorrelated R env q
          let line (kind : String) : PlanTree :=
            .node ((if again then "CORRELATED " else "") ++ kind ++
              toString (lastNumber Expr.depthLimit q.body)) (P.query env q)
          match e with
          | .inQuery _ left q =>
            match if again then none else storedTest? R env left isDriving q with
            | some text => [(false, .node text [])]
            | none => [(again, line "LIST SUBQUERY ")]
          | _ => [(again, line "SCALAR SUBQUERY ")])

/-- The plans of the queries inside expressions. -/
def allSubqueries (env : Env) (es : List Expr) : List PlanTree :=
  (es.flatMap (subqueryTrees R P env false Expr.depthLimit)).map (·.2)

/-- Whether rows that differ somewhere differ in the given columns: they hold the row number of the
only item or all keys of an index without repetitions. -/
def isKey (item : Plan.Item) (columns : List Nat) : Bool :=
  match item.table with
  | none => false
  | some t =>
    columns.any (fun c => t.rowidColumn == some c || (c == t.columns.length && !t.withoutRowid)) ||
      t.indexes.any fun i => i.unique && i.condition.isNone && i.keys.all fun k =>
        match k.column with
        | some c => columns.contains c &&
            ((t.columns[c]?).any fun x => x.notNull.isSome || i.origin = .primaryKey && t.withoutRowid)
        | none => false

/-- A line about a table for the time of the query. -/
def temporary (what : String) (needed : Bool) : List PlanTree :=
  if needed then [.node ("USE TEMP B-TREE FOR " ++ what) []] else []

/-- Whether the terms to sort by are the columns of the result. -/
def sameTerms (s : Select) (inside : Env) (fields : List (List (Option (Nat × Nat))))
    (outputs : List Expr) (order : List OrderTerm) : Bool :=
  order.length = outputs.length &&
    (order.zip outputs).all fun (t, e) =>
      match fieldOf? inside fields (meantBy s outputs t.expr), fieldOf? inside fields e with
      | some a, some b => a == b && !t.descending && t.nullsFirst.isNone
      | _, _ => false

/-- Whether the keys to sort by are the first ones to group by. -/
def sameKeys (inside : Env) (fields : List (List (Option (Nat × Nat)))) (groups : List Expr)
    (order : List OrderTerm) : Bool :=
  order.length ≤ groups.length &&
    (order.zip groups).all fun (t, g) =>
      match fieldOf? inside fields t.expr, fieldOf? inside fields g with
      | some a, some b => a == b
      | _, _ => false

/-- The lines of loops, each with the queries that are run in it for conditions: first those that
are run once. -/
def loopTrees (posed : Posed) (loops : List Loop) : List PlanTree :=
  let place (c : Plan.Condition) : Nat :=
    (c.items.map fun n => loops.findIdx (·.source = n)).foldl max 0
  let driving := loops.flatMap (·.used)
  let queries := (posed.conditions.zip posed.problem.conditions).zipIdx.map fun (((env, e), c), n) =>
    (place c, subqueryTrees R P env (driving.contains n) Expr.depthLimit e)
  let queriesAt (n : Nat) : List PlanTree :=
    let here := (queries.filter (·.1 = n)).flatMap (·.2)
    (here.filter (!·.1) ++ here.filter (·.1)).map (·.2)
  if loops.isEmpty then .node "SCAN CONSTANT ROW" [] :: queriesAt 0
  else loops.zipIdx.flatMap fun (l, n) => l.lines ++ queriesAt n

/-- The lines of a select in an environment, with some that come before its loops. -/
def selectTrees (env : Env) (s : Select) (order : List OrderTerm) (isLimited : Bool)
    (first : List PlanTree) : List PlanTree :=
  match Resolve.sources R env s.source with
  | .error _ => []
  | .ok sources =>
    let inside := env.push { sources, aliases := Resolve.aliases s.items }
    let outputs := outputsOf env sources s
    let extreme := extreme? s outputs
    let posed := pose R P env sources s (extreme.elim order ([·])) isLimited
    let (loops, isOrdered) := Plan.solve posed.problem posed.mayReorder
    let loops := loops.map ({ · with findsFirst := extreme.isSome })
    let fields := posed.layout.fields
    let isGrouped := !s.groupBy.isEmpty
    let hasLoops := !s.source.isEmpty
    let isUniqueIn (es : List Expr) : Bool :=
      posed.problem.items.length = 1 && posed.problem.items.all fun item =>
        isKey item ((es.filterMap (fieldOf? inside fields)).map (·.2))
    let isSortedWhole := s.distinct && sameTerms s inside fields outputs order
    let needsDistinct := s.distinct && !isUniqueIn outputs &&
      !(isOrdered && (order.isEmpty || isSortedWhole))
    let lone := loneDistinct? s outputs
    let counted := ((outputs ++ s.having.toList).flatMap
      (Expr.aggregateCalls Expr.depthLimit)).filter (·.distinct)
    let values : List PlanTree :=
      if lone.any (fun c => isOrdered || isUniqueIn c.args) then []
      else counted.flatMap fun c => temporary (foldName c.function ++ "(DISTINCT)") true
    let rightJoins : List PlanTree := posed.layout.items.filterMap fun item =>
      if item.join = .right || item.join = .full then
        some (.node ("RIGHT-JOIN " ++ ((item.table.map (·.name)).getD item.label))
          [.node ("SCAN " ++ item.label) []])
      else none
    let isSorted := if isGrouped then sameKeys inside fields s.groupBy order else isOrdered
    posed.layout.before ++ first ++ (if isGrouped then [] else values) ++
      loopTrees R P posed loops ++
      temporary "GROUP BY" (isGrouped && !isOrdered) ++
      allSubqueries R P inside (outputs ++ s.groupBy ++ s.having.toList) ++
      (if isGrouped then values else []) ++ rightJoins ++
      temporary "DISTINCT" (needsDistinct && hasLoops) ++
      temporary "ORDER BY" (hasLoops && extreme.isNone &&
        (if order.isEmpty then posed.layout.order.isSome && !isOrdered
          else !(isSortedWhole && needsDistinct) && !isSorted))

/-- The terms to sort the rows of each part of a set operation by: those of the whole, and if
repeated rows are left out, all other columns. -/
def partOrder (env : Env) (op : SetOperator) (b : Body) (order : List OrderTerm) : List OrderTerm :=
  match Resolve.bodyColumns R env Expr.depthLimit b with
  | .error _ => order
  | .ok columns =>
    let named (n : String) : Option Nat := columns.findIdx? fun c => sameName c.name n
    let places := order.zipIdx.filterMap fun (t, i) =>
      match Resolve.place? "ORDER" i columns.length named t.expr with
      | .ok (some k) => some (k, t)
      | _ => none
    let place (k : Nat) : Expr := .literal (.int (k + 1))
    places.map (fun (k, t) => { t with expr := place k }) ++
      if op = .unionAll then []
      else ((List.range columns.length).filter fun k => !places.any (·.1 = k)).map fun k =>
        { expr := place k }

/-- The lines of a body. -/
def bodyTrees (env : Env) (isLimited : Bool) (first : List PlanTree) :
    Nat → List OrderTerm → Body → List PlanTree
  | 0, _, _ => []
  | fuel + 1, order, b =>
    match b with
    | .select s => selectTrees R P env s order isLimited first
    | .values rows =>
      let queries := allSubqueries R P env rows.flatten
      if rows.length = 1 then .node "SCAN CONSTANT ROW" [] :: queries
      else queries ++ .node ("SCAN " ++ toString rows.length ++ "-ROW VALUES CLAUSE") [] ::
        temporary "ORDER BY" (!order.isEmpty)
    | .compound op left right =>
      if order.isEmpty then
        [.node "COMPOUND QUERY" (parts fuel b)]
      else
        let order := partOrder R env op b order
        [.node ("MERGE (" ++ op.text ++ ")")
          [.node "LEFT" (bodyTrees env false [] fuel order left),
            .node "RIGHT" (bodyTrees env false [] fuel order right)]]
where
  parts : Nat → Body → List PlanTree
    | 0, _ => []
    | fuel + 1, b =>
      match b with
      | .compound op a b =>
        parts fuel a ++ [.node (op.text ++ if op = .unionAll then "" else " USING TEMP B-TREE")
          (bodyTrees env false [] fuel [] b)]
      | b => [.node "LEFT-MOST SUBQUERY" (bodyTrees env false [] fuel [] b)]

/-- The planner whose parts may use each other at most as often as the fuel says. -/
def planner (R : Resolver) : Nat → Planner
  | 0 => { query := fun _ _ => [] }
  | fuel + 1 =>
    let P := planner R fuel
    { query := fun env q =>
        let first := allSubqueries R P { env with frames := [] } (q.limit.toList ++ q.offset.toList)
        bodyTrees R P (Resolve.withCommon env q.common) q.limit.isSome first Expr.depthLimit q.order
          q.body }

end SqlJob.Database.Planning
