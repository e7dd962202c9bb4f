import SqlJob.Database.Operator
import SqlJob.Database.Planning

/-!
# The values of expressions

An expression has a value in an environment whose frames hold rows. Functions of rows look at the
rows of the innermost frame's group, and window functions at all rows of that frame.
-/

namespace SqlJob.Database

/-- The recursive parts of the evaluation. -/
structure Evaluator where
  expr : Env → Expr → Except Fault Cell
  /-- The rows of a query. -/
  query : Env → Query → Except Fault (List (List Cell))

namespace Evaluate

/-- The rows whose keys differ from those of all rows before them. -/
def withoutRepetition {α : Type} (same : α → α → Bool) (xs : List α) : List α :=
  (xs.foldl (fun done x => if done.any (same · x) then done else x :: done) []).reverse

/-- A key to sort by. -/
structure SortKey where
  cell : Cell
  collation : Collation := .binary
  descending : Bool := false
  nullsFirst : Option Bool := none

/-- How two keys compare. -/
def SortKey.compare (a b : SortKey) : Ordering :=
  let nullsFirst := a.nullsFirst.getD (!a.descending)
  match a.cell.isNull, b.cell.isNull with
  | true, true => .eq
  | true, false => if nullsFirst then .lt else .gt
  | false, true => if nullsFirst then .gt else .lt
  | false, false =>
    let o := Cell.compare a.collation a.cell b.cell
    if a.descending then o.swap else o

/-- Whether keys may stand in front of others. -/
def keysLe : List SortKey → List SortKey → Bool
  | a :: as, b :: bs =>
    match a.compare b with
    | .lt => true
    | .gt => false
    | .eq => keysLe as bs
  | _, _ => true

/-- Sorts by keys; what has equal keys keeps its order. -/
def sorted {α : Type} (xs : List (List SortKey × α)) : List α :=
  (xs.mergeSort fun a b => keysLe a.1 b.1).map (·.2)

/-- Neighbours with equal keys, together. -/
def runs {α : Type} (same : α → α → Bool) : List α → List (List α)
  | [] => []
  | x :: rest =>
    match runs same rest with
    | (y :: ys) :: more => if same x y then (x :: y :: ys) :: more else [x] :: (y :: ys) :: more
    | more => [x] :: more

variable (R : Resolver) (E : Evaluator)

/-- What is known of an expression before it has a value. -/
def known (env : Env) (e : Expr) : ScopeColumn := (R.expr env e).toOption.getD { name := "" }

/-- The collation of an expression. -/
def collationOf (env : Env) (e : Expr) : Collation := (known R env e).collation.getD .binary

/-- The truth of a comparison of two expressions with known values. -/
def compareAs (env : Env) (op : BinaryOperator) (a b : Expr) (x y : Cell) : Option Bool :=
  Operator.comparison op
    (Planning.comparisonAffinity (known R env a).affinity (known R env b).affinity)
    (Planning.comparisonCollation R env a b) x y

/-- The values of a row. -/
def rowCells (env : Env) (e : Expr) : Except Fault (List Cell) := do
  match e with
  | .row items => items.mapM (E.expr env)
  | .scalar q => return (← E.query env q).headD []
  | e => return [← E.expr env e]

/-- The truth of a comparison of rows: the first difference decides. -/
def rowComparison (op : BinaryOperator) : List Cell → List Cell → Option Bool
  | a :: as, b :: bs =>
    match op with
    | .equal | .is => Operator.both (Operator.comparison op none .binary a b) (rowComparison op as bs)
    | .notEqual | .isNot =>
      Operator.oneOf (Operator.comparison op none .binary a b) (rowComparison op as bs)
    | _ =>
      match Operator.compared none .binary a b with
      | some .eq => if as.isEmpty then some (Operator.fits op .eq) else rowComparison op as bs
      | some o => some (Operator.fits op o)
      | none => none
  | _, _ =>
    match op with
    | .notEqual | .isNot => some false
    | _ => some true

/-- Whether a value is among others; unknown if only null could make it so. -/
def membership (same : Cell → Option Bool) (cells : List Cell) : Option Bool :=
  (cells.map same).foldl Operator.oneOf (some false)

/-- A truth value, turned around if it is negated. -/
def truth (negated : Bool) (b : Option Bool) : Cell :=
  Operator.ofTruth (b.map (· != negated))

/-- The first of the branches whose condition holds. -/
def firstBranch (holds : Expr → Except Fault Bool) :
    List (Expr × Expr) → Except Fault (Option Expr)
  | [] => .ok none
  | (c, e) :: rest => do
    if ← holds c then return some e else firstBranch holds rest

/-- The environment with one of the rows of the innermost frame. -/
def atRow (env : Env) (row : JoinedRow) (group : Option (List JoinedRow)) : Env :=
  match env.frames with
  | f :: rest => { env with frames := { f with row, group } :: rest }
  | [] => env

/-- The value of a function of rows for the given rows. -/
def aggregate (env : Env) (c : Call) (rows : List JoinedRow) : Except Fault Cell := do
  let inputs ← rows.mapM fun r => do
    let env := atRow env r none
    let wanted ←
      match c.filter with
      | some e => do pure ((← E.expr env e).truth?.getD false)
      | none => pure true
    if !wanted then return none
    let args ← c.args.mapM (E.expr env)
    let keys ← c.order.mapM fun t => do
      return { cell := ← E.expr env t.expr, collation := collationOf R env t.expr
               descending := t.descending, nullsFirst := t.nullsFirst : SortKey }
    return some (keys, args)
  let inputs := sorted (inputs.filterMap id)
  let collation := (c.args.head?.map (collationOf R env)).getD .binary
  let inputs :=
    if c.distinct then
      withoutRepetition (fun a b => Cell.same collation (a.headD .null) (b.headD .null)) inputs
    else inputs
  Aggregate.apply (foldName c.function) (c.star || c.args.isEmpty) collation inputs

/-- The value of a window function. -/
def windowed (env : Env) (c : Call) (w : Window) : Except Fault Cell := do
  let peers := (env.frames.head?.map (·.peers)).getD []
  let place := (env.frames.head?.map (·.place)).getD 0
  let keyed ← peers.zipIdx.mapM fun ((row, group), i) => do
    let env := atRow env row group
    let partition ← w.partition.mapM (E.expr env)
    let keys ← w.order.mapM fun t => do
      return { cell := ← E.expr env t.expr, collation := collationOf R env t.expr
               descending := t.descending, nullsFirst := t.nullsFirst : SortKey }
    return (partition, keys, i, row, group)
  let own := ((keyed[place]?).map (·.1)).getD []
  let mates := keyed.filter fun k =>
    (k.1.zip own).all fun (a, b) => Cell.same .binary a b
  let ordered := sorted (mates.map fun k => (k.2.1, k))
  let at' := (ordered.findIdx? fun k => k.2.2.1 == place).getD 0
  let ownKeys := ((ordered[at']?).map (·.2.1)).getD []
  let equalKeys (ks : List SortKey) : Bool := keysLe ks ownKeys && keysLe ownKeys ks
  let before := ordered.takeWhile fun k => !equalKeys k.2.1
  let frame := if w.order.isEmpty then ordered
    else before ++ (ordered.drop before.length).takeWhile fun k => equalKeys k.2.1
  let valueAt (k : List Cell × List SortKey × Nat × JoinedRow × Option (List JoinedRow))
      (e : Expr) : Except Fault Cell := E.expr (atRow env k.2.2.2.1 k.2.2.2.2) e
  let arg := c.args.headD (.literal .null)
  let offset ←
    match c.args.drop 1 with
    | e :: _ => do pure (← E.expr env e).toInt
    | [] => pure 1
  let other (i : Int) : Except Fault Cell := do
    let target := if 0 ≤ i then ordered[i.toNat]? else none
    match target with
    | some k => valueAt k arg
    | none =>
      match c.args.drop 2 with
      | e :: _ => E.expr env e
      | [] => return .null
  match foldName c.function with
  | "row_number" => return .int (at' + 1)
  | "rank" => return .int (before.length + 1)
  | "dense_rank" =>
    return .int (runs (fun a b => keysLe a.2.1 b.2.1 && keysLe b.2.1 a.2.1) before).length.succ
  | "percent_rank" =>
    return if ordered.length ≤ 1 then .real 0.0
      else .real (Float.ofNat before.length / Float.ofNat (ordered.length - 1))
  | "cume_dist" => return .real (Float.ofNat frame.length / Float.ofNat ordered.length)
  | "ntile" =>
    let n := (← E.expr env arg).toInt.toNat
    if n = 0 then throw (.general "argument of ntile must be a positive integer")
    let size := ordered.length / n
    let large := ordered.length % n
    return .int (if at' < large * (size + 1) then at' / (size + 1) + 1
      else (at' - large * (size + 1)) / max 1 size + large + 1)
  | "lag" => other ((at' : Int) - offset)
  | "lead" => other ((at' : Int) + offset)
  | "first_value" =>
    match frame.head? with
    | some k => valueAt k arg
    | none => return .null
  | "last_value" =>
    match frame.getLast? with
    | some k => valueAt k arg
    | none => return .null
  | "nth_value" =>
    match frame[(offset - 1).toNat]? with
    | some k => valueAt k arg
    | none => return .null
  | _ => aggregate R E env { c with window := none } (frame.map (·.2.2.2.1))

/-- The value of a call. -/
def call (env : Env) (c : Call) : Except Fault Cell := do
  match c.window with
  | some w => windowed R E env c w
  | none =>
    if Expr.isAggregate (.call c) then
      let rows := (env.frames.head?.bind (·.group)).getD []
      aggregate R E env c rows
    else
      match foldName c.function with
      | "changes" => return .int env.counts.changes
      | "total_changes" => return .int env.counts.totalChanges
      | "last_insert_rowid" => return .int env.counts.lastRowid
      | f => Function.apply f (← c.args.mapM (E.expr env))

/-- The value of an expression. -/
def expr (env : Env) (e : Expr) : Except Fault Cell := do
  match e with
  | .literal c => return c
  | .parameter => return .null
  | .name t c q =>
    match ← env.meaning t c q with
    | .field depth i j _ => return env.field depth i j
    | .output depth e => E.expr (env.atDepth depth) e
    | .constant c => return c
  | .field i j => return env.field 0 i j
  | .unary op e =>
    let c ← E.expr env e
    match op with
    | .negative => return Operator.negative c
    | .positive => return c
    | .bitNot => return if c.isNull then .null else .int (-c.toInt - 1)
    | .not => return Operator.ofTruth (c.truth?.map (!·))
  | .binary .and a b =>
    return Operator.ofTruth (Operator.both (← E.expr env a).truth? (← E.expr env b).truth?)
  | .binary .or a b =>
    return Operator.ofTruth (Operator.oneOf (← E.expr env a).truth? (← E.expr env b).truth?)
  | .binary op a b =>
    if op.isComparison then
      if 1 < Resolve.width a then
        return Operator.ofTruth
          (rowComparison op (← rowCells E env a) (← rowCells E env b))
      else
        return Operator.ofTruth (compareAs R env op a b (← E.expr env a) (← E.expr env b))
    else return Operator.apply op (← E.expr env a) (← E.expr env b)
  | .collate e _ => E.expr env e
  | .cast e t => return (Affinity.ofTypeName t).cast (← E.expr env e)
  | .isNull negated e => return .ofBool ((← E.expr env e).isNull != negated)
  | .between negated e low high =>
    let c ← E.expr env e
    let x := compareAs R env .greaterEqual e low c (← E.expr env low)
    let y := compareAs R env .lessEqual e high c (← E.expr env high)
    return truth negated (Operator.both x y)
  | .like negated f e p escape =>
    let c ← E.expr env e
    let p ← E.expr env p
    if f = "MATCH" then
      throw (.general "unable to use function MATCH in the requested context")
    let result ← Function.apply (f.map Char.toLower)
      ([p, c] ++ (← escape.toList.mapM (E.expr env)))
    return truth negated result.truth?
  | .inList negated e items =>
    match e with
    | .row _ =>
      let left ← rowCells E env e
      let rows ← items.mapM (rowCells E env)
      return truth negated
        ((rows.map (rowComparison .equal left)).foldl Operator.oneOf (some false))
    | e =>
      let c ← E.expr env e
      let cells ← items.mapM (E.expr env)
      let affinity := (known R env e).affinity
      let collation := collationOf R env e
      return truth negated (membership (Operator.comparison .equal affinity collation c) cells)
  | .inQuery negated e q =>
    let left ← rowCells E env e
    let rows ← E.query env q
    match left with
    | [c] =>
      let columns ← R.query env q
      let affinity := Planning.comparisonAffinity (known R env e).affinity
        (columns.head?.bind (·.affinity))
      let collation := collationOf R env e
      return truth negated (membership (Operator.comparison .equal affinity collation c)
        (rows.map (·.headD .null)))
    | left =>
      return truth negated
        ((rows.map (rowComparison .equal left)).foldl Operator.oneOf (some false))
  | .existsIn q => return .ofBool !(← E.query env q).isEmpty
  | .scalar q => return ((← E.query env q).headD []).headD .null
  | .case base branches otherwise =>
    let holds ←
      match base with
      | some b => do
        let c ← E.expr env b
        pure fun (e : Expr) => do
          return (compareAs R env .equal b e c (← E.expr env e)).getD false
      | none => pure fun (e : Expr) => do return (← E.expr env e).truth?.getD false
    match ← firstBranch holds branches with
    | some e => E.expr env e
    | none =>
      match otherwise with
      | some e => E.expr env e
      | none => return .null
  | .call c => call R E env c
  | .row _ => throw (.general "row value misused")

end Evaluate

end SqlJob.Database
