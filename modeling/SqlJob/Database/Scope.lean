import SqlJob.Database.Fault
import SqlJob.Database.Function.Aggregate
import SqlJob.Database.Function.Scalar
import SqlJob.Database.Store

/-!
# What names mean

An expression is looked at in an environment: the store, the tables that queries around it define,
and a frame for each query around it, the innermost first. A frame holds the columns of the `FROM`
clause and one row of them. A name means the column of the innermost frame that has one of that
name; in its frame it must be the only one.
-/

namespace SqlJob.Database

/-- A column as expressions see it. -/
structure ScopeColumn where
  name : String
  /-- The type it is declared with. -/
  type : Option String := none
  /-- The affinity of its declaration; a column that is computed has none. -/
  affinity : Option Affinity := none
  collation : Option Collation := none
  /-- Whether a column of an earlier item stands for it as well. -/
  merged : Bool := false
  /-- The places of the columns that its bare name means instead; the first with a value counts. -/
  instead : List (Nat × Nat) := []

/-- What the bare name of the column at a place means. -/
def ScopeColumn.expr (c : ScopeColumn) (source column : Nat) : Expr :=
  match c.instead with
  | [] => .field source column
  | [(k, l)] => .field k l
  | places => .call { function := "coalesce", args := places.map fun (k, l) => .field k l }

/-- An item of a `FROM` clause as expressions see it. -/
structure Source where
  name : Option String
  columns : List ScopeColumn
  /-- The name of the row number, if one stands behind the fields of each row. -/
  rowid : Option String := none

/-- One row of a `FROM` clause: the fields of each item. -/
abbrev JoinedRow := List (List Cell)

/-- The innermost query around an expression. -/
structure Frame where
  sources : List Source
  row : JoinedRow := []
  /-- The rows that aggregates see. -/
  group : Option (List JoinedRow) := none
  /-- Whether functions of rows may be called. -/
  allowsAggregates : Bool := true
  /-- The names that the select list gives to expressions. -/
  aliases : List (String × Expr) := []
  /-- All rows that window functions see, and which of them this is. -/
  peers : List (JoinedRow × Option (List JoinedRow)) := []
  place : Nat := 0

/-- Columns and rows. -/
structure Relation where
  columns : List ScopeColumn
  rows : List (List Cell) := []

/-- A table that a query defines for itself. -/
inductive Common where
  /-- One with its query, which sees the tables defined before it. -/
  | query (t : CommonTable) (before : List Common)
  /-- One whose rows are known. -/
  | rows (name : String) (r : Relation)

/-- Its name. -/
def Common.name : Common → String
  | query t _ => t.name
  | rows name _ => name

/-- What functions tell about the session. -/
structure Counts where
  changes : Nat := 0
  totalChanges : Nat := 0
  lastRowid : Int := 0

/-- What an expression is looked at in. -/
structure Env where
  store : Store
  counts : Counts := {}
  common : List Common := []
  frames : List Frame := []
  /-- Whether the store can be looked at. -/
  isReadable : Bool := true

/-- What a name means. -/
inductive Meaning where
  /-- A column of an item of the frame at some depth. -/
  | field (depth source column : Nat) (info : ScopeColumn)
  /-- An expression that the select list of the frame at some depth gives the name to. -/
  | output (depth : Nat) (e : Expr)
  | constant (c : Cell)

namespace Source

/-- The names that row numbers go by. -/
def rowidNames : List String := ["rowid", "oid", "_rowid_"]

/-- The row number as a column. -/
def rowidColumn? (s : Source) : Option ScopeColumn :=
  s.rowid.map fun n => { name := n, type := some "INTEGER", affinity := some .integer }

/-- A row of the item without any values. -/
def nullRow (s : Source) : List Cell :=
  List.replicate (s.columns.length + if s.rowid.isSome then 1 else 0) .null

/-- The item goes by the given name. -/
def hasName (s : Source) (name : String) : Bool := s.name.any (sameName name)

/-- The positions of the columns with a name; those that others stand for only count if the item is
named as well. -/
def positions (s : Source) (table : Option String) (column : String) : List Nat :=
  if table.all s.hasName then
    (s.columns.zipIdx.filter fun (c, _) =>
      sameName c.name column && (table.isSome || !c.merged)).map (·.2)
  else []

end Source

namespace Frame

/-- The columns of a frame that a name may mean: item, column and what is known of it. -/
def candidates (f : Frame) (table : Option String) (column : String) :
    List (Nat × Nat × ScopeColumn) :=
  f.sources.zipIdx.flatMap fun (s, i) =>
    (s.positions table column).filterMap fun j => s.columns[j]?.map fun c => (i, j, c)

/-- The row numbers that a name may mean. -/
def rowidCandidates (f : Frame) (table : Option String) (column : String) :
    List (Nat × Nat × ScopeColumn) :=
  if Source.rowidNames.contains (foldName column) then
    f.sources.zipIdx.filterMap fun (s, i) =>
      if table.all s.hasName then s.rowidColumn?.map fun c => (i, s.columns.length, c) else none
  else []

end Frame

/-- A name as it is shown. -/
def shownName (table : Option String) (column : String) : String :=
  match table with
  | some t => t ++ "." ++ column
  | none => column

/-- What the name of a column at a place means in the frame at some depth. -/
def Frame.meaning (f : Frame) (depth source column : Nat) (c : ScopeColumn) (isBare : Bool) :
    Meaning :=
  match if isBare then c.expr source column else .field source column with
  | .field k l =>
    match (f.sources[k]?).bind (·.columns[l]?) with
    | some d => .field depth k l d
    | none => .field depth source column c
  | e => .output depth e

/-- What a name means in the frames from some depth on. -/
def meaningFrom (table : Option String) (column : String) (inDoubleQuotes : Bool) :
    Nat → List Frame → Except Fault Meaning
  | _, [] =>
    if inDoubleQuotes then .ok (.constant (.text column))
    else match table, foldName column with
      | none, "true" => .ok (.constant (.int 1))
      | none, "false" => .ok (.constant (.int 0))
      | _, _ => .error (.noSuchColumn (shownName table column))
  | depth, f :: rest =>
    match f.candidates table column with
    | [(i, j, c)] => .ok (f.meaning depth i j c table.isNone)
    | _ :: _ :: _ => .error (.ambiguousColumn (shownName table column))
    | [] =>
      match f.rowidCandidates table column with
      | [(i, j, c)] => .ok (.field depth i j c)
      | _ :: _ :: _ => .error (.ambiguousColumn (shownName table column))
      | [] =>
        match if table.isNone then f.aliases.find? (sameName column ·.1) else none with
        | some (_, e) => .ok (.output depth e)
        | none => meaningFrom table column inDoubleQuotes (depth + 1) rest

/-- What a name means. -/
def Env.meaning (env : Env) (table : Option String) (column : String) (inDoubleQuotes : Bool) :
    Except Fault Meaning :=
  meaningFrom table column inDoubleQuotes 0 env.frames

namespace Env

/-- The environment inside one more query. -/
def push (env : Env) (f : Frame) : Env := { env with frames := f :: env.frames }

/-- The environment of an expression that the select list of the frame at some depth gives a name
to: it sees that frame without such names. -/
def atDepth (env : Env) (depth : Nat) : Env :=
  match env.frames.drop depth with
  | f :: rest => { env with frames := { f with aliases := [] } :: rest }
  | [] => { env with frames := [] }

/-- A field of the row of the frame at some depth. -/
def field (env : Env) (depth source column : Nat) : Cell :=
  match env.frames[depth]? with
  | some f => ((f.row[source]?).bind (·[column]?)).getD .null
  | none => .null

/-- The table that a query around defines under a name. -/
def common? (env : Env) (name : String) : Option Common :=
  env.common.find? fun c => sameName c.name name

end Env

/-! ### Going through expressions -/

namespace Expr

/-- The expressions right inside an expression, those of queries inside it apart. -/
def children : Expr → List Expr
  | literal _ => []
  | parameter => []
  | name .. => []
  | field .. => []
  | unary _ e => [e]
  | binary _ a b => [a, b]
  | collate e _ => [e]
  | cast e _ => [e]
  | isNull _ e => [e]
  | between _ e low high => [e, low, high]
  | like _ _ e p escape => e :: p :: escape.toList
  | inList _ e items => e :: items
  | inQuery _ e _ => [e]
  | existsIn _ => []
  | scalar _ => []
  | case base branches otherwise =>
    base.toList ++ branches.flatMap (fun (c, e) => [c, e]) ++ otherwise.toList
  | call c => c.args ++ c.order.map (·.expr) ++ c.filter.toList ++
    (match c.window with
      | some w => w.partition ++ w.order.map (·.expr)
      | none => [])
  | row items => items

/-- The query right inside an expression. -/
def query? : Expr → Option Query
  | inQuery _ _ q => some q
  | existsIn q => some q
  | scalar q => some q
  | _ => none

/-- Whether a property holds somewhere in the expression, queries inside it apart. -/
def anywhere (p : Expr → Bool) : Nat → Expr → Bool
  | 0, _ => false
  | fuel + 1, e => p e || e.children.any (anywhere p fuel)

/-- How deep expressions are looked into. -/
def depthLimit : Nat := 1000

/-- The places that the expression names columns by. -/
def fields : Nat → Expr → List (Nat × Nat)
  | 0, _ => []
  | fuel + 1, e =>
    match e with
    | field i j => [(i, j)]
    | e => e.children.flatMap (fields fuel)

/-- Whether the expression is a call of a function of rows. -/
def isAggregate : Expr → Bool
  | call c =>
    c.window.isNone &&
      (match foldName c.function with
        | "min" => c.args.length = 1
        | "max" => c.args.length = 1
        | f => (Aggregate.arities.lookup f).isSome)
  | _ => false

/-- Whether a function of rows is called in the expression. -/
def hasAggregate (e : Expr) : Bool := e.anywhere isAggregate depthLimit

/-- The calls of functions of rows in an expression, the outermost ones only. -/
def aggregateCalls : Nat → Expr → List Call
  | 0, _ => []
  | fuel + 1, e =>
    match e with
    | call c => if isAggregate e then [c] else e.children.flatMap (aggregateCalls fuel)
    | e => e.children.flatMap (aggregateCalls fuel)

/-- Whether a window function is called in the expression. -/
def hasWindow (e : Expr) : Bool :=
  e.anywhere (fun
    | call c => c.window.isSome
    | _ => false) depthLimit

/-- The parts of a condition that must all hold. -/
def conjuncts : Nat → Expr → List Expr
  | 0, e => [e]
  | fuel + 1, e =>
    match e with
    | binary .and a b => conjuncts fuel a ++ conjuncts fuel b
    | e => [e]

end Expr

/-- The expressions right inside the body of a query, and the queries. -/
def Body.parts : Nat → Body → List Expr × List Query
  | 0, _ => ([], [])
  | fuel + 1, b =>
    match b with
    | .select s =>
      let items := s.items.filterMap fun
        | .expr e _ _ => some e
        | _ => none
      let (es, qs) := termParts fuel s.source
      (items ++ es ++ s.condition.toList ++ s.groupBy ++ s.having.toList, qs)
    | .values rows => (rows.flatten, [])
    | .compound _ a b =>
      let (es, qs) := parts fuel a
      let (es', qs') := parts fuel b
      (es ++ es', qs ++ qs')
where
  termParts : Nat → List FromItem → List Expr × List Query
    | 0, _ => ([], [])
    | fuel + 1, items =>
      let parts := items.map fun i =>
        let (es, qs) : List Expr × List Query :=
          match i.term with
          | .table _ _ => ([], [])
          | .function _ args _ => (args, [])
          | .query q _ => ([], [q])
          | .group items => termParts fuel items
        (i.on.toList ++ es, qs)
      (parts.flatMap (·.1), parts.flatMap (·.2))

mutual

/-- The names in an expression and in those queries inside it that are looked into. -/
def Expr.names (enters : Query → Bool) : Nat → Expr → List (Option String × String)
  | 0, _ => []
  | fuel + 1, e =>
    (match e with
      | .name t c _ => [(t, c)]
      | _ => []) ++
    e.children.flatMap (Expr.names enters fuel) ++
    (match e.query? with
      | some q => if enters q then Query.names enters fuel q else []
      | none => [])

/-- The names in a query. -/
def Query.names (enters : Query → Bool) : Nat → Query → List (Option String × String)
  | 0, _ => []
  | fuel + 1, q =>
    let (es, qs) := q.body.parts Expr.depthLimit
    es.flatMap (Expr.names enters fuel) ++ qs.flatMap (Query.names enters fuel) ++
      (q.order.map (·.expr)).flatMap (Expr.names enters fuel) ++
      q.common.flatMap (fun t => Query.names enters fuel t.query)

end

end SqlJob.Database
