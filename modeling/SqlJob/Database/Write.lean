import SqlJob.Database.Change

/-!
# Inserts, updates and deletes

A statement that changes rows is checked as a whole before it touches any: its table, its columns
and its expressions must make sense. What is left then is work that can only fail over the rows
themselves.
-/

namespace SqlJob.Database

/-- A checked statement: the columns it gives rows of, and the work that gives these rows. -/
structure Job where
  columns : List ScopeColumn := []
  work : Change (List (List Cell))

namespace Write

open Change

variable (R : Resolver) (E : Evaluator) (P : Planning.Planner) (env : Env)

/-- The table that a statement changes. -/
def target (n : ObjectName) : Except Fault Table :=
  if !n.isLocal then .error (.noSuchTable n.display)
  else
    match env.store.table? n.name with
    | some t => .ok t
    | none =>
      match env.store.view? n.name with
      | some v => .error (.general ("cannot modify " ++ v.name ++ " because it is a view"))
      | none =>
        if Resolve.isSchemaTable n.name then
          .error (.general ("table " ++ foldName n.name ++ " may not be modified"))
        else .error (.noSuchTable n.display)

/-- The references of a table must lead to keys of tables that exist. -/
def checkReferences (enforces : Bool) (t : Table) (changed : Nat → Bool) : Except Fault Unit := do
  if enforces then
    for (own, ref) in t.references do
      if own.any changed then
        match env.store.table? ref.table with
        | none => throw (.noSuchTable ("main." ++ ref.table))
        | some parent =>
          let isGood := (referredColumns? parent ref).any fun columns =>
            columns.length = own.length && isReferable parent columns
          if !isGood then
            throw (.general ("foreign key mismatch - \"" ++ t.name ++ "\" referencing \"" ++
              parent.name ++ "\""))

/-- The columns of `RETURNING` and how their values are found in a row of the table. -/
def returning (t : Table) (items : List ResultItem) :
    Except Fault (List ScopeColumn × (Row → Except Fault (List Cell))) := do
  let sources := [Resolve.tableSource t t.name]
  let frame : Frame := { sources, allowsAggregates := false }
  let inside := { env with frames := [frame] }
  let es ← Resolve.expandItems inside sources items
  let columns ← es.mapM fun (e, n) => do return { (← R.expr inside e) with name := n }
  return (columns, fun r =>
    es.mapM fun (e, _) => E.expr { env with frames := [{ frame with row := [fields t r] }] } e)

/-! ### Assignments -/

/-- What an assignment changes: a column or the row number. -/
inductive Place where
  | column (i : Nat)
  | rowid

/-- The place of a name in a table. -/
def place? (t : Table) (name : String) : Option Place :=
  match t.columnIndex? name with
  | some i => if t.rowidColumn = some i then some .rowid else some (.column i)
  | none =>
    if Source.rowidNames.contains (foldName name) && !t.withoutRowid then some .rowid else none

/-- The columns that places stand for. -/
def Place.isColumn (t : Table) (i : Nat) : Place → Bool
  | column j => i == j
  | rowid => t.rowidColumn == some i

/-- Checks assignments and finds their places. -/
def places (inside : Env) (t : Table) (as : List Assignment) :
    Except Fault (List (List Place × Expr)) :=
  as.mapM fun a => do
    let width ←
      match a.value with
      | .row items => do
        for e in items do
          let _ ← R.expr inside e
        pure items.length
      | .scalar q =>
        if a.columns.length = 1 then do
          let _ ← R.expr inside a.value
          pure 1
        else do pure (← R.query inside q).length
      | e => do
        let _ ← R.expr inside e
        pure 1
    if width != a.columns.length then
      throw (.general (toString a.columns.length ++ " columns assigned " ++ toString width ++
        " values"))
    let ps ← a.columns.mapM fun n =>
      match place? t n with
      | some p =>
        match p with
        | .column i =>
          if (t.columns[i]?).any (·.generated.isSome) then
            .error (.general ("cannot UPDATE generated column \"" ++ n ++ "\""))
          else .ok p
        | .rowid => .ok p
      | none => .error (.noSuchColumn n)
    return (ps, a.value)

/-- The values of assignments in an environment. -/
def newValues (inside : Env) (as : List (List Place × Expr)) :
    Except Fault (List (Place × Cell)) := do
  let parts ← as.mapM fun (ps, e) => do
    match ps with
    | [p] => return [(p, ← E.expr inside e)]
    | ps =>
      let cells ← Evaluate.rowCells E inside e
      return ps.zipIdx.map fun (p, i) => (p, cells.getD i .null)
  return parts.flatten

/-- A row with new values. The row number must be a whole number. -/
def changedRow (t : Table) (values : List (Place × Cell)) (r : Row) : Except Fault Row :=
  values.foldlM (fun (r : Row) (p, c) =>
    match p with
    | .column i => .ok (assign t [(i, c)] r)
    | .rowid =>
      match Affinity.numeric.apply c with
      | .int n => .ok { r with rowid := n }
      | _ => .error .datatypeMismatch) r

/-! ### Inserts -/

/-- Where the values of an insert go: for each column the position of its value, and the position
of the row number. -/
structure Destination where
  columns : List (Option Nat)
  rowid : Option Nat
  /-- How many values there must be. -/
  width : Nat

/-- Where the values go that are listed for columns. -/
def destination (t : Table) (s : InsertStatement) : Except Fault Destination :=
  let name := s.alias?.getD s.table.display
  match s.columns with
  | none =>
    let places := t.columns.foldl (fun (done : List (Option Nat) × Nat) c =>
      if c.generated.isSome then (done.1 ++ [none], done.2)
      else (done.1 ++ [some done.2], done.2 + 1)) ([], 0)
    .ok {
      columns := places.1
      rowid := t.rowidColumn.bind fun i => (places.1[i]?).join
      width := places.2 }
  | some ns => do
    for n in ns do
      match place? t n with
      | none => throw (.unknownInsertColumn name n)
      | some (.column i) =>
        if (t.columns[i]?).any (·.generated.isSome) then
          throw (.general ("cannot INSERT into generated column \"" ++ n ++ "\""))
      | some .rowid => pure ()
    let isRowid (n : String) : Bool :=
      match place? t n with
      | some .rowid => true
      | _ => false
    return {
      columns := t.columns.map fun c => ns.findIdx? (sameName c.name)
      rowid := ns.findIdx? isRowid
      width := ns.length }

/-- An upsert whose target is found: the constraints it is for, and the change to the row that is
met. -/
structure Merge where
  isFor : UniqueConstraint → Bool
  change : Option (List (List Place × Expr) × Option Expr)

/-- The environment of the changes of an upsert: the row that is met and the one that is not
inserted. -/
def mergeEnv (t : Table) (alias? : Option String) (met added : List Cell) : Env :=
  let own := Resolve.tableSource t (alias?.getD t.name)
  let other := Resolve.tableSource t "excluded"
  let hidden := { other with rowid := none, columns := other.columns.map fun c => { c with merged := true } }
  { env with frames := [{ sources := [own, hidden], row := [met, added], allowsAggregates := false }] }

/-- Checks an upsert and finds its target. -/
def merge (t : Table) (alias? : Option String) (u : Upsert) : Except Fault Merge := do
  let inside := mergeEnv env t alias? [] []
  let isFor ←
    match u.target with
    | none => pure fun (_ : UniqueConstraint) => true
    | some es => do
      for e in es do
        let _ ← R.expr (rowEnv env t ⟨0, []⟩) e
      let columns := es.map fun
        | .name none n _ => t.columnIndex? n
        | _ => none
      let isSame (i : Index) : Bool :=
        i.unique && i.keys.length = columns.length &&
          i.keys.all fun k => k.column.isSome && columns.contains k.column
      let isRowid := columns.length = 1 && !t.withoutRowid &&
        es.all fun
          | .name none n _ =>
            match place? t n with
            | some .rowid => true
            | _ => false
          | _ => false
      if !isRowid && !t.indexes.any isSame then
        throw (.general
          "ON CONFLICT clause does not match any PRIMARY KEY or UNIQUE constraint")
      pure fun (c : UniqueConstraint) =>
        match c with
        | .rowid => isRowid
        | .index i => isSame i
  let change ← u.change.mapM fun (as, condition) => do
    let ps ← places R inside t as
    for e in condition.toList do
      let _ ← R.expr inside e
    return (ps, condition)
  return { isFor, change }

/-- How an attempt to write a new row ends. -/
inductive Attempt where
  | written
  | leftOut
  /-- The row met another one, which takes its place. -/
  | changed (r : Row)

/-- Looks at the constraints on several rows for a new row; the first upsert for a broken one says
what to do instead. -/
def settle (override : Option Conflict) (merges : List Merge) (alias? : Option String)
    (name : String) (r : Row) : List UniqueConstraint → Change Attempt
  | [] => return .written
  | u :: rest => do
    let t ← table name
    let found ← lift (clashes E env t none r u)
    match found, merges.find? fun m => m.isFor u with
    | met :: _, some m =>
      match m.change with
      | none => return .leftOut
      | some (as, condition) =>
        let inside := mergeEnv env t alias? (fields t met) (fields t r)
        let wanted ←
          match condition with
          | some e => do pure ((← lift (E.expr inside e)).truth?.getD false)
          | none => pure true
        if !wanted then return .leftOut
        let values ← lift (newValues E inside as)
        let new ← lift (changedRow t values met)
        if ← replaceRow E env chainLimit (some .abort) name met new then
          return .changed (← lift (withComputed E env t (withRowid t new)))
        else return .leftOut
    | _, _ =>
      if ← clear E env chainLimit override name none r [u] then
        settle override merges alias? name r rest
      else return .leftOut

/-- Inserts one row with the given values; the row as it stands in the table, if it does. -/
def insertRow (s : InsertStatement) (merges : List Merge) (d : Destination) (values : List Cell) :
    Change (Option Row) := do
  let t ← table s.table.name
  let given (i : Nat) : Cell := values.getD i .null
  let cells ← (t.columns.zip d.columns).mapM fun (c, place) => do
    if c.generated.isSome then return Cell.null
    match place with
    | some i => return c.affinity.store (given i)
    | none => return c.affinity.store (← lift (defaultCell E env c))
  let rowid ←
    if t.withoutRowid then pure (t.lastRowid + 1)
    else
      match Affinity.numeric.apply ((d.rowid.map given).getD .null) with
      | .null => nextRowid t
      | .int n => pure n
      | _ => throw ⟨.datatypeMismatch, .abort⟩
  let r ← lift (withComputed E env t (withRowid t ⟨rowid, cells⟩))
  checkKinds t r
  match ← checkNulls E env s.conflict t t.columns.zipIdx r with
  | .leftOut => return none
  | .passes r =>
    match ← checkConditions E env s.conflict t r t.checks with
    | .leftOut => return none
    | .passes r =>
      let constraints := uniqueConstraints t
      let (merging, others) := constraints.partition fun u => merges.any fun m => m.isFor u
      match ← settle E env s.conflict merges s.alias? s.table.name r (merging ++ others) with
      | .leftOut => return none
      | .changed r =>
        modify fun w => { w with changed := w.changed + 1 }
        return some r
      | .written =>
        let t ← table s.table.name
        put (t.insertRow r)
        keepRowid t r.rowid
        modify fun w =>
          { w with changed := w.changed + 1
                   lastRowid := if t.withoutRowid then w.lastRowid else r.rowid }
        return some r

/-- An insert. -/
def insert (enforces : Bool) (s : InsertStatement) : Except Fault Job := do
  let t ← target env s.table
  let d ← destination t s
  let inside := Resolve.withCommon env s.common
  let name := s.alias?.getD s.table.display
  let width ←
    match s.source with
    | .query q => do pure (some (← R.query inside q).length)
    | .defaults => pure (if s.columns.isSome then some 0 else none)
  if width.any (· != d.width) then
    match s.columns with
    | some ns => throw (.valuesForColumns (width.getD 0) ns.length)
    | none => throw (.tableHasColumns name d.width (width.getD 0))
  let merges ← s.upserts.mapM (merge R env t s.alias?)
  checkReferences env enforces t fun _ => true
  let (columns, give) ← returning R E env t s.returning
  return {
    columns
    work := do
      let rows ←
        match s.source with
        | .query q => lift (E.query inside q)
        | .defaults => pure [[]]
      let d := match s.source with
        | .query _ => d
        | .defaults => { d with columns := d.columns.map fun _ => none, rowid := none }
      let written ← rows.mapM (insertRow E env s merges d)
      if s.returning.isEmpty then return []
      (written.filterMap id).mapM fun r => lift (give r) }

/-! ### Updates and deletes -/

/-- The rows of the items behind an update or a delete for which a condition holds. -/
def matching (items : List FromItem) (condition : Option Expr) (sources : List Source) :
    Except Fault (List JoinedRow) := do
  let s : Select := { items := [.star], source := items, condition }
  let rows ← Evaluate.sourceRows R E P env sources s []
  match condition with
  | none => return rows
  | some e => Evaluate.keep (fun row => do
      return (← E.expr (env.push { sources, row }) e).truth?.getD false) rows

/-- The row of a table that has the given fields. -/
def rowOf? (t : Table) (cells : List Cell) : Option Row :=
  if t.withoutRowid then
    t.rows.find? fun r => (r.cells.zip cells).all fun (a, b) => Cell.same .binary a b
  else
    let n := (cells.getLast?.getD .null).toInt
    t.rows.find? fun r => r.rowid = n

/-- The rows to change, each once: of several partners of a row the last counts. -/
def latestByRow (rows : List (Row × JoinedRow)) : List (Row × JoinedRow) :=
  let last := (rows.reverse.foldl (fun (done : List (Row × JoinedRow)) x =>
    if done.any fun y => y.1.rowid = x.1.rowid then done else x :: done) [])
  last.mergeSort fun a b => a.1.rowid ≤ b.1.rowid

/-- The items behind an update or a delete: the table itself comes first. -/
def items (table : ObjectName) (alias? : Option String) (source : List FromItem) : List FromItem :=
  { term := .table { table with schema := some "main" } alias? } :: source

/-- An update. -/
def update (enforces : Bool) (s : UpdateStatement) : Except Fault Job := do
  let t ← target env s.table
  let env := Resolve.withCommon env s.common
  let items := items s.table s.alias? s.source
  let sources ← Resolve.sources R env items
  let inside := env.push { sources, allowsAggregates := false }
  let as ← places R inside t s.assignments
  for e in s.condition.toList ++ Resolve.joinConditions Expr.depthLimit items do
    let _ ← R.expr inside e
  let isChanged (i : Nat) : Bool := as.any fun a => a.1.any (Place.isColumn t i)
  checkReferences env enforces t isChanged
  let (columns, give) ← returning R E env t s.returning
  return {
    columns
    work := do
      let rows ← lift (matching R E P env items s.condition sources)
      let found := rows.filterMap fun row => (rowOf? t (row.headD [])).map (·, row)
      let found := if s.source.isEmpty then found else latestByRow found
      let changed ← found.filterMapM fun (old, row) => do
        let values ← lift (newValues E (env.push { sources, row }) as)
        -- An earlier change of this statement may have taken the row away or changed it.
        match (← table t.name).rows.find? fun x => x.rowid = old.rowid with
        | none => return none
        | some current =>
          let new ← lift (changedRow t values current)
          if ← replaceRow E env chainLimit s.conflict t.name current new then
            modify fun w => { w with changed := w.changed + 1 }
            return some (← lift (withComputed E env t (withRowid t new)))
          else return none
      if s.returning.isEmpty then return []
      changed.mapM fun r => lift (give r) }

/-- A delete. -/
def delete (s : DeleteStatement) : Except Fault Job := do
  let t ← target env s.table
  let env := Resolve.withCommon env s.common
  let items := items s.table s.alias? []
  let sources ← Resolve.sources R env items
  for e in s.condition.toList do
    let _ ← R.expr (env.push { sources, allowsAggregates := false }) e
  let (columns, give) ← returning R E env t s.returning
  return {
    columns
    work := do
      let rows ← lift (matching R E P env items s.condition sources)
      let found := rows.filterMap fun row => rowOf? t (row.headD [])
      for r in found do
        -- What follows an earlier removal may have removed the row as well.
        if (← table t.name).rows.any fun x => x.rowid = r.rowid then
          removeRow E env chainLimit t.name r
          modify fun w => { w with changed := w.changed + 1 }
      if s.returning.isEmpty then return []
      found.mapM fun r => lift (give r) }

end Write

end SqlJob.Database
