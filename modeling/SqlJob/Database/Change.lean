import SqlJob.Database.Rows

/-!
# Changing rows

One row is written, changed or removed at a time. The constraints of its table are looked at first,
and each has a say in what happens when the row breaks it: the statement ends, the row is left out,
or the rows in its way are removed. What refers to a row that goes or gets another key follows it,
as the reference says. Changes made before a statement ends stay visible here; which of them are
kept is for the caller to say.
-/

namespace SqlJob.Database

/-- What a statement has done so far. -/
structure Work where
  store : Store
  /-- How many rows it wrote, changed or removed by itself. -/
  changed : Nat := 0
  lastRowid : Int := 0
  enforcesReferences : Bool := true

/-- Why a statement ends early, and what becomes of what it has done. -/
structure Refusal where
  fault : Fault
  conflict : Conflict := .abort

/-- A step of a statement that changes rows. -/
abbrev Change := ExceptT Refusal (StateM Work)

namespace Change

/-- The value of an expression, or the end of the statement. -/
def lift {α : Type} : Except Fault α → Change α
  | .ok a => pure a
  | .error f => throw ⟨f, .abort⟩

/-- The table of the given name as it is now. -/
def table (name : String) : Change Table := do
  match (← get).store.table? name with
  | some t => return t
  | none => throw ⟨.noSuchTable name, .abort⟩

/-- Puts a changed table in its place. -/
def put (t : Table) : Change Unit := modify fun w => { w with store := w.store.putTable t }

/-! ### Expressions on a row -/

/-- The fields of a row as an item of a `FROM` clause has them. -/
def fields (t : Table) (r : Row) : List Cell :=
  if t.withoutRowid then r.cells else r.cells ++ [.int r.rowid]

/-- The environment of the expressions on one row of a table. -/
def rowEnv (env : Env) (t : Table) (r : Row) : Env :=
  { env with
    common := []
    frames := [{ sources := [Resolve.tableSource t t.name], row := [fields t r]
                 allowsAggregates := false }] }

variable (E : Evaluator) (env : Env)

/-- The value of a column that is given none. -/
def defaultCell (c : Column) : Except Fault Cell :=
  match c.default with
  | none => .ok .null
  | some (.name none n _, _) =>
    .ok (match foldName n with
      | "true" => .int 1
      | "false" => .int 0
      | _ => .text n)
  | some (e, _) => E.expr { env with common := [], frames := [] } e

/-- The row with its computed columns. -/
def withComputed (t : Table) (r : Row) : Except Fault Row :=
  t.columns.zipIdx.foldlM (fun (r : Row) (c, i) =>
    match c.generated with
    | some e => do
      let cell := c.affinity.store (← E.expr (rowEnv env t r) e)
      return { r with cells := r.cells.set i cell }
    | none => .ok r) r

/-- The field of the row number of a row is that number. -/
def withRowid (t : Table) (r : Row) : Row :=
  match t.rowidColumn with
  | some i => { r with cells := r.cells.set i (.int r.rowid) }
  | none => r

/-! ### Row numbers -/

/-- The table in which the greatest row numbers are kept. -/
def sequenceName : String := "sqlite_sequence"

/-- The greatest row number that a table ever had, if that is kept. -/
def kept (s : Store) (t : Table) : Int :=
  match s.table? sequenceName with
  | none => 0
  | some q =>
    match q.rows.find? fun r => Cell.same .binary (r.cells.headD .null) (.text t.name) with
    | some r => (r.cells.getD 1 .null).toInt
    | none => 0

/-- The number of a row that is given none. -/
def nextRowid (t : Table) : Change Int := do
  let store := (← get).store
  let last := if t.autoincrement then max t.lastRowid (kept store t) else t.lastRowid
  if last < Cell.maxInt then return max 1 (last + 1)
  else if t.autoincrement then throw ⟨.general "database or disk is full", .abort⟩
  else
    -- A free number near the middle of those that are left.
    let middle : Int := 4611686018427387904
    let free : Option Nat := (List.range (t.rows.length + 1)).find? fun (i : Nat) =>
      !t.rows.any (·.rowid = middle - (i : Int))
    return middle - Int.ofNat (free.getD 0)

/-- The table of greatest row numbers with the one of a table of the given name. -/
def withKept (q : Table) (name : String) (value : Int) : Table :=
  let isOwn (r : Row) : Bool := Cell.same .binary (r.cells.headD .null) (.text name)
  let cells : List Cell := [.text name, .int value]
  if q.rows.any isOwn then
    { q with rows := q.rows.map fun r => if isOwn r then { r with cells } else r }
  else q.insertRow ⟨q.lastRowid + 1, cells⟩

/-- Keeps the greatest row number of a table. -/
def keepRowid (t : Table) (n : Int) : Change Unit := do
  if t.autoincrement then
    let store := (← get).store
    match store.table? sequenceName with
    | none => pure ()
    | some q => put (withKept q t.name (max n (kept store t)))

/-! ### Constraints on one row -/

/-- What a constraint on a row says. -/
inductive Verdict where
  /-- The row may be written. -/
  | passes (r : Row)
  /-- The row is left out. -/
  | leftOut

/-- What happens to a row that breaks a constraint that has no other row to remove. -/
def refuse (conflict : Conflict) (f : Fault) : Change Verdict :=
  match conflict with
  | .ignore => return .leftOut
  | .replace => throw ⟨f, .abort⟩
  | c => throw ⟨f, c⟩

/-- The kind of value that a column of a strict table takes. -/
def strictKind (type : String) : Option String :=
  [("int", "integer"), ("integer", "integer"), ("real", "real"), ("text", "text"),
    ("blob", "blob")].lookup (foldName type)

/-- In a strict table a column holds values of its own kind only. -/
def checkKinds (t : Table) (r : Row) : Change Unit := do
  if t.strict then
    for (c, cell) in t.columns.zip r.cells do
      let type := c.type.getD ""
      match strictKind type with
      | some kind =>
        if !cell.isNull && cell.kindName != kind then
          throw ⟨.general ("cannot store " ++ cell.kindName.map Char.toUpper ++ " value in " ++
            type.map Char.toUpper ++ " column " ++ t.name ++ "." ++ c.name), .abort⟩
      | none => pure ()

/-- Looks at the columns that must not be null, from left to right. -/
def checkNulls (override : Option Conflict) (t : Table) :
    List (Column × Nat) → Row → Change Verdict
  | [], r => return .passes r
  | (c, i) :: rest, r => do
    match c.notNull with
    | none => checkNulls override t rest r
    | some own =>
      if !(r.cells.getD i .null).isNull || t.rowidColumn = some i then checkNulls override t rest r
      else
        let conflict := override.getD own
        let substitute ← if conflict = .replace then lift (defaultCell E env c) else pure .null
        if substitute.isNull then
          match ← refuse conflict (.notNullFailed (t.name ++ "." ++ c.name)) with
          | .leftOut => return .leftOut
          | .passes r => checkNulls override t rest r
        else checkNulls override t rest { r with cells := r.cells.set i (c.affinity.store substitute) }

/-- Looks at the conditions of a table. A condition that is unknown holds. -/
def checkConditions (override : Option Conflict) (t : Table) (r : Row) :
    List (String × Expr) → Change Verdict
  | [] => return .passes r
  | (label, e) :: rest => do
    if (← lift (E.expr (rowEnv env t r) e)).truth? = some false then
      match ← refuse (override.getD .abort) (.checkFailed label) with
      | .leftOut => return .leftOut
      | .passes _ => checkConditions override t r rest
    else checkConditions override t r rest

/-! ### Constraints on several rows -/

/-- What says that no two rows of a table are the same somewhere. -/
inductive UniqueConstraint where
  | rowid
  | index (i : Index)

/-- What happens where it is broken, unless the statement says otherwise. -/
def UniqueConstraint.conflict (t : Table) : UniqueConstraint → Conflict
  | rowid => t.rowidConflict
  | index i => i.conflict

/-- The constraints of a table in the order in which they are looked at: the latest index first,
and those that remove other rows last. -/
def uniqueConstraints (t : Table) : List UniqueConstraint :=
  let indexes := t.indexes.reverse.filter (·.unique)
  let (late, early) := indexes.partition fun i => i.conflict = .replace
  (if t.withoutRowid then [] else [.rowid]) ++ early.map .index ++ late.map .index

/-- What a broken constraint is called. -/
def uniqueFault (t : Table) : UniqueConstraint → Fault
  | .rowid =>
    let name := ((t.rowidColumn.bind (t.columns[·]?)).map (·.name)).getD "rowid"
    .uniqueFailed [t.name ++ "." ++ name]
  | .index i =>
    match i.keys.mapM fun k => k.column.bind (t.columns[·]?) with
    | some columns => .uniqueFailed (columns.map fun c => t.name ++ "." ++ c.name)
    | none => .uniqueIndexFailed i.name

/-- The keys of a row in an index, or none if the index leaves the row out or could hold it twice. -/
def uniqueKeys? (t : Table) (i : Index) (r : Row) : Except Fault (Option (List Cell)) := do
  let isIn ←
    match i.condition with
    | some e => do pure ((← E.expr (rowEnv env t r) e).truth?.getD false)
    | none => pure true
  if !isIn then return none
  let keys ← i.keys.mapM fun k =>
    match k.column with
    | some c => .ok (r.cells.getD c .null)
    | none => E.expr (rowEnv env t r) k.expr
  return if keys.any (·.isNull) then none else some keys

/-- The rows in the way of a row, one of which it may replace. -/
def clashes (t : Table) (replaced : Option Int) (r : Row) :
    UniqueConstraint → Except Fault (List Row)
  | .rowid => .ok (t.rows.filter fun x => x.rowid = r.rowid && replaced != some x.rowid)
  | .index i => do
    match ← uniqueKeys? E env t i r with
    | none => return []
    | some keys =>
      t.rows.filterM fun x => do
        if replaced = some x.rowid then return false
        match ← uniqueKeys? E env t i x with
        | none => return false
        | some others =>
          return (keys.zip (others.zip i.keys)).all fun (a, b, k) => Cell.same k.collation a b

/-! ### References -/

/-- The positions of the columns that a reference refers to. -/
def referredColumns? (parent : Table) (r : Reference) : Option (List Nat) :=
  if r.columns.isEmpty then
    match parent.rowidColumn with
    | some c => some [c]
    | none => if parent.primaryKey.isEmpty then none else some parent.primaryKey
  else r.columns.mapM parent.columnIndex?

/-- Whether columns are a key of a table. -/
def isReferable (parent : Table) (columns : List Nat) : Bool :=
  parent.rowidColumn.toList == columns ||
    parent.indexes.any fun i => i.unique && i.condition.isNone &&
      i.keys.length = columns.length &&
      i.keys.all fun k => k.column.any columns.contains

/-- Whether fields of a row are the key of a row that may be referred to; null refers to nothing. -/
def refersTo (parent : Table) (columns : List Nat) (key cells : List Cell) : Bool :=
  (columns.zip (key.zip cells)).all fun (i, k, c) =>
    match parent.columns[i]? with
    | some column => !c.isNull && Cell.same column.collation k (column.affinity.apply c)
    | none => false

/-- The fields of a row at some positions. -/
def pick (columns : List Nat) (r : Row) : List Cell := columns.map fun i => r.cells.getD i .null

/-- Whether a row, by its fields at some positions, refers to a row that is not there. -/
def isBroken (s : Store) (own : List Nat) (ref : Reference) (r : Row) : Bool :=
  let cells := pick own r
  !cells.any (·.isNull) &&
    match s.table? ref.table with
    | none => true
    | some parent =>
      match referredColumns? parent ref with
      | none => true
      | some columns => !parent.rows.any fun p => refersTo parent columns (pick columns p) cells

/-- How many rows refer to rows that are not there. -/
def violations (s : Store) (deferred : Bool) : Nat :=
  s.tables.foldl (fun sum t =>
    (t.references.filter fun x => x.2.deferred = deferred).foldl (fun sum (own, ref) =>
      sum + (t.rows.filter (isBroken s own ref)).length) sum) 0

/-- The rows that refer to a row of a table, with the reference and the positions of their fields. -/
def referring (s : Store) (parent : Table) (r : Row) :
    List (Table × List Nat × Reference × List Nat × List Row) :=
  s.tables.flatMap fun t => t.references.filterMap fun (own, ref) =>
    if sameName ref.table parent.name then
      (referredColumns? parent ref).map fun columns =>
        (t, own, ref, columns,
          t.rows.filter fun x => refersTo parent columns (pick columns r) (pick own x))
    else none

/-! ### Steps -/

/-- The fields of a row with new values at some positions. -/
def assign (t : Table) (values : List (Nat × Cell)) (r : Row) : Row :=
  { r with cells := values.foldl (fun cells (i, c) =>
      cells.set i (((t.columns[i]?).map fun x => x.affinity.store c).getD c)) r.cells }

mutual

/-- Removes a row and lets what refers to it follow. -/
def removeRow : Nat → String → Row → Change Unit
  | 0, _, _ => throw ⟨.general "too many levels of trigger recursion", .abort⟩
  | fuel + 1, name, r => do
    let t ← table name
    put (t.removeRow r.rowid)
    if (← get).enforcesReferences then
      for (child, own, ref, _, rows) in referring (← get).store t r do
        for x in rows do
          match ref.onDelete with
          | .none => pure ()
          | .restrict => throw ⟨.foreignKeyFailed, .abort⟩
          | .cascade => removeRow fuel child.name x
          | .setNull => follow fuel child x (own.map fun i => (i, .null))
          | .setDefault => do
            let cells ← own.mapM fun i =>
              match child.columns[i]? with
              | some c => return (i, ← lift (defaultCell E env c))
              | none => return (i, .null)
            follow fuel child x cells

/-- Gives a row that refers to another one new values. -/
def follow : Nat → Table → Row → List (Nat × Cell) → Change Unit
  | 0, _, _, _ => throw ⟨.general "too many levels of trigger recursion", .abort⟩
  | fuel + 1, child, x, values => do
    -- The row may have gone or changed since it was found.
    let t ← table child.name
    match t.rows.find? fun y => y.rowid = x.rowid with
    | none => pure ()
    | some y => let _ ← replaceRow fuel none t.name y (assign t values y)

/-- Puts a row in the place of another one, if the constraints let it, and lets what refers to it
follow. -/
def replaceRow : Nat → Option Conflict → String → Row → Row → Change Bool
  | 0, _, _, _, _ => throw ⟨.general "too many levels of trigger recursion", .abort⟩
  | fuel + 1, override, name, old, new => do
    let t ← table name
    let new ← lift (withComputed E env t (withRowid t new))
    checkKinds t new
    match ← checkNulls E env override t t.columns.zipIdx new with
    | .leftOut => return false
    | .passes new =>
      match ← checkConditions E env override t new t.checks with
      | .leftOut => return false
      | .passes new =>
        if !(← clear fuel override name (some old.rowid) new (uniqueConstraints t)) then
          return false
        let t ← table name
        put ((t.removeRow old.rowid).insertRow new)
        if (← get).enforcesReferences then
          for (child, own, ref, columns, rows) in referring (← get).store t old do
            let key := pick columns new
            let isKept := ((pick columns old).zip key).all fun (a, b) => Cell.same .binary a b
            if !isKept then
              for x in rows do
                match ref.onUpdate with
                | .none => pure ()
                | .restrict => throw ⟨.foreignKeyFailed, .abort⟩
                | .cascade => follow fuel child x (own.zip key)
                | .setNull => follow fuel child x (own.map fun i => (i, .null))
                | .setDefault => do
                  let cells ← own.mapM fun i =>
                    match child.columns[i]? with
                    | some c => return (i, ← lift (defaultCell E env c))
                    | none => return (i, .null)
                  follow fuel child x cells
        return true

/-- Looks at the constraints on several rows in turn, and removes rows in the way where they say
so. The answer is whether the row may be written. -/
def clear : Nat → Option Conflict → String → Option Int → Row → List UniqueConstraint → Change Bool
  | 0, _, _, _, _, _ => throw ⟨.general "too many levels of trigger recursion", .abort⟩
  | _ + 1, _, _, _, _, [] => return true
  | fuel + 1, override, name, replaced, r, u :: rest => do
    let t ← table name
    let found ← lift (clashes E env t replaced r u)
    if !found.isEmpty then
      match override.getD (u.conflict t) with
      | .ignore => return false
      | .replace => for x in found do removeRow fuel name x
      | c => throw ⟨uniqueFault t u, c⟩
    clear fuel override name replaced r rest

end

/-- How long chains of references may be. -/
def chainLimit : Nat := 10000

end Change

end SqlJob.Database
