import SqlJob.Database.Change

/-!
# Making, changing and dropping tables, indexes and views

A definition is checked as a whole and gives the store with what it defines. A definition of
something that exists is refused, unless it says that this does not matter.
-/

namespace SqlJob.Database.Define

variable (R : Resolver) (E : Evaluator) (env : Env)

/-! ### Names -/

/-- Whether a name is kept for the database itself. -/
def isReserved (name : String) : Bool := "sqlite_".toList.isPrefixOf (foldName name).toList

/-- What exists under a name: the word for it. -/
def existing? (s : Store) (name : String) : Option String :=
  if (s.table? name).isSome then some "table"
  else if (s.view? name).isSome then some "view"
  else none

/-- A name must be free for a table or a view; none if it is not but this does not matter. -/
def freeName (s : Store) (mayExist : Bool) (n : ObjectName) : Except Fault (Option Unit) := do
  if !n.isLocal then throw (.general ("unknown database " ++ n.schema.getD ""))
  if isReserved n.name then
    throw (.general ("object name reserved for internal use: " ++ n.name))
  match existing? s n.name with
  | some word =>
    if mayExist then return none
    throw (.alreadyExists word n.spelling)
  | none =>
    if (s.index? n.name).isSome then
      throw (.general ("there is already an index named " ++ n.name))
    return some ()

/-! ### Tables -/

/-- The affinity of a column with the given type. -/
def affinityOf (type : Option String) : Affinity :=
  match type with
  | some t => .ofTypeName t
  | none => .blob

/-- Whether the value of an expression is always the same. -/
def isConstant (e : Expr) : Bool :=
  !e.anywhere (fun
    | .name _ _ false => true
    | .field _ _ => true
    | .scalar _ => true
    | .inQuery .. => true
    | .existsIn _ => true
    | _ => false) Expr.depthLimit

/-- Whether the default of a column is a value: a name alone is a text. -/
def isValue : Expr → Bool
  | .name none _ _ => true
  | e => isConstant e

/-- A column from its definition, apart from the constraints that concern the table. -/
def column (d : ColumnDefinition) : Except Fault Column :=
  d.constraints.foldlM (fun (c : Column) x =>
    match x with
    | .notNull conflict => .ok { c with notNull := some (conflict.getD .abort) }
    | .default e text =>
      if isValue e then .ok { c with default := some (e, text) }
      else .error (.general ("default value of column [" ++ d.name ++ "] is not constant"))
    | .collate n =>
      match Collation.ofName? n with
      | some collation => .ok { c with collation }
      | none => .error (.noSuchCollation n)
    | .generated e => .ok { c with generated := some e }
    | _ => .ok c)
    { name := d.name, type := d.type, affinity := affinityOf d.type }

/-- The columns of a table, whose names must differ. -/
def columns (ds : List ColumnDefinition) : Except Fault (List Column) :=
  ds.foldlM (fun (done : List Column) d => do
    if done.any fun c => sameName c.name d.name then throw (.duplicateColumn d.name)
    return done ++ [← column d]) []

/-- The constraints of columns as constraints of the table, each with the word whether it is a
row-numbering key. -/
def columnKeys (d : ColumnDefinition) : List (Bool × TableConstraint) :=
  d.constraints.filterMap fun
    | .primaryKey descending conflict autoincrement =>
      some (autoincrement, .primaryKey
        [{ expr := .name none d.name false, descending }] conflict)
    | .unique conflict => some (false, .unique [{ expr := .name none d.name false }] conflict)
    | .check label e => some (false, .check label e)
    | .references r => some (false, .foreignKey [d.name] r)
    | _ => none

/-- The keys of an index. A name must be a column. -/
def indexKeys (t : Table) (columns : List IndexedColumn) (mayCompute : Bool) :
    Except Fault (List IndexKey) :=
  columns.map (fun k =>
    match k.expr with
    | .collate e n => (e, some n, k.descending)
    | e => (e, none, k.descending)) |>.mapM fun (e, collation?, descending) => do
    let asked ←
      match collation? with
      | some n =>
        match Collation.ofName? n with
        | some c => pure (some c)
        | none => throw (.noSuchCollation n)
      | none => pure none
    let e :=
      match e with
      | .literal (.text n) => Expr.name none n false
      | e => e
    match e with
    | .name none n _ =>
      match t.columnIndex? n with
      | some i =>
        let own := ((t.columns[i]?).map (·.collation)).getD .binary
        return { expr := e, column := some i, collation := asked.getD own, descending }
      | none => throw (.noSuchColumn n)
    | e =>
      if !mayCompute then
        throw (.general "expressions prohibited in PRIMARY KEY and UNIQUE constraints")
      let _ ← R.expr (Change.rowEnv env t ⟨0, []⟩) e
      return { expr := e, column := none, collation := asked.getD .binary, descending }

/-- Whether two indexes have the same keys. -/
def sameKeys (a b : List IndexKey) : Bool :=
  a.length = b.length &&
    (a.zip b).all fun (x, y) => x.column == y.column && x.collation = y.collation

/-- Adds the index of a constraint, unless there is one with the same keys already. -/
def addKeyIndex (t : Table) (keys : List IndexKey) (conflict : Option Conflict)
    (origin : IndexOrigin) (sequence : Nat) : Table :=
  if t.indexes.any fun i => sameKeys i.keys keys then t
  else
    let isHidden := t.withoutRowid && origin = .primaryKey
    let name := "sqlite_autoindex_" ++ t.name ++ "_" ++ toString (t.indexes.length + 1)
    { t with indexes := t.indexes ++ [{
        name := if isHidden then "" else name
        unique := true, keys, conflict := conflict.getD .abort, origin, sequence }] }

/-- Whether a column is declared as the kind of a row number. -/
def isInteger (c : Column) : Bool := c.type.any fun t => foldName t == "integer"

/-- Adds a constraint to a table. -/
def addConstraint (sequence : Nat) (t : Table) (autoincrement isColumn : Bool) :
    TableConstraint → Except Fault Table
  | .primaryKey ks conflict => do
    if !t.primaryKey.isEmpty then
      throw (.general ("table \"" ++ t.name ++ "\" has more than one primary key"))
    let keys ← indexKeys R env t ks false
    let positions := keys.filterMap (·.column)
    let t := { t with primaryKey := positions }
    let alone : Option Nat :=
      match keys with
      | [k] => if k.descending && isColumn then none else k.column.filter fun i =>
          (t.columns[i]?).any isInteger
      | _ => none
    if t.withoutRowid then
      if autoincrement then throw (.general "AUTOINCREMENT not allowed on WITHOUT ROWID tables")
      let columns := t.columns.zipIdx.map fun (c, i) =>
        if positions.contains i then { c with notNull := some (c.notNull.getD .abort) } else c
      return addKeyIndex { t with columns } keys conflict .primaryKey sequence
    match alone with
    | some i =>
      return { t with rowidColumn := some i, rowidConflict := conflict.getD .abort, autoincrement }
    | none =>
      if autoincrement then
        throw (.general "AUTOINCREMENT is only allowed on an INTEGER PRIMARY KEY")
      return addKeyIndex t keys conflict .primaryKey sequence
  | .unique ks conflict => do
    return addKeyIndex t (← indexKeys R env t ks false) conflict .uniqueConstraint sequence
  | .check label e => .ok { t with checks := t.checks ++ [(label, e)] }
  | .foreignKey names r => do
    let own ← names.mapM fun n =>
      match t.columnIndex? n with
      | some i => .ok i
      | none => .error (.general ("unknown column \"" ++ n ++ "\" in foreign key definition"))
    if !r.columns.isEmpty && r.columns.length != own.length then
      throw (.general (
        if isColumn then "foreign key on " ++ names.headD "" ++
          " should reference only one column of table " ++ r.table
        else "number of columns in foreign key does not match the number of columns in the referenced table"))
    return { t with references := t.references ++ [(own, r)] }

/-- The kinds of columns of a strict table. -/
def strictTypes : List String := ["int", "integer", "real", "text", "blob", "any"]

/-- The columns of a strict table must say their kind. -/
def checkStrict (t : Table) : Except Fault Unit := do
  if t.strict then
    for c in t.columns do
      match c.type with
      | none => throw (.general ("missing datatype for " ++ t.name ++ "." ++ c.name))
      | some type =>
        if !strictTypes.contains (foldName type) then
          throw (.general ("unknown datatype for " ++ t.name ++ "." ++ c.name ++ ": \"" ++ type ++
            "\""))

/-- The expressions of a table must make sense on its rows. -/
def checkExpressions (t : Table) : Except Fault Unit := do
  let inside := Change.rowEnv env t ⟨0, []⟩
  for (_, e) in t.checks do
    if e.anywhere (·.query?.isSome) Expr.depthLimit then
      throw (.general "subqueries prohibited in CHECK constraints")
    let _ ← R.expr inside e
  for c in t.columns do
    for e in c.generated.toList do
      let _ ← R.expr inside e

/-- A table from its definition. -/
def table (d : TableDefinition) (text : String) (sequence : Nat) : Except Fault Table := do
  let columns ← columns d.columns
  let columns := columns.map fun c =>
    if d.strict && c.type.any (foldName · == "any") then { c with affinity := .blob } else c
  let start : Table := {
    name := d.name.name, columns, withoutRowid := d.withoutRowid, strict := d.strict, text, sequence }
  let constraints := d.columns.flatMap (fun c => (columnKeys c).map fun (a, x) => (a, true, x)) ++
    d.constraints.map fun x => (false, false, x)
  let t ← constraints.foldlM (fun t (autoincrement, isColumn, x) =>
    addConstraint R env sequence t autoincrement isColumn x) start
  if t.columns.all (·.generated.isSome) then
    throw (.general "must have at least one non-generated column")
  checkStrict t
  if t.withoutRowid && t.primaryKey.isEmpty then
    throw (.general ("PRIMARY KEY missing on table " ++ t.name))
  checkExpressions R env t
  return t

/-- The store with one more table, and with the table of the greatest row numbers, if the new one
needs it. -/
def addTable (s : Store) (t : Table) : Store :=
  let s := { s with tables := s.tables ++ [t], made := s.made + 1 }
  if t.autoincrement && (s.table? Change.sequenceName).isNone then
    let q : Table := {
      name := Change.sequenceName, columns := [{ name := "name" }, { name := "seq" }]
      text := "CREATE TABLE sqlite_sequence(name,seq)", sequence := s.made }
    { s with tables := s.tables ++ [q], made := s.made + 1 }
  else s

/-- Makes a table. -/
def createTable (s : Store) (mayExist : Bool) (d : TableDefinition) (text : String) :
    Except Fault Store := do
  match ← freeName s mayExist d.name with
  | none => return s
  | some _ => return addTable s (← table R env d ("CREATE TABLE " ++ text) s.made)

/-- The type that is written for an affinity. -/
def typeOf (a : Option Affinity) : Option String :=
  match a with
  | some .text => some "TEXT"
  | some .numeric => some "NUM"
  | some .integer => some "INT"
  | some .real => some "REAL"
  | _ => none

/-- The text of a definition of a table with the given columns. -/
def definitionText (name : String) (columns : List Column) : String :=
  "CREATE TABLE " ++ name ++ "(" ++ String.intercalate "," (columns.map fun c =>
    c.name ++ ((c.type.map (" " ++ ·)).getD "")) ++ ")"

/-- Makes a table of the rows of a query. -/
def createTableAs (s : Store) (mayExist : Bool) (n : ObjectName) (q : Query) :
    Except Fault Store := do
  match ← freeName s mayExist n with
  | none => return s
  | some _ =>
    let given := Resolve.distinctNames (← R.query env q)
    let columns : List Column := given.map fun c =>
      { name := c.name, type := typeOf c.affinity, affinity := affinityOf (typeOf c.affinity) }
    let rows ← E.query env q
    let rows := rows.zipIdx.map fun (r, i) =>
      (⟨(i : Int) + 1, (columns.zip r).map fun (c, x) => c.affinity.store x⟩ : Row)
    return addTable s {
      name := n.name, columns, rows, text := definitionText n.name columns, sequence := s.made }

/-! ### Indexes and views -/

/-- Makes an index. -/
def createIndex (s : Store) (unique mayExist : Bool) (n : ObjectName) (table : String)
    (ks : List IndexedColumn) (condition : Option Expr) (text : String) : Except Fault Store := do
  if !n.isLocal then throw (.general ("unknown database " ++ n.schema.getD ""))
  match s.table? table with
  | none =>
    if (s.view? table).isSome then throw (.general "views may not be indexed")
    if Resolve.isSchemaTable table then
      throw (.general ("table " ++ table ++ " may not be indexed"))
    throw (.noSuchTable ("main." ++ table))
  | some t =>
    if isReserved t.name then throw (.general ("table " ++ t.name ++ " may not be indexed"))
    if isReserved n.name then
      throw (.general ("object name reserved for internal use: " ++ n.name))
    if (existing? s n.name).isSome then
      throw (.general ("there is already a table named " ++ n.name))
    if (s.index? n.name).isSome then
      if mayExist then return s
      throw (.indexExists n.name)
    let keys ← indexKeys R env t ks true
    for e in condition.toList do
      let _ ← R.expr (Change.rowEnv env t ⟨0, []⟩) e
    let i : Index := {
      name := n.name, unique, keys, condition, sequence := s.made
      text := some ((if unique then "CREATE UNIQUE INDEX " else "CREATE INDEX ") ++ text) }
    if unique then
      for r in t.rows do
        if !(← Change.clashes E env t (some r.rowid) r (.index i)).isEmpty then
          throw (Change.uniqueFault t (.index i))
    return { s.putTable { t with indexes := t.indexes ++ [i] } with made := s.made + 1 }

/-- Makes a view. Its query is looked at when it is used. -/
def createView (s : Store) (mayExist : Bool) (n : ObjectName) (columns : Option (List String))
    (q : Query) (text : String) : Except Fault Store := do
  match ← freeName s mayExist n with
  | none => return s
  | some _ => return { s with
      views := s.views ++ [{
        name := n.name, columns, query := q, text := "CREATE VIEW " ++ text, sequence := s.made }]
      made := s.made + 1 }

/-! ### Dropping -/

/-- The store without a table: its rows are removed first, as far as references matter. -/
def dropTable (s : Store) (t : Table) (enforces : Bool) : Except Fault Store := do
  let isReferred := s.tables.any fun x => x.references.any fun y => sameName y.2.table t.name
  let w : Work := { store := s, enforcesReferences := enforces }
  let w ←
    if enforces && isReferred then
      let remove : Change Unit := t.rows.forM fun r => do
        Change.removeRow E env Change.chainLimit t.name r
      let (answer, w') := remove.run w |>.run
      match answer with
      | .ok _ =>
        if Change.violations s false < Change.violations w'.store false then
          throw .foreignKeyFailed
        pure w'
      | .error e => throw e.fault
    else pure w
  let s := { w.store with tables := w.store.tables.filter fun x => !sameName x.name t.name }
  match s.table? Change.sequenceName with
  | none => return s
  | some q =>
    let rows := q.rows.filter fun r =>
      !Cell.same .binary (r.cells.headD .null) (.text t.name)
    return s.putTable { q with rows }

/-- Drops something. -/
def drop (s : Store) (enforces : Bool) (kind : ObjectKind) (mayMiss : Bool) (n : ObjectName) :
    Except Fault Store := do
  let missing : Except Fault Store :=
    if mayMiss then .ok s else .error (.general ("no such " ++ kind.word ++ ": " ++ n.display))
  if !n.isLocal then return ← missing
  match kind with
  | .table =>
    match s.table? n.name with
    | some t =>
      if isReserved t.name then throw (.general ("table " ++ t.name ++ " may not be dropped"))
      dropTable E env s t enforces
    | none =>
      if (s.view? n.name).isSome then
        throw (.general ("use DROP VIEW to delete view " ++ n.name))
      if Resolve.isSchemaTable n.name then
        throw (.general ("table " ++ n.name ++ " may not be dropped"))
      missing
  | .view =>
    match s.view? n.name with
    | some v => return { s with views := s.views.filter fun x => !sameName x.name v.name }
    | none =>
      if (s.table? n.name).isSome then
        throw (.general ("use DROP TABLE to delete table " ++ n.name))
      missing
  | .index =>
    match s.index? n.name with
    | some (t, i) =>
      if i.text.isNone then
        throw (.general
          "index associated with UNIQUE or PRIMARY KEY constraint cannot be dropped")
      return s.putTable { t with indexes := t.indexes.filter fun x => !sameName x.name i.name }
    | none => missing
  | .trigger => missing

/-! ### Changing tables -/

/-- The name as it is shown in a message about a column. -/
def quotedName (n : String) : String := "\"" ++ n ++ "\""

/-- The text of a definition with one more column before the closing parenthesis. -/
def withColumnText (text column : String) : String :=
  match text.toList.reverse.dropWhile (· != ')') with
  | [] => text
  | _ :: front => .ofList (front.reverse ++ (", " ++ column ++ ")").toList)

/-- A column added to a table: the rows that are there have its default. -/
def addColumn (s : Store) (t : Table) (d : ColumnDefinition) (text : String) :
    Except Fault Store := do
  if (t.columnIndex? d.name).isSome then throw (.duplicateColumn d.name)
  let c ← column d
  let keys := columnKeys d
  let cell ← Change.defaultCell E env c
  if keys.any fun k => match k.2 with
      | .primaryKey .. => true
      | _ => false then
    throw (.general "Cannot add a PRIMARY KEY column")
  if keys.any fun k => match k.2 with
      | .unique .. => true
      | _ => false then
    throw (.general "Cannot add a UNIQUE column")
  if !t.rows.isEmpty then
    if c.notNull.isSome && cell.isNull && c.generated.isNone then
      throw (.general "Cannot add a NOT NULL column with default value NULL")
  let start := { t with columns := t.columns ++ [c], text := withColumnText t.text text }
  let t' ← keys.foldlM (fun t (_, x) => addConstraint R env s.made t false true x) start
  checkExpressions R env t'
  let rows ← t.rows.mapM fun r =>
    Change.withComputed E env t' { r with cells := r.cells ++ [c.affinity.store cell] }
  return s.putTable { t' with rows }

/-- An index key behind a removed column. -/
def withoutColumn (i : Nat) (k : IndexKey) : IndexKey :=
  { k with column := k.column.map fun c => if i < c then c - 1 else c }

/-- A table without one of its columns. -/
def dropColumn (s : Store) (t : Table) (name : String) : Except Fault Store := do
  match t.columnIndex? name with
  | none => throw (.general ("no such column: " ++ quotedName name))
  | some i =>
    if t.primaryKey.contains i then
      throw (.general ("cannot drop PRIMARY KEY column: " ++ quotedName name))
    if t.indexes.any fun x => x.text.isNone && x.keys.any fun k => k.column == some i then
      throw (.general ("cannot drop UNIQUE column: " ++ quotedName name))
    if t.columns.length = 1 then
      throw (.general ("cannot drop column " ++ quotedName name ++ ": no other columns exist"))
    match t.indexes.find? fun x => x.keys.any fun k => k.column == some i with
    | some x =>
      throw (.general ("error in index " ++ x.name ++ " after drop column: no such column: " ++
        name))
    | none => pure ()
    let lower (c : Nat) : Nat := if i < c then c - 1 else c
    return s.putTable { t with
      columns := t.columns.eraseIdx i
      rows := t.rows.map fun r => { r with cells := r.cells.eraseIdx i }
      rowidColumn := t.rowidColumn.map lower
      primaryKey := t.primaryKey.map lower
      indexes := t.indexes.map fun x => { x with keys := x.keys.map (withoutColumn i) }
      references := (t.references.filter fun x => !x.1.contains i).map fun (own, r) =>
        (own.map lower, r) }

/-- A table under another name; what refers to it follows. -/
def renameTable (s : Store) (t : Table) (name : String) : Except Fault Store := do
  if (existing? s name).isSome || (s.index? name).isSome then
    throw (.general ("there is already another table or index with this name: " ++ name))
  if isReserved name then throw (.general ("object name reserved for internal use: " ++ name))
  let s := s.replaceTable t.name { t with name }
  let follow (x : Table) : Table :=
    { x with references := x.references.map fun (own, r) =>
        (own, if sameName r.table t.name then { r with table := name } else r) }
  let s := { s with tables := s.tables.map follow }
  match s.table? Change.sequenceName with
  | none => return s
  | some q =>
    let rows := q.rows.map fun r =>
      if Cell.same .binary (r.cells.headD .null) (.text t.name) then
        { r with cells := r.cells.set 0 (.text name) }
      else r
    return s.putTable { q with rows }

/-- A table with another name for one of its columns. -/
def renameColumn (s : Store) (t : Table) (old new : String) : Except Fault Store := do
  match t.columnIndex? old with
  | none => throw (.general ("no such column: " ++ quotedName old))
  | some i =>
    if t.columnIndex? new |>.any (· != i) then throw (.duplicateColumn new)
    let columns := t.columns.zipIdx.map fun (c, j) =>
      if i = j then { c with name := new } else c
    return s.putTable { t with columns }

/-- Changes a table. -/
def alter (s : Store) (n : ObjectName) (change : Alteration) : Except Fault Store := do
  match if n.isLocal then s.table? n.name else none with
  | none =>
    if n.isLocal && (s.view? n.name).isSome then
      match change with
      | .addColumn .. => throw (.general "Cannot add a column to a view")
      | .rename _ => throw (.general ("view " ++ n.name ++ " may not be altered"))
      | .renameColumn .. =>
        throw (.general ("cannot rename columns of view " ++ quotedName n.name))
      | .dropColumn _ =>
        throw (.general ("cannot drop column from view " ++ quotedName n.name))
    if n.isLocal && Resolve.isSchemaTable n.name then
      throw (.general ("table " ++ foldName n.name ++ " may not be altered"))
    throw (.noSuchTable n.display)
  | some t =>
    if isReserved t.name then throw (.general ("table " ++ t.name ++ " may not be altered"))
    match change with
    | .rename name => renameTable s t name
    | .renameColumn old new => renameColumn s t old new
    | .addColumn d text => addColumn R E env s t d text
    | .dropColumn name => dropColumn s t name

end SqlJob.Database.Define
