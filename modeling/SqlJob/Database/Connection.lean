import SqlJob.Database.Define
import SqlJob.Database.Explanation
import SqlJob.Database.Reader.Statement

/-!
# Connections

A connection executes texts against a store. A text may hold several statements, which are read,
checked and executed one after another. A transaction keeps the store as it was when it began, so
that going back is taking that store again; transactions within it are named. A statement that
fails leaves the store as it was, unless it asks for something else.
-/

namespace SqlJob.Database

/-- A place to go back to. -/
structure Mark where
  /-- Its name, unless it is the start of a transaction without one. -/
  name : Option String
  store : Store

/-- What keeps a store from being used. -/
inductive Obstacle where
  /-- It may be looked at only. -/
  | readOnly
  /-- It is no database. -/
  | unreadable
  deriving DecidableEq, Repr

/-- A connection. -/
structure Connection where
  store : Store := {}
  counts : Counts := {}
  /-- The places to go back to, the latest first. -/
  marks : List Mark := []
  enforcesReferences : Bool := true
  obstacle : Option Obstacle := none

namespace Connection

/-- How deep the parts of what is executed may be nested. -/
def nesting : Nat := Expr.depthLimit

/-- The check of expressions and queries. -/
def checks : Resolver := Resolve.resolver nesting

/-- The planner of queries. -/
def plans : Planning.Planner := Planning.planner checks nesting

/-- The evaluation of expressions and queries. -/
def values : Evaluator := Evaluate.evaluator checks plans nesting

/-- The environment of statements. -/
def env (c : Connection) : Env :=
  { store := c.store, counts := c.counts, isReadable := c.obstacle != some .unreadable }

/-! ### Transactions -/

/-- The store at the start of the outermost transaction. -/
def start (c : Connection) : Store := ((c.marks.getLast?).map (·.store)).getD c.store

/-- Whether more references lead nowhere than in an earlier store. -/
def breaksReferences (c : Connection) (deferred : Bool) (before after : Store) : Bool :=
  c.enforcesReferences && Change.violations before deferred < Change.violations after deferred

/-- Ends all transactions and keeps what was done. -/
def commit (c : Connection) : Except Fault Connection :=
  if c.marks.isEmpty then .error .noTransactionToCommit
  else if c.breaksReferences true c.start c.store then .error .foreignKeyFailed
  else .ok { c with marks := [] }

/-- Ends all transactions and goes back to the start of the outermost one. -/
def rollBack (c : Connection) : Except Fault Connection :=
  if c.marks.isEmpty then .error .noTransactionToRollBack
  else .ok { c with store := c.start, marks := [] }

/-- The marks from the latest one of the given name on, and whether there is one. -/
def marksFrom (c : Connection) (name : String) : List Mark :=
  c.marks.dropWhile fun m => !m.name.any (sameName name)

/-- Gives up the latest mark of a name and those after it. -/
def release (c : Connection) (name : String) : Except Fault Connection :=
  match c.marksFrom name with
  | [] => .error (.noSuchSavepoint name)
  | [_] =>
    if c.breaksReferences true c.start c.store then .error .foreignKeyFailed
    else .ok { c with marks := [] }
  | _ :: rest => .ok { c with marks := rest }

/-- Goes back to the latest mark of a name, which stays. -/
def rollBackTo (c : Connection) (name : String) : Except Fault Connection :=
  match c.marksFrom name with
  | [] => .error (.noSuchSavepoint name)
  | m :: rest => .ok { c with store := m.store, marks := m :: rest }

/-! ### Statements -/

/-- A checked statement: what executing it does. -/
abbrev Action := Connection → Connection × Except Fault Answer

/-- Executing does nothing but answer. -/
def answering (a : Answer) : Action := fun c => (c, .ok a)

/-- Whether a statement changes rows. -/
def changesRows : Statement → Bool
  | .insert _ => true
  | .update _ => true
  | .delete _ => true
  | _ => false

/-- Executing does nothing but answer in place of a statement. No rows are counted then for one that
changes rows. -/
def describing (s : Statement) (a : Answer) : Action := fun c =>
  (if changesRows s then { c with counts := { c.counts with changes := 0 } } else c, .ok a)

/-- Executing makes another connection of the connection, or fails and changes nothing. -/
def turning (f : Connection → Except Fault Connection) : Action := fun c =>
  match f c with
  | .ok c' => (c', .ok {})
  | .error e => (c, .error e)

/-- Executing puts another store in the place of the store. -/
def storing (s : Store) : Action := fun c =>
  if c.obstacle = some .readOnly then (c, .error .readOnly) else ({ c with store := s }, .ok {})

/-- The connection with the count of the rows of the latest statement that changes rows. -/
def counted (c : Connection) (n : Nat) : Connection :=
  { c with counts := { c.counts with changes := n, totalChanges := c.counts.totalChanges + n } }

/-- Executing changes rows. -/
def changing (j : Job) : Action := fun c =>
  if c.obstacle = some .readOnly then (c.counted 0, .error .readOnly)
  else
    let w : Work := {
      store := c.store, lastRowid := c.counts.lastRowid, enforcesReferences := c.enforcesReferences }
    let (result, w) := (j.work.run w).run
    let kept := { c with store := w.store, counts := { c.counts with lastRowid := w.lastRowid } }
    match result with
    | .ok rows =>
      if c.breaksReferences false c.store w.store ||
          (c.marks.isEmpty && c.breaksReferences true c.store w.store) then
        (c.counted 0, .error .foreignKeyFailed)
      else (kept.counted w.changed, .ok { columns := j.columns, rows })
    | .error r =>
      match r.conflict with
      | .fail => (kept.counted w.changed, .error r.fault)
      | .rollback => ({ c with store := c.start, marks := [] }.counted 0, .error r.fault)
      | _ => (c.counted 0, .error r.fault)

/-- Executing asks for a setting or changes one. -/
def setting (name : String) (value : Option String) : Action := fun c =>
  let key := foldName name
  let put (s : Store) : Connection × Except Fault Answer := storing s c
  match key, value with
  | "user_version", none => (c, .ok (.ofCell key (.int c.store.userVersion)))
  | "user_version", some v => put { c.store with userVersion := Setting.integer v }
  | "application_id", none => (c, .ok (.ofCell key (.int c.store.applicationId)))
  | "application_id", some v => put { c.store with applicationId := Setting.integer v }
  | "foreign_keys", none => (c, .ok (.ofCell key (.ofBool c.enforcesReferences)))
  | "foreign_keys", some v =>
    if c.marks.isEmpty then ({ c with enforcesReferences := Setting.truth v }, .ok {})
    else (c, .ok {})
  | "schema_version", none => (c, .ok (.ofCell key (.int (c.store.made : Int))))
  | "page_count", none =>
    let pages : Nat := c.store.tables.foldl (fun sum t => sum + 1 + t.indexes.length) 0
    (c, .ok (.ofCell key (.int (if pages = 0 then 0 else (pages : Int) + 1))))
  | "database_list", none =>
    (c, .ok (.ofRows ["seq", "name", "file"] [[.int 0, .text "main", .text ""]]))
  | _, _ =>
    if Setting.describes.contains key then
      match value with
      | some v => (c, .ok (Setting.description c.store key v))
      | none => (c, .ok {})
    else
      match Setting.fixed.lookup key with
      | some (column, cell) =>
        if value.isNone || Setting.answersWhenSet.contains key then
          (c, .ok (.ofCell column cell))
        else (c, .ok {})
      | none => (c, .ok {})

/-- The settings that are asked for without looking at the store. -/
def isOutside (name : String) : Bool :=
  ["foreign_keys", "busy_timeout", "cache_size", "synchronous", "temp_store",
    "recursive_triggers", "locking_mode", "short_column_names", "full_column_names"].contains
    (foldName name)

/-- A fault over a store that is no database. -/
def readable (c : Connection) : Except Fault Unit :=
  if c.obstacle = some .unreadable then .error .notADatabase else .ok ()

/-- Checks a statement and gives what executing it does. -/
def prepare (c : Connection) : Statement → Except Fault Action
  | .query q => do
    let columns ← checks.query c.env q
    return fun c =>
      match values.query c.env q with
      | .ok rows => (c, .ok { columns, rows })
      | .error f => (c, .error f)
  | .insert s => do
    c.readable
    return changing (← Write.insert checks values c.env c.enforcesReferences s)
  | .update s => do
    c.readable
    return changing (← Write.update checks values plans c.env c.enforcesReferences s)
  | .delete s => do
    c.readable
    return changing (← Write.delete checks values plans c.env s)
  | .createTable mayExist d text => do
    c.readable
    return storing (← Define.createTable checks c.env c.store mayExist d text)
  | .createTableAs mayExist n q => do
    c.readable
    return storing (← Define.createTableAs checks values c.env c.store mayExist n q)
  | .createIndex unique mayExist n table keys condition text => do
    c.readable
    return storing
      (← Define.createIndex checks values c.env c.store unique mayExist n table keys condition text)
  | .createView mayExist n columns q text => do
    c.readable
    return storing (← Define.createView c.store mayExist n columns q text)
  | .createVirtual mayExist n module => do
    c.readable
    match ← Define.freeName c.store mayExist n with
    | none => return answering {}
    | some _ => throw (.general ("no such module: " ++ module))
  | .drop kind mayMiss n => do
    c.readable
    return storing (← Define.drop values c.env c.store c.enforcesReferences kind mayMiss n)
  | .alter n change => do
    c.readable
    return storing (← Define.alter checks values c.env c.store n change)
  | .begin => .ok (turning fun c =>
      if c.marks.isEmpty then .ok { c with marks := [⟨none, c.store⟩] }
      else .error .nestedTransaction)
  | .commit => .ok (turning commit)
  | .rollback => .ok (turning rollBack)
  | .savepoint name =>
    .ok (turning fun c => .ok { c with marks := ⟨some name, c.store⟩ :: c.marks })
  | .release name => .ok (turning (release · name))
  | .rollbackTo name => .ok (turning (rollBackTo · name))
  | .pragma name value => do
    if !isOutside name then c.readable
    return setting name value
  | .maintain => do
    c.readable
    return answering {}
  | .reindex name => do
    c.readable
    match name with
    | none => return answering {}
    | some n =>
      if (c.store.table? n).isSome || (c.store.index? n).isSome || (Collation.ofName? n).isSome then
        return answering {}
      else throw (.general "unable to identify the object to be reindexed")
  | .detach name => .error (.general ("no such database: " ++ name))
  | .plan s => do
    let _ ← prepare c s
    return describing s (Explanation.answer checks plans c.env c.enforcesReferences s)
  | .program s => do
    let _ ← prepare c s
    return describing s {}

/-- Executes one statement. -/
def step (c : Connection) (s : Statement) : Connection × Except Fault Answer :=
  match prepare c s with
  | .ok action => action c
  | .error f => (c, .error f)

/-! ### Texts -/

/-- The answers to the statements of a text from a place on, in turn, each with the count of
changed rows behind it; and the fault that ended it, if one did. -/
def runFrom (i : Input) : Nat → Nat → Connection → Connection × Except Fault (List (Answer × Nat))
  | 0, _, c => (c, .ok [])
  | fuel + 1, position, c =>
    match i.statementAt position with
    | .error f => (c, .error f)
    | .ok (none, _) => (c, .ok [])
    | .ok (some s, next) =>
      match c.step s with
      | (c, .error f) => (c, .error f)
      | (c, .ok a) =>
        match runFrom i fuel next c with
        | (c', .ok rest) => (c', .ok ((a, c.counts.changes) :: rest))
        | (c', .error f) => (c', .error f)

/-- Executes the statements of a text in turn. -/
def run (c : Connection) (text : String) : Connection × Except Fault (List (Answer × Nat)) :=
  let i := Input.ofText text
  runFrom i (i.lexemes.size + 1) 0 c

end Connection

end SqlJob.Database
