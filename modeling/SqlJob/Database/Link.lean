import SqlJob.Database.Connection
import SqlJob.Engine.Backend

/-!
# The database behind an engine

A connection as an engine uses it. Values become those of results, types are shown by the kind of
value they stand for, and the transactions of an engine are counted: one within another is a named
place to go back to.
-/

namespace SqlJob.Database

/-- A connection, and how many transactions of the engine are open. -/
structure Link where
  connection : Connection := {}
  depth : Nat := 0
  /-- The file that the database is kept in, unless it goes away with the connection. -/
  file : Option String := none

/-- The value of a cell. A text that is none has no value. -/
def Cell.toValue : Cell → Value
  | .null => .null
  | .int n => .int (Int64.ofInt n)
  | .real x => .float x
  | .text s => .text s
  | .brokenText _ => .null
  | .blob bs => .bytes bs

/-- The kind of value that a declared type is shown as. -/
def shownType (type : Option String) : String :=
  match type with
  | none => "NULL"
  | some t =>
    let s := t.toList.map Char.toLower
    let name := String.ofList s
    let has (part : String) : Bool := Affinity.occursIn part.toList s
    if name = "boolean" ∨ name = "bool" then "BOOLEAN"
    else if name = "date" then "DATE"
    else if name = "time" then "TIME"
    else if name = "datetime" ∨ name = "timestamp" then "DATETIME"
    else if has "int" then "INTEGER"
    else if has "char" || has "clob" || has "text" then "TEXT"
    else if has "blob" then "BLOB"
    else if has "real" || has "floa" || has "doub" then "REAL"
    else "NULL"

/-- A fault as an engine sees it. -/
def Fault.toBackend (f : Fault) : BackendFailure := ⟨f.message, f.display⟩

namespace Link

/-- Executes a text. -/
def run (l : Link) (text : String) : Link × Except BackendFailure (List (Answer × Nat)) :=
  match l.connection.run text with
  | (c, .ok answers) => ({ l with connection := c }, .ok answers)
  | (c, .error f) => ({ l with connection := c }, .error f.toBackend)

/-- The columns and the rows of answers: the columns are those of the first row. -/
def table (answers : List (Answer × Nat)) : List SqlJob.Column × List (List Value) :=
  let given := (answers.map (·.1)).filter fun a => !a.rows.isEmpty
  let columns := ((given.head?.map (·.columns)).getD []).map fun c =>
    (⟨c.name, shownType c.type⟩ : SqlJob.Column)
  (columns, given.flatMap fun a => a.rows.map fun r => r.map Cell.toValue)

/-- The node of a plan that a row of an answer is. -/
def planNode : List Cell → PlanNode
  | [id, parent, _, detail] => ⟨id.toInt, parent.toInt, detail.asString⟩
  | _ => ⟨0, 0, ""⟩

/-- The name of the place to go back to for a transaction within others. -/
def placeName (depth : Nat) : String := "level_" ++ toString depth

/-- What begins, ends and undoes the transaction at a depth. -/
def beginText (depth : Nat) : String :=
  if depth = 0 then "BEGIN" else "SAVEPOINT " ++ placeName depth

/-- What makes the transaction at a depth last. -/
def commitText (depth : Nat) : String :=
  if depth = 1 then "COMMIT" else "RELEASE SAVEPOINT " ++ placeName (depth - 1)

/-- What undoes the transaction at a depth. -/
def rollBackText (depth : Nat) : String :=
  if depth = 1 then "ROLLBACK" else "ROLLBACK TO SAVEPOINT " ++ placeName (depth - 1)

/-- Executes a text that changes the depth, if it succeeds. -/
def shift (l : Link) (text : String) (depth : Nat) : Link × Except BackendFailure Unit :=
  match l.run text with
  | (l, .ok _) => ({ l with depth }, .ok ())
  | (l, .error x) => (l, .error x)

/-- The database behind an engine. -/
def backend : Backend Link where
  execute l text :=
    match l.run text with
    | (l, .ok answers) => (l, .ok (.ofNat (answers.foldl (fun sum a => sum + a.2) 0)))
    | (l, .error x) => (l, .error x)
  query l text :=
    match l.run text with
    | (l, .ok answers) => (l, .ok (table answers))
    | (l, .error x) => (l, .error x)
  plan l text :=
    match l.run (planRequest text) with
    | (l, .ok answers) => (l, .ok (answers.flatMap fun a => a.1.rows.map planNode))
    | (l, .error x) => (l, .error x)
  begin l := l.shift (beginText l.depth) (l.depth + 1)
  commit l := if l.depth = 0 then (l, .ok ()) else l.shift (commitText l.depth) (l.depth - 1)
  rollBack l := if l.depth = 0 then l else (l.shift (rollBackText l.depth) (l.depth - 1)).1

end Link

end SqlJob.Database
