import SqlJob.Database.Syntax

/-!
# Tables and their rows

A store is what a database holds at one moment: its tables with their rows, indexes and
constraints, its views, and two numbers that the user may set. It is a value, so a moment can be
kept and returned to. Names are looked up without regard to the case of ASCII letters.
-/

namespace SqlJob.Database

/-- A name in the form in which names are compared. -/
def foldName (s : String) : String := s.map Char.toLower

/-- Whether two names are the same. -/
def sameName (a b : String) : Bool := foldName a == foldName b

/-- A column of a table. -/
structure Column where
  name : String
  type : Option String := none
  affinity : Affinity := .blob
  collation : Collation := .binary
  /-- What happens to a null where null is not allowed. -/
  notNull : Option Conflict := none
  default : Option (Expr × String) := none
  /-- What the column is computed from. -/
  generated : Option Expr := none

/-- Where an index comes from. -/
inductive IndexOrigin where
  | definition | uniqueConstraint | primaryKey
  deriving DecidableEq, Repr

/-- One key of an index. -/
structure IndexKey where
  expr : Expr
  /-- The column that the key is, if it is one. -/
  column : Option Nat
  collation : Collation := .binary
  descending : Bool := false

/-- An index, which may also say that no two rows have the same keys. -/
structure Index where
  name : String
  unique : Bool
  keys : List IndexKey
  condition : Option Expr := none
  conflict : Conflict := .abort
  origin : IndexOrigin := .definition
  /-- The text of its definition; none for one that belongs to a constraint. -/
  text : Option String := none
  /-- Its place in the order in which things were made. -/
  sequence : Nat := 0

/-- A row of a table: its number and its fields. -/
structure Row where
  rowid : Int
  cells : List Cell
  deriving Inhabited

/-- A table. -/
structure Table where
  name : String
  columns : List Column
  /-- The column that is the row number. -/
  rowidColumn : Option Nat := none
  rowidConflict : Conflict := .abort
  primaryKey : List Nat := []
  autoincrement : Bool := false
  withoutRowid : Bool := false
  strict : Bool := false
  /-- The conditions on its rows, with what a breach is called. -/
  checks : List (String × Expr) := []
  references : List (List Nat × Reference) := []
  indexes : List Index := []
  rows : List Row := []
  text : String := ""
  sequence : Nat := 0

/-- A named query. -/
structure View where
  name : String
  columns : Option (List String) := none
  query : Query
  text : String := ""
  sequence : Nat := 0

/-- What a database holds. -/
structure Store where
  tables : List Table := []
  views : List View := []
  userVersion : Int := 0
  applicationId : Int := 0
  /-- How many things were made so far. -/
  made : Nat := 0

namespace Table

/-- The position of a column. -/
def columnIndex? (t : Table) (name : String) : Option Nat :=
  t.columns.findIdx? fun c => sameName c.name name

/-- The index with the given name. -/
def index? (t : Table) (name : String) : Option Index :=
  t.indexes.find? fun i => sameName i.name name

/-- Puts a row at the place that its number gives it. -/
def insertRow (t : Table) (r : Row) : Table :=
  let (before, after) := t.rows.span fun x => x.rowid < r.rowid
  { t with rows := before ++ r :: after }

/-- Takes the rows with the given number away. -/
def removeRow (t : Table) (rowid : Int) : Table :=
  { t with rows := t.rows.filter fun x => x.rowid != rowid }

/-- The greatest row number, or zero. -/
def lastRowid (t : Table) : Int :=
  match t.rows.getLast? with
  | some r => r.rowid
  | none => 0

end Table

namespace Store

/-- The table with the given name. -/
def table? (s : Store) (name : String) : Option Table :=
  s.tables.find? fun t => sameName t.name name

/-- The view with the given name. -/
def view? (s : Store) (name : String) : Option View :=
  s.views.find? fun v => sameName v.name name

/-- The table that has the index with the given name, and the index. -/
def index? (s : Store) (name : String) : Option (Table × Index) :=
  s.tables.findSome? fun t => (t.index? name).map (t, ·)

/-- Puts a table in the place of the one with the given name. -/
def replaceTable (s : Store) (name : String) (t : Table) : Store :=
  { s with tables := s.tables.map fun x => if sameName x.name name then t else x }

/-- Puts a changed table in the place of the one with the same name. -/
def putTable (s : Store) (t : Table) : Store := s.replaceTable t.name t

end Store

/-- The part of a name's database that is the database itself. -/
def ObjectName.isLocal (n : ObjectName) : Bool :=
  match n.schema with
  | none => true
  | some s => sameName s "main" || sameName s "temp"

end SqlJob.Database
