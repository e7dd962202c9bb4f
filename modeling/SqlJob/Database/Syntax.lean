import SqlJob.Database.Cell

/-!
# Statements of the database

The expressions, queries and statements that the database understands, as trees. Names are kept as
they are written, without their quotes; they get their meaning only where a statement is executed.
-/

namespace SqlJob.Database

/-- An operator with one operand. -/
inductive UnaryOperator where
  | negative | positive | bitNot | not
  deriving DecidableEq, Repr

/-- An operator with two operands. -/
inductive BinaryOperator where
  | or | and
  | equal | notEqual | less | lessEqual | greater | greaterEqual
  | is | isNot
  | bitAnd | bitOr | shiftLeft | shiftRight
  | add | subtract | multiply | divide | remainder
  | concat | extract | extractText
  deriving DecidableEq, Repr

/-- Whether the operator compares its operands. -/
def BinaryOperator.isComparison : BinaryOperator → Bool
  | equal | notEqual | less | lessEqual | greater | greaterEqual | is | isNot => true
  | _ => false

/-- An operator on the rows of two queries. -/
inductive SetOperator where
  | union | unionAll | intersect | except
  deriving DecidableEq, Repr

/-- How it is written. -/
def SetOperator.text : SetOperator → String
  | union => "UNION"
  | unionAll => "UNION ALL"
  | intersect => "INTERSECT"
  | except => "EXCEPT"

/-- The name of a table, a view or an index, with the database that it is said to be in. -/
structure ObjectName where
  schema : Option String := none
  name : String
  /-- The name as it is written, with its quotes. -/
  spelling : String := name
  deriving DecidableEq, Repr, Inhabited

/-- The name as it is shown. -/
def ObjectName.display (n : ObjectName) : String :=
  match n.schema with
  | some s => s ++ "." ++ n.name
  | none => n.name

/-- Which rows of a join are kept that have no partner. -/
inductive JoinKind where
  | inner | left | right | full
  deriving DecidableEq, Repr

mutual

/-- An expression. -/
inductive Expr where
  | literal (c : Cell)
  | parameter
  /-- A column; the name may also stand between double quotes, like a string. -/
  | name (table : Option String) (column : String) (inDoubleQuotes : Bool)
  /-- A column by its place: which of the items of the `FROM` clause, and which of its columns. -/
  | field (source column : Nat)
  | unary (op : UnaryOperator) (e : Expr)
  | binary (op : BinaryOperator) (a b : Expr)
  | collate (e : Expr) (collation : String)
  | cast (e : Expr) (type : String)
  | isNull (negated : Bool) (e : Expr)
  | between (negated : Bool) (e low high : Expr)
  | like (negated : Bool) (function : String) (e pattern : Expr) (escape : Option Expr)
  | inList (negated : Bool) (e : Expr) (items : List Expr)
  | inQuery (negated : Bool) (e : Expr) (q : Query)
  | existsIn (q : Query)
  | scalar (q : Query)
  | case (base : Option Expr) (branches : List (Expr × Expr)) (otherwise : Option Expr)
  | call (c : Call)
  | row (items : List Expr)

/-- A call of a function. -/
structure Call where
  function : String
  args : List Expr := []
  /-- Whether a star stands in place of the arguments. -/
  star : Bool := false
  distinct : Bool := false
  /-- The order in which an aggregate sees its rows. -/
  order : List OrderTerm := []
  /-- Which rows an aggregate sees. -/
  filter : Option Expr := none
  window : Option Window := none

/-- The rows that a window function sees: those of the same partition, in an order. -/
structure Window where
  partition : List Expr := []
  order : List OrderTerm := []

/-- One key to sort by. -/
structure OrderTerm where
  expr : Expr
  descending : Bool := false
  nullsFirst : Option Bool := none

/-- One item of a select list. -/
inductive ResultItem where
  | star
  | tableStar (table : String)
  /-- An expression, an alias if there is one, and the text of the expression. -/
  | expr (e : Expr) (alias? : Option String) (text : String)

/-- A `SELECT` without what can follow set operations. -/
structure Select where
  /-- How many selects end before it in the statement, and itself. -/
  number : Nat := 0
  distinct : Bool := false
  items : List ResultItem
  source : List FromItem := []
  condition : Option Expr := none
  groupBy : List Expr := []
  having : Option Expr := none

/-- The body of a query. -/
inductive Body where
  | select (s : Select)
  | values (rows : List (List Expr))
  | compound (op : SetOperator) (left right : Body)

/-- A query. -/
structure Query where
  common : List CommonTable := []
  body : Body
  order : List OrderTerm := []
  limit : Option Expr := none
  offset : Option Expr := none

/-- A table that a query defines for itself. -/
structure CommonTable where
  name : String
  columns : Option (List String)
  query : Query

/-- One item of a `FROM` clause and how it joins those before it. -/
structure FromItem where
  kind : JoinKind := .inner
  natural : Bool := false
  term : TableTerm
  on : Option Expr := none
  shared : List String := []

/-- What rows are taken from. -/
inductive TableTerm where
  | table (name : ObjectName) (alias? : Option String)
  | function (name : String) (args : List Expr) (alias? : Option String)
  | query (q : Query) (alias? : Option String)
  | group (items : List FromItem)

end

/-- The query without anything around its body. -/
def Query.ofBody (b : Body) : Query := { body := b }

/-! ### Definitions -/

/-- What happens to a row that breaks a constraint, and to the rows before it. -/
inductive Conflict where
  | rollback | abort | fail | ignore | replace
  deriving DecidableEq, Repr, Inhabited

/-- What happens to the referencing rows when a row is deleted or its key changes. -/
inductive ReferenceAction where
  | none | restrict | setNull | setDefault | cascade
  deriving DecidableEq, Repr

/-- The key of another table that columns refer to. -/
structure Reference where
  table : String
  columns : List String := []
  onDelete : ReferenceAction := .none
  onUpdate : ReferenceAction := .none
  deferred : Bool := false
  deriving DecidableEq, Repr

/-- A constraint behind a column. -/
inductive ColumnConstraint where
  | primaryKey (descending : Bool) (conflict : Option Conflict) (autoincrement : Bool)
  | notNull (conflict : Option Conflict)
  | unique (conflict : Option Conflict)
  /-- A condition with its name or its text. -/
  | check (label : String) (e : Expr)
  | default (e : Expr) (text : String)
  | collate (name : String)
  | references (r : Reference)
  | generated (e : Expr)

/-- A column as it is defined. -/
structure ColumnDefinition where
  name : String
  type : Option String
  constraints : List ColumnConstraint := []

/-- A column of an index. -/
structure IndexedColumn where
  expr : Expr
  descending : Bool := false

/-- A constraint behind the columns of a table. -/
inductive TableConstraint where
  | primaryKey (columns : List IndexedColumn) (conflict : Option Conflict)
  | unique (columns : List IndexedColumn) (conflict : Option Conflict)
  | check (label : String) (e : Expr)
  | foreignKey (columns : List String) (r : Reference)

/-- A table as it is defined. -/
structure TableDefinition where
  name : ObjectName
  columns : List ColumnDefinition
  constraints : List TableConstraint
  withoutRowid : Bool := false
  strict : Bool := false

/-! ### Statements -/

/-- New values for columns; several columns take the values of a row. -/
structure Assignment where
  columns : List String
  value : Expr

/-- What an insert does instead, where it meets a row that is there already. -/
structure Upsert where
  /-- The columns of the constraint that must be met; none stands for any. -/
  target : Option (List Expr)
  /-- The changes to that row; none leaves it alone. -/
  change : Option (List Assignment × Option Expr)

/-- What is inserted. -/
inductive InsertSource where
  | query (q : Query)
  | defaults

/-- An insert. -/
structure InsertStatement where
  common : List CommonTable := []
  conflict : Option Conflict := none
  table : ObjectName
  alias? : Option String := none
  columns : Option (List String) := none
  source : InsertSource
  upserts : List Upsert := []
  returning : List ResultItem := []

/-- An update. -/
structure UpdateStatement where
  common : List CommonTable := []
  conflict : Option Conflict := none
  table : ObjectName
  alias? : Option String := none
  assignments : List Assignment
  source : List FromItem := []
  condition : Option Expr := none
  returning : List ResultItem := []

/-- A delete. -/
structure DeleteStatement where
  common : List CommonTable := []
  table : ObjectName
  alias? : Option String := none
  condition : Option Expr := none
  returning : List ResultItem := []

/-- A change to the definition of a table. -/
inductive Alteration where
  | rename (name : String)
  | renameColumn (column name : String)
  /-- The text is that of the definition of the column. -/
  | addColumn (c : ColumnDefinition) (text : String)
  | dropColumn (column : String)

/-- What a definition defines. -/
inductive ObjectKind where
  | table | index | view | trigger
  deriving DecidableEq, Repr

/-- The word for it. -/
def ObjectKind.word : ObjectKind → String
  | table => "table"
  | index => "index"
  | view => "view"
  | trigger => "trigger"

/-- A statement. -/
inductive Statement where
  | query (q : Query)
  | insert (s : InsertStatement)
  | update (s : UpdateStatement)
  | delete (s : DeleteStatement)
  /-- The text is that of the definition from the name on. -/
  | createTable (ifNotExists : Bool) (d : TableDefinition) (text : String)
  | createTableAs (ifNotExists : Bool) (name : ObjectName) (q : Query)
  | createIndex (unique ifNotExists : Bool) (name : ObjectName) (table : String) (columns : List IndexedColumn)
      (condition : Option Expr) (text : String)
  | createView (ifNotExists : Bool) (name : ObjectName) (columns : Option (List String))
      (q : Query) (text : String)
  | createVirtual (ifNotExists : Bool) (name : ObjectName) (module : String)
  | drop (kind : ObjectKind) (ifExists : Bool) (name : ObjectName)
  | alter (table : ObjectName) (change : Alteration)
  | begin
  | commit
  | rollback
  | savepoint (name : String)
  | release (name : String)
  | rollbackTo (name : String)
  | pragma (name : String) (value : Option String)
  /-- Work on the files of the database that changes nothing in it. -/
  | maintain
  | reindex (name : Option String)
  | detach (name : String)
  /-- The plan of a statement. -/
  | plan (s : Statement)
  /-- The program of a statement. -/
  | program (s : Statement)

end SqlJob.Database
