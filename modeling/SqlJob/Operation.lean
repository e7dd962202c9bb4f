/-!
# Operations

A statement becomes exactly one operation: an insert, which is deferred to the end of the script; a
session option; a request for a query plan; the creation of a table; or anything else, which is
executed at once like the creation of a table.
-/

namespace SqlJob

/-- A write into a table. -/
structure Insert where
  sql : String
  /-- The table's name as the statement writes it. -/
  target : String
  deriving DecidableEq, Repr

/-- `SET`, `SET key` or `SET key = value`. -/
structure SetCommand where
  sql : String
  key : Option String
  value : Option String
  deriving DecidableEq, Repr

/-- The assignment, when key and value are both there. -/
def SetCommand.assignment? (c : SetCommand) : Option (String × String) :=
  match c.key, c.value with
  | some key, some value => some (key, value)
  | _, _ => none

/-- One statement as an operation. -/
inductive Operation where
  | insert (insert : Insert)
  | setOption (command : SetCommand)
  /-- A request for the plan of the statement `explained`, which is in normal form. -/
  | explain (sql explained : String)
  | createTable (sql : String)
  /-- Anything else; `keyword` is the upper-case word the statement starts with. -/
  | other (sql keyword : String)
  deriving DecidableEq, Repr

namespace Operation

/-- The text of the statement. -/
def sql : Operation → String
  | insert i => i.sql
  | setOption c => c.sql
  | explain sql _ => sql
  | createTable sql => sql
  | other sql _ => sql

/-- The name of the kind of operation. -/
def label : Operation → String
  | insert _ => "INSERT"
  | setOption _ => "SET"
  | explain _ _ => "EXPLAIN"
  | createTable _ => "CREATE TABLE"
  | other _ _ => "OTHER"

end Operation

end SqlJob
