/-!
# Database faults

Why the database refuses a text or stops executing it. Each cause has one message; the result codes
tell the classes of causes apart.
-/

namespace SqlJob.Database

/-- Why a text is refused or its execution stops. -/
inductive Fault where
  | unrecognizedToken (token : String)
  | unexpectedToken (token : String)
  | incompleteInput
  | noSuchTable (name : String)
  | noSuchView (name : String)
  | noSuchIndex (name : String)
  | noSuchColumn (name : String)
  | ambiguousColumn (name : String)
  | noSuchFunction (name : String)
  | wrongArguments (function : String)
  | misusedAggregate (function : String)
  | noSuchCollation (name : String)
  /-- A table or a view of the name exists. -/
  | alreadyExists (kind name : String)
  | indexExists (name : String)
  | tableHasColumns (table : String) (columns values : Nat)
  | valuesForColumns (values columns : Nat)
  | unknownInsertColumn (table column : String)
  | duplicateColumn (name : String)
  /-- Unequal numbers of columns on the two sides of a set operation. -/
  | unequalColumns (operator : String)
  | unequalRows
  | subqueryColumns (count expected : Nat)
  | uniqueFailed (columns : List String)
  | uniqueIndexFailed (index : String)
  | notNullFailed (column : String)
  | checkFailed (constraint : String)
  | foreignKeyFailed
  | datatypeMismatch
  | integerOverflow
  | readOnly
  | notADatabase
  | cannotOpen
  | nestedTransaction
  | noTransactionToCommit
  | noTransactionToRollBack
  | noSuchSavepoint (name : String)
  /-- A cause of its own wording. -/
  | general (message : String)
  deriving DecidableEq, Repr, Inhabited

namespace Fault

/-- What is said about the cause. -/
def message : Fault → String
  | unrecognizedToken token => "unrecognized token: \"" ++ token ++ "\""
  | unexpectedToken token => "near \"" ++ token ++ "\": syntax error"
  | incompleteInput => "incomplete input"
  | noSuchTable name => "no such table: " ++ name
  | noSuchView name => "no such view: " ++ name
  | noSuchIndex name => "no such index: " ++ name
  | noSuchColumn name => "no such column: " ++ name
  | ambiguousColumn name => "ambiguous column name: " ++ name
  | noSuchFunction name => "no such function: " ++ name
  | wrongArguments function => "wrong number of arguments to function " ++ function ++ "()"
  | misusedAggregate function => "misuse of aggregate: " ++ function ++ "()"
  | noSuchCollation name => "no such collation sequence: " ++ name
  | alreadyExists kind name => kind ++ " " ++ name ++ " already exists"
  | indexExists name => "index " ++ name ++ " already exists"
  | tableHasColumns table columns values =>
    "table " ++ table ++ " has " ++ toString columns ++ " columns but " ++ toString values ++
      " values were supplied"
  | valuesForColumns values columns =>
    toString values ++ " values for " ++ toString columns ++ " columns"
  | unknownInsertColumn table column => "table " ++ table ++ " has no column named " ++ column
  | duplicateColumn name => "duplicate column name: " ++ name
  | unequalColumns operator =>
    "SELECTs to the left and right of " ++ operator ++
      " do not have the same number of result columns"
  | unequalRows => "all VALUES must have the same number of terms"
  | subqueryColumns count expected =>
    "sub-select returns " ++ toString count ++ " columns - expected " ++ toString expected
  | uniqueFailed columns => "UNIQUE constraint failed: " ++ String.intercalate ", " columns
  | uniqueIndexFailed index => "UNIQUE constraint failed: index '" ++ index ++ "'"
  | notNullFailed column => "NOT NULL constraint failed: " ++ column
  | checkFailed constraint => "CHECK constraint failed: " ++ constraint
  | foreignKeyFailed => "FOREIGN KEY constraint failed"
  | datatypeMismatch => "datatype mismatch"
  | integerOverflow => "integer overflow"
  | readOnly => "attempt to write a readonly database"
  | notADatabase => "file is not a database"
  | cannotOpen => "unable to open database file"
  | nestedTransaction => "cannot start a transaction within a transaction"
  | noTransactionToCommit => "cannot commit - no transaction is active"
  | noTransactionToRollBack => "cannot rollback - no transaction is active"
  | noSuchSavepoint name => "no such savepoint: " ++ name
  | general message => message

/-- The result code of the cause. -/
def code : Fault → Nat
  | uniqueFailed _ => 2067
  | uniqueIndexFailed _ => 2067
  | notNullFailed _ => 1299
  | checkFailed _ => 275
  | foreignKeyFailed => 787
  | datatypeMismatch => 20
  | readOnly => 8
  | notADatabase => 26
  | cannotOpen => 14
  | _ => 1

/-- The cause with its code, as it is shown where no context is given. -/
def display (f : Fault) : String :=
  "error returned from database: (code: " ++ toString f.code ++ ") " ++ f.message

end Fault

end SqlJob.Database
