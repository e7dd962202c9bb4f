import SqlJob.Failure
import SqlJob.Operation.SetSyntax
import SqlJob.Sql.Statement
import SqlJob.Text.Letter

/-!
# From statements to operations

A statement is trimmed. If it is a `SET` command it becomes one; otherwise it must be exactly one
statement of the dialect, whose kind decides the operation.
-/

namespace SqlJob

/-- Reads statements of one dialect. -/
structure StatementReader where
  dialect : Dialect
  deriving DecidableEq, Repr

/-- Why a text is no operation. -/
inductive ReadError where
  | empty
  /-- The dialect's grammar does not know the text. -/
  | syntaxError (e : Sql.SqlError)
  /-- The text holds another number of statements than one. -/
  | statementCount (n : Nat)
  deriving DecidableEq, Repr

namespace ReadError

/-- The error in words. -/
def message : ReadError → String
  | empty => "Empty statement"
  | syntaxError e => "SQL parse error: " ++ e.message
  | statementCount n => "Expected a single statement, found " ++ toString n

/-- The failure of the stage that reads statements. -/
def toFailure (e : ReadError) : Failure :=
  ⟨.parse, e.message⟩

end ReadError

/-- The first word of a statement, without what is neither letter nor digit at its ends, in upper
case. -/
def leadingKeyword (sql : String) : String :=
  .ofList (Text.toUpper (Text.stripBoth (fun c => !Text.isAlphanumeric c) (Text.firstWord sql.toList)))

/-- The operation that a statement with the text `sql` is. -/
def Operation.ofStatement (sql : String) (s : Sql.Statement) : Operation :=
  match s.kind with
  | .insert target => .insert ⟨sql, target⟩
  | .explain explained => .explain sql explained
  | .createTable => .createTable sql
  | .describe => .other sql (leadingKeyword sql)
  | .other => .other sql (leadingKeyword sql)

namespace StatementReader

/-- The reader of the default dialect. -/
def default : StatementReader := ⟨.sqlite⟩

/-- The reader of the dialect with the given name. -/
def ofName (name : String) : Except Failure StatementReader :=
  let name := Dialect.normalName name
  match Dialect.ofName? name with
  | some d => .ok ⟨d⟩
  | none => .error ⟨.config, "Unknown SQL dialect '" ++ name ++ "'"⟩

/-- Reads a trimmed text that is no `SET` command. -/
def readStatement (r : StatementReader) (sql : String) : Except ReadError Operation :=
  match Sql.readStatements r.dialect sql with
  | .error e => .error (.syntaxError e)
  | .ok [s] => .ok (.ofStatement sql s)
  | .ok ss => .error (.statementCount ss.length)

/-- Reads a statement, and says what is wrong with it if it is no operation. -/
def readOperation (r : StatementReader) (statement : String) : Except ReadError Operation :=
  let sql := Text.trimmed statement
  if sql = "" then .error .empty
  else
    match SetCommand.read? sql with
    | some command => .ok (.setOption command)
    | none => r.readStatement sql

/-- Reads a statement. -/
def read (r : StatementReader) (statement : String) : Except Failure Operation :=
  match r.readOperation statement with
  | .ok operation => .ok operation
  | .error e => .error e.toFailure

end StatementReader

end SqlJob
