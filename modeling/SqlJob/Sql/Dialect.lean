import SqlJob.Text.Blank
import SqlJob.Text.Case

/-!
# SQL dialects

The dialects statements can be written in, their names, and what they disagree on below the level
of words: which characters make up identifiers, which quotes surround them, and how string literals
are escaped.
-/

namespace SqlJob

/-- A dialect of SQL. -/
inductive Dialect where
  | generic | mysql | postgres | hive | sqlite | snowflake | redshift | mssql | clickhouse
  | bigquery | ansi | duckdb
  deriving DecidableEq, Repr

namespace Dialect

/-- The names of the dialects; one dialect has two. -/
def names : List (String × Dialect) := [
  ("generic", generic), ("mysql", mysql), ("postgresql", postgres), ("postgres", postgres),
  ("hive", hive), ("sqlite", sqlite), ("snowflake", snowflake), ("redshift", redshift),
  ("mssql", mssql), ("clickhouse", clickhouse), ("bigquery", bigquery), ("ansi", ansi),
  ("duckdb", duckdb)]

/-- A name as it is looked up: trimmed and in lower case. -/
def normalName (name : String) : String :=
  Text.lower (Text.trimmed name)

/-- The dialect with a normalised name. -/
def ofName? (name : String) : Option Dialect :=
  names.lookup name

/-- An ASCII letter. -/
def isLetter (c : Char) : Bool :=
  c.isAlpha

/-- A character beyond ASCII that fits 16 bits. -/
def isBasicPlane (low : Nat) (c : Char) : Bool :=
  low ≤ c.toNat && c.toNat ≤ 0xFFFF

/-- The characters an identifier may start with. -/
def identifierStart (d : Dialect) (c : Char) : Bool :=
  match d with
  | generic => Text.isAlphabetic c || ['_', '#', '@'].contains c
  | mysql => isLetter c || ['_', '$', '@'].contains c || isBasicPlane 0x80 c
  | postgres => Text.isAlphabetic c || c == '_'
  | hive => isLetter c || c.isDigit || c == '$'
  | sqlite => isLetter c || ['_', '$'].contains c || isBasicPlane 0x7F c
  | snowflake => isLetter c || c == '_'
  | redshift => Text.isAlphabetic c || ['_', '#'].contains c
  | mssql => Text.isAlphabetic c || ['_', '#', '@'].contains c
  | clickhouse => isLetter c || c == '_'
  | bigquery => isLetter c || c == '_'
  | ansi => isLetter c
  | duckdb => Text.isAlphabetic c || c == '_'

/-- The characters an identifier may go on with. -/
def identifierPart (d : Dialect) (c : Char) : Bool :=
  match d with
  | generic => Text.isAlphabetic c || c.isDigit || ['@', '$', '#', '_'].contains c
  | mysql => identifierStart mysql c || c.isDigit
  | postgres => Text.isAlphabetic c || c.isDigit || ['$', '_'].contains c
  | hive => isLetter c || c.isDigit || ['_', '$', '\x7b', '\x7d'].contains c
  | sqlite => identifierStart sqlite c || c.isDigit
  | snowflake => isLetter c || c.isDigit || ['$', '_'].contains c
  | redshift => Text.isAlphabetic c || c.isDigit || ['$', '_', '#'].contains c
  | mssql => Text.isAlphabetic c || c.isDigit || ['@', '$', '#', '_'].contains c
  | clickhouse => identifierStart clickhouse c || c.isDigit
  | bigquery => isLetter c || c.isDigit || c == '_'
  | ansi => isLetter c || c.isDigit || c == '_'
  | duckdb => Text.isAlphabetic c || c.isDigit || ['$', '_'].contains c

/-- The characters that open a quoted identifier. -/
def identifierQuotes : Dialect → List Char
  | generic => ['"', '`']
  | mysql => ['`']
  | postgres => ['"']
  | hive => ['"', '`']
  | sqlite => ['"', '`', '[']
  | snowflake => ['"', '`']
  | redshift => ['"', '[']
  | mssql => ['"', '[']
  | clickhouse => ['"', '`']
  | bigquery => ['`']
  | ansi => ['"', '`']
  | duckdb => ['"', '`']

/-- Whether an identifier quote really opens an identifier, given the text behind it. In Redshift
brackets also index into documents, so only an identifier character makes them quotes. -/
def opensIdentifier (d : Dialect) (rest : List Char) : Bool :=
  match d with
  | redshift =>
    match Text.trimStart rest with
    | c :: _ => identifierStart redshift c
    | [] => false
  | _ => true

/-- Whether a backslash escapes the next character of a string literal. -/
def backslashEscapes (d : Dialect) : Bool :=
  [mysql, bigquery, snowflake, clickhouse].contains d

/-- Whether string literals may have three quotes on each side. -/
def tripleQuotes (d : Dialect) : Bool :=
  d == bigquery

/-- Whether an identifier may start with digits. -/
def numericIdentifiers (d : Dialect) : Bool :=
  d == mysql || d == hive

/-- Whether string literals with Unicode escapes are known. -/
def unicodeStrings (d : Dialect) : Bool :=
  [generic, postgres].contains d

/-- Whether operators may be made of any operator characters. -/
def customOperators (d : Dialect) : Bool :=
  d == postgres

/-- Whether a list may end with a comma. -/
def trailingCommas (d : Dialect) : Bool :=
  d == duckdb

/-- Whether the list of a `SELECT` may end with a comma. -/
def projectionTrailingCommas (d : Dialect) : Bool :=
  [bigquery, duckdb, snowflake].contains d

end Dialect

end SqlJob
