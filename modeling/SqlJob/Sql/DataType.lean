import SqlJob.Sql.Literal

/-!
# Data types

The names of data types with their parameters, printed in upper case unless the type has a spelling
of its own. Any other name is a custom type with the parameters it is written with.
-/

namespace SqlJob.Sql

/-- How the parameters of a type are written. -/
inductive TypeParameters where
  /-- No parameter. -/
  | none
  /-- An optional length or precision. -/
  | precision
  /-- An optional display width, then an optional `UNSIGNED`. -/
  | integer
  /-- An optional length in characters or octets, or `MAX`. -/
  | length
  /-- An optional precision and an optional scale. -/
  | exact
  /-- An optional precision, then `WITH TIME ZONE` or `WITHOUT TIME ZONE`. -/
  | time
  /-- One or more strings in parentheses. -/
  | strings
  deriving DecidableEq, Repr

/-- The types with one word: the word, its normal form and its parameters. -/
def wordTypes : List (String × String × TypeParameters) := [
  ("BOOLEAN", "BOOLEAN", .none), ("BOOL", "BOOL", .none), ("FLOAT", "FLOAT", .precision),
  ("REAL", "REAL", .none), ("FLOAT4", "FLOAT4", .none), ("FLOAT32", "Float32", .none),
  ("FLOAT64", "FLOAT64", .none), ("FLOAT8", "FLOAT8", .none), ("TINYINT", "TINYINT", .integer),
  ("INT2", "INT2", .integer), ("SMALLINT", "SMALLINT", .integer),
  ("MEDIUMINT", "MEDIUMINT", .integer), ("INT", "INT", .integer), ("INT4", "INT4", .integer),
  ("INT8", "INT8", .integer), ("INT16", "Int16", .none), ("INT32", "Int32", .none),
  ("INT64", "INT64", .none), ("INT128", "Int128", .none), ("INT256", "Int256", .none),
  ("INTEGER", "INTEGER", .integer), ("BIGINT", "BIGINT", .integer), ("UINT8", "UInt8", .none),
  ("UINT16", "UInt16", .none), ("UINT32", "UInt32", .none), ("UINT64", "UInt64", .none),
  ("UINT128", "UInt128", .none), ("UINT256", "UInt256", .none), ("VARCHAR", "VARCHAR", .length),
  ("NVARCHAR", "NVARCHAR", .length), ("CLOB", "CLOB", .precision),
  ("BINARY", "BINARY", .precision), ("VARBINARY", "VARBINARY", .precision),
  ("BLOB", "BLOB", .precision), ("BYTES", "BYTES", .precision), ("UUID", "UUID", .none),
  ("DATE", "DATE", .none), ("DATE32", "Date32", .none), ("DATETIME", "DATETIME", .precision),
  ("TIMESTAMP", "TIMESTAMP", .time), ("TIMESTAMPTZ", "TIMESTAMPTZ", .precision),
  ("TIME", "TIME", .time), ("TIMETZ", "TIMETZ", .precision), ("INTERVAL", "INTERVAL", .none),
  ("JSON", "JSON", .none), ("JSONB", "JSONB", .none), ("REGCLASS", "REGCLASS", .none),
  ("STRING", "STRING", .precision), ("TEXT", "TEXT", .none), ("BYTEA", "BYTEA", .none),
  ("NUMERIC", "NUMERIC", .exact), ("DECIMAL", "DECIMAL", .exact), ("DEC", "DEC", .exact),
  ("BIGNUMERIC", "BIGNUMERIC", .exact), ("BIGDECIMAL", "BIGDECIMAL", .exact),
  ("ENUM", "ENUM", .strings), ("SET", "SET", .strings), ("TRIGGER", "TRIGGER", .none)]

namespace Parse

/-- A length in characters or octets, without its parentheses. -/
def characterLength : Parse String := do
  if ← keyword "MAX" then return "MAX"
  let n ← natural
  return n ++ lead " " (← keywordIn ["CHARACTERS", "OCTETS"])

/-- An optional length in characters or octets. -/
def characterLength? : Parse String := do
  if ← atSymbol "(" then return "(" ++ (← parenthesized characterLength) ++ ")" else return ""

/-- A time zone clause behind a space, if there is one. -/
def timeZone? : Parse String := do
  if ← keyword "WITH" then
    expectKeywords "TIME ZONE"
    return " WITH TIME ZONE"
  else if ← keyword "WITHOUT" then
    expectKeywords "TIME ZONE"
    return " WITHOUT TIME ZONE"
  else return ""

/-- A string literal, as a member of a type. -/
def memberString : Parse String := do
  let t ← next
  match t.token with
  | .string .single value => return quoted '\'' value
  | _ => expectedAt "a string" t

/-- The parameters of a type. -/
def typeParameters : TypeParameters → Parse String
  | .none => return ""
  | .precision => precision?
  | .integer => return (← precision?) ++ (← flag "UNSIGNED")
  | .length => characterLength?
  | .exact => precisionAndScale? ","
  | .time => return (← precision?) ++ (← timeZone?)
  | .strings => return "(" ++ commas (← parenthesized (list memberString)) ++ ")"

/-- The parameters of a custom type, up to the closing parenthesis. -/
def customParameters : Parse (List String) := do
  let read ← many do
    let t ← next
    match t.token with
    | .word value quote _ => return some (some (Token.text (.word value quote "")))
    | .number n _ => return some (some n)
    | .string .single value => return some (some value)
    | .symbol "," => return some none
    | .symbol ")" => return none
    | _ => expectedAt "type modifiers" t
  return read.filterMap id

/-- A character type, whose name may have several words. -/
def characterType (word : String) : Parse String := do
  if ← keyword "VARYING" then return word ++ " VARYING" ++ (← characterLength?)
  else if ← keywords "LARGE OBJECT" then return word ++ " LARGE OBJECT" ++ (← precision?)
  else return word ++ (← characterLength?)

/-- The `>` at the end of an element type, which may be the second half of `>>`. -/
def closeAngle (inner : DataType) : Parse Bool := do
  if inner.closesOuter then return false
  else if ← symbol ">" then return false
  else if ← symbol ">>" then return true
  else expected ">"

variable (G : Grammar)

/-- A wrapper type with one type in parentheses. -/
def wrapped (word : String) : Parse String := do
  return word ++ "(" ++ (← parenthesized G.innerType).text ++ ")"

/-- A data type without the brackets that may follow it. -/
def baseType : Parse DataType := do
  let t ← peekPlaced
  match t.token with
  | .word _ quote k =>
    let k := if quote.isNone then k else ""
    match wordTypes.lookup k with
    | some (text, parameters) =>
      skip
      let text := text ++ (← typeParameters parameters)
      return { text, shape := if k = "INTERVAL" then .interval else .known }
    | none =>
      let clickhouse ← dialectIn [.clickhouse, .generic]
      if k = "DOUBLE" then
        skip
        return { text := "DOUBLE" ++ (← flag "PRECISION") }
      else if k = "CHARACTER" ∨ k = "CHAR" then
        skip
        return { text := ← characterType k }
      else if k = "ARRAY" then
        skip
        if (← dialect) == .snowflake then return { text := "ARRAY" }
        else if (← dialect) == .clickhouse then return { text := ← wrapped G "Array" }
        else
          expectSymbol "<"
          let inner ← G.innerType
          let closesOuter ← closeAngle inner
          return { text := "ARRAY<" ++ inner.text ++ ">", closesOuter }
      else if k = "NULLABLE" ∧ clickhouse then
        skip
        return { text := ← wrapped G "Nullable" }
      else if k = "LOWCARDINALITY" ∧ clickhouse then
        skip
        return { text := ← wrapped G "LowCardinality" }
      else if k = "FIXEDSTRING" then
        skip
        return { text := "FixedString(" ++ (← parenthesized natural) ++ ")" }
      else
        let text ← name
        if ← symbol "(" then
          return {
            text := text ++ "(" ++ commas (← customParameters) ++ ")", shape := .custom }
        else return { text, shape := .custom }
  | _ => expected "a data type name"

/-- A data type with brackets behind it, each pair of which makes it an array. -/
def innerType : Parse DataType := do
  let base ← baseType G
  let brackets ← many do
    if ← symbol "[" then
      let size ←
        if ← dialectIn [.generic, .duckdb, .postgres] then attempt natural else pure none
      expectSymbol "]"
      return some ("[" ++ size.getD "" ++ "]")
    else return none
  if brackets.isEmpty then return base
  else return { base with text := base.text ++ String.join brackets, shape := .known }

/-- A data type. -/
def dataType : Parse DataType := do
  let t ← G.innerType
  if t.closesOuter then failAt ("unmatched > after parsing data type " ++ t.text) (← peekPlaced).place
  else return t

end Parse

end SqlJob.Sql
