import SqlJob.Engine.Result
import SqlJob.Json.Reader

/-!
# Results as JSON

How execution results are written as JSON and read back. Writing gives every structure as an object
with its fields in a fixed order, a value as an object with one member named for its kind, and null
as the bare word. Reading accepts more: fields in any order, unknown fields, a structure as an array
of its fields in order, and a missing job. A field that is missing otherwise, or is there twice, and
an integer that is not written as one or does not fit are refused.
-/

namespace SqlJob

namespace Json

/-- A natural number of 64 bits. -/
def ofUInt64 (n : UInt64) : Json :=
  number (.natural n)

/-- A signed integer of 64 bits. -/
def ofInt64 (n : Int64) : Json :=
  number (if n < 0 then .negative n else .natural n.toUInt64)

/-- The value of a string. -/
def string? : Json → Option String
  | string s => some s
  | _ => none

/-- The value of a natural number of 64 bits. -/
def uint64? : Json → Option UInt64
  | number (.natural n) => some n
  | _ => none

/-- The value of a signed integer of 64 bits. -/
def int64? : Json → Option Int64
  | number (.natural n) => if n.toNat ≤ 9223372036854775807 then some n.toInt64 else none
  | number (.negative n) => some n
  | _ => none

/-- The value of a number as a double. -/
def float? : Json → Option Float
  | number (.natural n) => some n.toFloat
  | number (.negative n) => some n.toFloat
  | number (.real x) => some x
  | _ => none

/-- The value of a byte. -/
def uint8? : Json → Option UInt8
  | number (.natural n) => if n.toNat < 256 then some n.toUInt8 else none
  | _ => none

/-- The items of an array, each read in the same way. -/
def items? {α : Type} (item : Json → Option α) : Json → Option (List α)
  | array items => items.mapM item
  | _ => none

/-- The member with a name, which may occur only once: `none` if it occurs more often, and
`some none` if it is missing. -/
def member? (name : String) (members : List (String × Json)) : Option (Option Json) :=
  match members.filter (·.1 == name) with
  | [] => some none
  | [(_, v)] => some (some v)
  | _ => none

/-- The fields of a structure in order, read from an object by name or from an array by position;
the last `optional` ones may be missing. -/
def fields? (names : List String) (optional : Nat) : Json → Option (List (Option Json))
  | object members => names.mapM fun name => member? name members
  | array items =>
    if names.length - optional ≤ items.length ∧ items.length ≤ names.length then
      some (items.map some ++ List.replicate (names.length - items.length) none)
    else none
  | _ => none

/-- Reads one of several words, written as a string or as the name of a null member. -/
def word? {α : Type} (words : List (String × α)) : Json → Option α
  | string s => words.lookup s
  | object [(name, null)] => words.lookup name
  | _ => none

end Json

open Json

namespace Value

/-- A value as JSON. -/
def toJson : Value → Json
  | null => .string "Null"
  | int n => .object [("Int", ofInt64 n)]
  | float x => .object [("Float", .number (.real x))]
  | text s => .object [("String", .string s)]
  | bytes bs => .object [("Bytes", .array (bs.map fun b => ofUInt64 b.toUInt64))]

/-- Reads a value. -/
def ofJson? : Json → Option Value
  | .string s => if s = "Null" then some null else none
  | .object [(kind, v)] =>
    if kind = "Null" then
      match v with
      | .null => some null
      | _ => none
    else if kind = "Int" then v.int64?.map int
    else if kind = "Float" then v.float?.map float
    else if kind = "String" then v.string?.map text
    else if kind = "Bytes" then (items? uint8? v).map bytes
    else none
  | _ => none

end Value

namespace Column

/-- A column as JSON. -/
def toJson (c : Column) : Json :=
  .object [("name", .string c.name), ("data_type", .string c.dataType)]

/-- Reads a column. -/
def ofJson? (j : Json) : Option Column := do
  match ← fields? ["name", "data_type"] 0 j with
  | [some name, some dataType] => some ⟨← name.string?, ← dataType.string?⟩
  | _ => none

end Column

namespace Mode

/-- A mode as JSON: its option value. -/
def toJson (m : Mode) : Json :=
  .string m.optionValue

/-- Reads a mode, which must be spelled exactly. -/
def ofJson? : Json → Option Mode :=
  word? [("streaming", .streaming), ("batch", .batch)]

end Mode

namespace SinkWrite

/-- A sink as JSON. -/
def toJson (s : SinkWrite) : Json :=
  .object [("table", .string s.table), ("rows_affected", ofUInt64 s.rowsAffected)]

/-- Reads a sink. -/
def ofJson? (j : Json) : Option SinkWrite := do
  match ← fields? ["table", "rows_affected"] 0 j with
  | [some table, some rows] => some ⟨← table.string?, ← rows.uint64?⟩
  | _ => none

end SinkWrite

namespace JobSummary

/-- A job summary as JSON. -/
def toJson (job : JobSummary) : Json :=
  .object [("name", .string job.name), ("mode", job.mode.toJson),
    ("sinks", .array (job.sinks.map (·.toJson)))]

/-- Reads a job summary. -/
def ofJson? (j : Json) : Option JobSummary := do
  match ← fields? ["name", "mode", "sinks"] 0 j with
  | [some name, some mode, some sinks] =>
    some ⟨← name.string?, ← Mode.ofJson? mode, ← items? SinkWrite.ofJson? sinks⟩
  | _ => none

end JobSummary

namespace ExecutionResult

/-- A result as JSON; the job is left out when there is none. -/
def toJson (r : ExecutionResult) : Json :=
  .object ([("columns", .array (r.columns.map (·.toJson))),
    ("rows", .array (r.rows.map fun row => .array (row.map (·.toJson)))),
    ("rows_affected", ofUInt64 r.rowsAffected),
    ("execution_time", ofUInt64 r.millis)] ++
    match r.job with
    | some job => [("job", job.toJson)]
    | none => [])

/-- Reads the job of a result, which may be missing or null. -/
def jobOfJson? : Option Json → Option (Option JobSummary)
  | none => some none
  | some .null => some none
  | some j => (JobSummary.ofJson? j).map some

/-- Reads a result. -/
def ofJson? (j : Json) : Option ExecutionResult := do
  match ← fields? ["columns", "rows", "rows_affected", "execution_time", "job"] 1 j with
  | [some columns, some rows, some affected, some millis, job] =>
    some {
      columns := ← items? Column.ofJson? columns
      rows := ← items? (items? Value.ofJson?) rows
      rowsAffected := ← affected.uint64?
      millis := ← millis.uint64?
      job := ← jobOfJson? job }
  | _ => none

/-- Reads a result from a JSON text. -/
def read (s : String) : Option ExecutionResult := do
  ofJson? (← Json.read s)

end ExecutionResult

end SqlJob
