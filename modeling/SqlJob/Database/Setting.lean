import SqlJob.Database.Change

/-!
# Settings and descriptions

What is asked for by name rather than by a query: numbers that the user may keep in a database, how
it works, and what its tables look like. A name that means nothing is answered with nothing.
-/

namespace SqlJob.Database

/-- Columns and rows that a statement gives. -/
structure Answer where
  columns : List ScopeColumn := []
  rows : List (List Cell) := []

namespace Answer

/-- Rows of columns of which only the names are known. -/
def ofRows (names : List String) (rows : List (List Cell)) : Answer :=
  { columns := names.map Resolve.plain, rows }

/-- A single field. -/
def ofCell (name : String) (c : Cell) : Answer := ofRows [name] [[c]]

end Answer

namespace Setting

/-- A truth value as a setting has it. -/
def truth (value : String) : Bool :=
  if ["on", "yes", "true"].contains (foldName value) then true
  else Cell.prefixInt value.toList != 0

/-- A 32-bit integer as a setting has it. -/
def integer (value : String) : Int :=
  let n := Cell.prefixInt value.toList
  if -2147483648 ≤ n ∧ n ≤ 2147483647 then n else 0

/-- The settings that are only looked at here, with the names of their columns. -/
def fixed : List (String × String × Cell) := [
  ("analysis_limit", "analysis_limit", .int 0),
  ("auto_vacuum", "auto_vacuum", .int 0),
  ("automatic_index", "automatic_index", .int 1),
  ("busy_timeout", "timeout", .int 5000),
  ("cache_size", "cache_size", .int (-2000)),
  ("cell_size_check", "cell_size_check", .int 0),
  ("checkpoint_fullfsync", "checkpoint_fullfsync", .int 0),
  ("count_changes", "count_changes", .int 0),
  ("defer_foreign_keys", "defer_foreign_keys", .int 0),
  ("empty_result_callbacks", "empty_result_callbacks", .int 0),
  ("encoding", "encoding", .text "UTF-8"),
  ("freelist_count", "freelist_count", .int 0),
  ("full_column_names", "full_column_names", .int 0),
  ("fullfsync", "fullfsync", .int 0),
  ("hard_heap_limit", "hard_heap_limit", .int 0),
  ("ignore_check_constraints", "ignore_check_constraints", .int 0),
  ("integrity_check", "integrity_check", .text "ok"),
  ("journal_mode", "journal_mode", .text "memory"),
  ("journal_size_limit", "journal_size_limit", .int (-1)),
  ("legacy_alter_table", "legacy_alter_table", .int 0),
  ("locking_mode", "locking_mode", .text "normal"),
  ("max_page_count", "max_page_count", .int 4294967294),
  ("page_size", "page_size", .int 4096),
  ("query_only", "query_only", .int 0),
  ("quick_check", "quick_check", .text "ok"),
  ("read_uncommitted", "read_uncommitted", .int 0),
  ("recursive_triggers", "recursive_triggers", .int 0),
  ("reverse_unordered_selects", "reverse_unordered_selects", .int 0),
  ("secure_delete", "secure_delete", .int 0),
  ("short_column_names", "short_column_names", .int 1),
  ("soft_heap_limit", "soft_heap_limit", .int 0),
  ("synchronous", "synchronous", .int 2),
  ("temp_store", "temp_store", .int 0),
  ("threads", "threads", .int 0),
  ("trusted_schema", "trusted_schema", .int 1),
  ("wal_autocheckpoint", "wal_autocheckpoint", .int 1000),
  ("writable_schema", "writable_schema", .int 0)]

/-- Settings that answer with their value also when it is set. -/
def answersWhenSet : List String := [
  "analysis_limit", "busy_timeout", "hard_heap_limit", "integrity_check", "journal_mode",
  "journal_size_limit", "locking_mode", "max_page_count", "quick_check", "secure_delete",
  "soft_heap_limit", "threads", "wal_autocheckpoint"]

/-- The position of a column in the primary key, from one on; zero if it is not in it. -/
def keyPosition (t : Table) (i : Nat) : Nat :=
  match t.primaryKey.findIdx? (· == i) with
  | some k => k + 1
  | none => 0

/-- The columns of a table. -/
def tableInfo (t : Table) : List (List Cell) :=
  t.columns.zipIdx.map fun (c, i) => [
    .int i, .text c.name, .text (c.type.getD ""), .ofBool c.notNull.isSome,
    match c.default with
    | some (_, text) => .text text
    | none => .null,
    .int (keyPosition t i)]

/-- The letter for the origin of an index. -/
def originLetter : IndexOrigin → String
  | .definition => "c"
  | .uniqueConstraint => "u"
  | .primaryKey => "pk"

/-- The indexes of a table, the latest first. -/
def indexList (t : Table) : List (List Cell) :=
  t.indexes.reverse.zipIdx.map fun (i, n) => [
    .int n, .text i.name, .ofBool i.unique, .text (originLetter i.origin),
    .ofBool i.condition.isSome]

/-- The keys of an index. -/
def indexInfo (t : Table) (i : Index) : List (List Cell) :=
  i.keys.zipIdx.map fun (k, n) => [
    .int n, .int ((k.column.map Int.ofNat).getD (-2)),
    match k.column.bind (t.columns[·]?) with
    | some c => .text c.name
    | none => .null]

/-- The word for what happens to referencing rows. -/
def actionWord : ReferenceAction → String
  | .none => "NO ACTION"
  | .restrict => "RESTRICT"
  | .setNull => "SET NULL"
  | .setDefault => "SET DEFAULT"
  | .cascade => "CASCADE"

/-- The references of a table, the latest first. -/
def referenceList (t : Table) : List (List Cell) :=
  t.references.reverse.zipIdx.flatMap fun ((own, r), id) =>
    own.zipIdx.map fun (c, n) => [
      .int id, .int n, .text r.table, .text (((t.columns[c]?).map (·.name)).getD ""),
      match r.columns[n]? with
      | some name => .text name
      | none => .null,
      .text (actionWord r.onUpdate), .text (actionWord r.onDelete), .text "NONE"]

/-- The names that tables and their parts are asked for by. -/
def describes : List String := ["table_info", "index_list", "index_info", "foreign_key_list"]

/-- The description of a part of a store. -/
def description (s : Store) (what name : String) : Answer :=
  match what with
  | "table_info" =>
    .ofRows ["cid", "name", "type", "notnull", "dflt_value", "pk"]
      (((s.table? name).map tableInfo).getD [])
  | "index_list" =>
    .ofRows ["seq", "name", "unique", "origin", "partial"] (((s.table? name).map indexList).getD [])
  | "index_info" =>
    .ofRows ["seqno", "cid", "name"]
      (((s.index? name).map fun (t, i) => indexInfo t i).getD [])
  | _ =>
    .ofRows ["id", "seq", "table", "from", "to", "on_update", "on_delete", "match"]
      (((s.table? name).map referenceList).getD [])

end Setting

end SqlJob.Database
