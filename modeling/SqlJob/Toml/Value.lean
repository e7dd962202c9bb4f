/-!
# TOML values

A document is a table of values by name. While it is read, a table remembers how it came about,
for this decides what may still be added to it: a table that a header named is complete after its
section, one that only leads to another may still get a section of its own, one that dotted keys
made grows by dotted keys only, and one that is written as a value never grows.
-/

namespace SqlJob

/-- How a table came about. -/
inductive TableOrigin where
  /-- It is written as a value. -/
  | literal
  /-- A header names it. -/
  | header
  /-- It stands on the way to a table that a header names. -/
  | implied
  /-- Dotted keys lead through it. -/
  | dotted
  deriving DecidableEq, Repr

/-- A value of a document. -/
inductive Toml where
  | string (text : String)
  | integer (n : Int)
  | float (x : Float)
  | boolean (b : Bool)
  /-- A date, a time or both in their normal form. -/
  | moment (text : String)
  | array (items : List Toml)
  | table (origin : TableOrigin) (entries : List (String × Toml))
  /-- The tables of the headers in double brackets with one name, the latest first. -/
  | tables (latest : List (String × Toml)) (earlier : List (List (String × Toml)))

namespace Toml

/-- Puts a value in the place of the one with the same name. -/
def replace (name : String) (v : Toml) (t : List (String × Toml)) : List (String × Toml) :=
  t.map fun e => if e.1 = name then (name, v) else e

/-- Adds a value under a dotted key. Where `isOpen` is false, the table gets nothing of its own. -/
def add (isOpen : Bool) (t : List (String × Toml)) : List String → Toml →
    Option (List (String × Toml))
  | [], _ => none
  | [name], v =>
    if isOpen && (t.lookup name).isNone then some (t ++ [(name, v)]) else none
  | name :: path, v =>
    match t.lookup name with
    | none => (add true [] path v).map fun sub => t ++ [(name, table .dotted sub)]
    | some (table .dotted sub) =>
      (add true sub path v).map fun sub => replace name (table .dotted sub) t
    | some (table .implied sub) =>
      (add false sub path v).map fun sub => replace name (table .implied sub) t
    | some (tables latest earlier) =>
      (add false latest path v).map fun latest => replace name (tables latest earlier) t
    | some _ => none

/-- Adds values under dotted keys. -/
def addAll (t : List (String × Toml)) : List (List String × Toml) → Option (List (String × Toml))
  | [] => some t
  | (path, v) :: rest => (add true t path v).bind fun t => addAll t rest

/-- A part of a document that a header starts. -/
structure Section where
  /-- Whether the header stands in double brackets. -/
  isRepeated : Bool
  path : List String
  values : List (List String × Toml)

/-- The table of a section with nothing in it, which must be new or only be implied. -/
def openTable (t : List (String × Toml)) (name : String) (values : List (List String × Toml)) :
    Option (List (String × Toml)) :=
  match t.lookup name with
  | none => (addAll [] values).map fun sub => t ++ [(name, table .header sub)]
  | some (table .implied sub) =>
    (addAll sub values).map fun sub => replace name (table .header sub) t
  | some _ => none

/-- One more table of the sections with the same repeated header. -/
def openRepeated (t : List (String × Toml)) (name : String) (values : List (List String × Toml)) :
    Option (List (String × Toml)) :=
  match t.lookup name with
  | none => (addAll [] values).map fun sub => t ++ [(name, tables sub [])]
  | some (tables latest earlier) =>
    (addAll [] values).map fun sub => replace name (tables sub (latest :: earlier)) t
  | some _ => none

/-- Adds a section whose header is a path. -/
def addSection (isRepeated : Bool) (values : List (List String × Toml))
    (t : List (String × Toml)) : List String → Option (List (String × Toml))
  | [] => none
  | [name] => if isRepeated then openRepeated t name values else openTable t name values
  | name :: path =>
    match t.lookup name with
    | none =>
      (addSection isRepeated values [] path).map fun sub => t ++ [(name, table .implied sub)]
    | some (table .literal _) => none
    | some (table origin sub) =>
      (addSection isRepeated values sub path).map fun sub => replace name (table origin sub) t
    | some (tables latest earlier) =>
      (addSection isRepeated values latest path).map fun latest =>
        replace name (tables latest earlier) t
    | some _ => none

/-- The table of a document: what stands in front of the first header, and the sections. -/
def document (front : List (List String × Toml)) (sections : List Section) :
    Option (List (String × Toml)) :=
  sections.foldl (fun t s => t.bind fun t => addSection s.isRepeated s.values t s.path)
    (addAll [] front)

/-- The name under which a moment holds its text where a table is asked for. -/
def momentName : String := "$__toml_private_datetime"

/-- The entries of a value that is a table. A moment counts as one. -/
def entries? : Toml → Option (List (String × Toml))
  | table _ entries => some entries
  | moment text => some [(momentName, string text)]
  | _ => none

/-- The items of a value that is an array. -/
def items? : Toml → Option (List Toml)
  | array items => some items
  | tables latest earlier => some ((latest :: earlier).reverse.map (table .header))
  | _ => none

/-- The text of a value that is a string. -/
def string? : Toml → Option String
  | string text => some text
  | _ => none

end Toml

end SqlJob
