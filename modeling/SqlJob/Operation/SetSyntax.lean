import SqlJob.Operation
import SqlJob.Script.ModeSwitch
import SqlJob.Text.Lines

/-!
# Reading SET

Session options have names that are no SQL identifiers, so `SET` is recognised on the text, before
any SQL is parsed. A text is a `SET` command when it is the word `SET` in any case, alone or
followed by white space. What follows the white space is cut at its first equals sign into key and
value; each part is trimmed, loses one layer of matching quotes, is trimmed again, and is absent
when nothing is left.
-/

namespace SqlJob

open Text

namespace SetSyntax

/-- Without one layer of the quote character `q` around it, if there is one. -/
def dropLayer (q : Char) (s : List Char) : Option (List Char) :=
  match s with
  | c :: rest => if c = q ∧ rest.getLast? = some q then some rest.dropLast else none
  | [] => none

/-- Trimmed, without one layer of matching single or double quotes, and trimmed again. -/
def unquote (s : List Char) : List Char :=
  let s := trim s
  match dropLayer '\'' s with
  | some inner => trim inner
  | none =>
    match dropLayer '"' s with
    | some inner => trim inner
    | none => s

/-- A part of the command: absent when nothing is left of it. -/
def part (s : List Char) : Option String :=
  let inner := unquote s
  if inner = [] then none else some (.ofList inner)

/-- What follows the word `SET` and white space in a trimmed text; nothing follows the bare word. -/
def rest? (s : List Char) : Option (List Char) :=
  match ModeSwitch.afterWord "set".toList s with
  | some [] => some []
  | some s => ModeSwitch.afterSpace s
  | none => none

end SetSyntax

/-- Reads a trimmed text as a `SET` command, if it is one. -/
def SetCommand.read? (sql : String) : Option SetCommand :=
  match SetSyntax.rest? sql.toList with
  | none => none
  | some rest =>
    match cutAt '=' rest with
    | some (key, value) => some ⟨sql, SetSyntax.part key, SetSyntax.part value⟩
    | none => some ⟨sql, SetSyntax.part rest, none⟩

end SqlJob
