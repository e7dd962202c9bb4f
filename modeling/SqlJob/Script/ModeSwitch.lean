import SqlJob.Script.Mode
import SqlJob.Text.Blank

/-!
# The batch switch

A script asks for batch mode with a statement `SET execution.runtime-mode = batch`. The recogniser
reads that form on the text alone: any case, any white space around the equals sign, and a single or
double quote allowed at each of the four places around key and value, each independently of the
others. A script's mode is batch exactly when one of its statements is such a switch.
-/

namespace SqlJob

open Text

namespace ModeSwitch

/-- A character is a letter up to case folding. Of the letters in the keyword only `S` folds
together with a character beyond ASCII, the long s. -/
def foldsTo (letter c : Char) : Bool :=
  c.toLower == letter || (letter == 's' && c == 'ſ')

/-- What follows a lower-case word that is spelled in any case at the start of the text. -/
def afterWord : List Char → List Char → Option (List Char)
  | [], s => some s
  | _ :: _, [] => none
  | w :: word, c :: s => if foldsTo w c then afterWord word s else none

/-- What follows white space of at least one character. -/
def afterSpace : List Char → Option (List Char)
  | [] => none
  | c :: s => if isBlank c then some (trimStart s) else none

/-- The text without one quote that it may start with. -/
def dropQuote : List Char → List Char
  | [] => []
  | c :: s => if c == '\'' || c == '"' then s else c :: s

/-- What follows an equals sign. -/
def afterEquals : List Char → Option (List Char)
  | '=' :: s => some s
  | _ => none

/-- Whether a text, trimmed, is the batch switch. -/
def isBatch (s : List Char) : Bool :=
  let matched := do
    let s ← afterWord "set".toList (trim s)
    let s ← afterSpace s
    let s ← afterWord "execution.runtime-mode".toList (dropQuote s)
    let s ← afterEquals (trimStart (dropQuote s))
    let s ← afterWord "batch".toList (dropQuote (trimStart s))
    pure (dropQuote s)
  matched == some []

end ModeSwitch

/-- Whether a statement is the batch switch. -/
def isBatchSwitch (statement : String) : Bool :=
  ModeSwitch.isBatch statement.toList

/-- The mode of a list of statements: batch as soon as one of them is the batch switch. -/
def inferMode (statements : List String) : Mode :=
  if statements.any isBatchSwitch then .batch else .streaming

end SqlJob
