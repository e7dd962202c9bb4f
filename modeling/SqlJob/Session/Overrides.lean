import SqlJob.Failure
import SqlJob.Session.Options
import SqlJob.Text.Blank
import SqlJob.Text.Lines

/-!
# Overrides from the command line

An override is written `KEY=VALUE`: the key is the trimmed text before the first equals sign and
must not be empty, the value is the trimmed text after it. A list of overrides is applied in order
up to the first bad one; those before it stay applied.
-/

namespace SqlJob

/-- What is wrong with an override. -/
inductive OverrideError where
  /-- There is no equals sign. -/
  | noEquals (entry : String)
  /-- Nothing but white space stands before the equals sign. -/
  | emptyKey (entry : String)
  deriving DecidableEq, Repr

/-- The error in words. -/
def OverrideError.message : OverrideError → String
  | .noEquals entry => "Invalid --set '" ++ entry ++ "'. Expected KEY=VALUE"
  | .emptyKey entry => "Invalid --set '" ++ entry ++ "'. Key must not be empty"

/-- An error of an override is one of the configuration. -/
def OverrideError.toFailure (e : OverrideError) : Failure :=
  ⟨.config, e.message⟩

open Text

/-- Reads one override. -/
def readOverride (entry : String) : Except OverrideError (String × String) :=
  match cutAt '=' entry.toList with
  | none => .error (.noEquals entry)
  | some (key, value) =>
    if trim key = [] then .error (.emptyKey entry)
    else .ok (.ofList (trim key), .ofList (trim value))

/-- Applies overrides in order up to the first bad one, and says which one that is, if any. -/
def Options.applyOverrides (o : Options) : List String → Options × Option OverrideError
  | [] => (o, none)
  | entry :: rest =>
    match readOverride entry with
    | .error e => (o, some e)
    | .ok (key, value) => (o.set key value).applyOverrides rest

end SqlJob
