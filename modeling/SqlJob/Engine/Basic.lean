import SqlJob.Engine.Result
import SqlJob.Failure
import SqlJob.Operation
import SqlJob.Session.Options

/-!
# The engine boundary

A script is run against an engine: something with a state that can parse a statement, execute an
operation at once, submit inserts as one unit, and set a session option. Each of these may change
the state, also when it fails. `Engine.recorded` keeps a log of the calls beside the state, so that
what crosses the boundary can be observed for every engine in the same way.
-/

namespace SqlJob

/-- An engine with states of type `σ`. -/
structure Engine (σ : Type) where
  /-- Turns a statement into an operation, consulting the current options. -/
  parse : σ → String → σ × Except Failure Operation
  /-- Executes one operation at once. -/
  executeImmediate : σ → Operation → σ × Except Failure ExecutionResult
  /-- Submits inserts as one unit, in order. -/
  executeCombined : σ → List Insert → σ × Except Failure ExecutionResult
  /-- Sets a session option. -/
  setOption : σ → String → String → σ
  /-- The current session options. -/
  options : σ → Options

/-- One call across the engine boundary. -/
inductive Call where
  | parse (statement : String)
  | execute (operation : Operation)
  | combined (inserts : List Insert)
  | setOption (key value : String)
  deriving DecidableEq, Repr

/-- A state together with the calls made so far, the latest first. -/
structure Recorded (σ : Type) where
  state : σ
  reversedCalls : List Call := []

namespace Recorded

/-- The calls made so far, in order. -/
def calls {σ : Type} (r : Recorded σ) : List Call :=
  r.reversedCalls.reverse

/-- Adds a call and moves to the state after it. -/
def add {σ : Type} (r : Recorded σ) (call : Call) (next : σ) : Recorded σ :=
  ⟨next, call :: r.reversedCalls⟩

end Recorded

/-- The engine that does the same and keeps a log of the calls. -/
def Engine.recorded {σ : Type} (E : Engine σ) : Engine (Recorded σ) where
  parse r statement :=
    let (s, answer) := E.parse r.state statement
    (r.add (.parse statement) s, answer)
  executeImmediate r operation :=
    let (s, answer) := E.executeImmediate r.state operation
    (r.add (.execute operation) s, answer)
  executeCombined r inserts :=
    let (s, answer) := E.executeCombined r.state inserts
    (r.add (.combined inserts) s, answer)
  setOption r key value := r.add (.setOption key value) (E.setOption r.state key value)
  options r := E.options r.state

end SqlJob
