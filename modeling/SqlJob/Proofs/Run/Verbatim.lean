import SqlJob.Proofs.Operation.Reading
import SqlJob.Proofs.Run.Deferral
import SqlJob.Proofs.Run.Options
import SqlJob.Proofs.Script.Rejoining

/-!
# Statements reach the engine verbatim

A statement is trimmed before it is read, and the trimmed text is what is executed
(`StatementReader.sql_of_read`). The statements that a script is cut into are trimmed already and
not empty, so they are never refused as empty, and what is executed are the statements themselves,
character for character.

For a run this means that the texts in the log of its calls are statements of the script. Which ones
they are is a matter of the statements that the run comes to: those are read, in the order of the
script, and the ones among them that call for it are executed at once. `EndsAt` says how far a run
comes, what it submits and which statement it blames. Only a submission that fails is blamed on a
text that is no statement: on all inserts together.

The conversation of a run says so statement by statement: one that is passed, or that ends the run,
is read and then executed or put off as what it is read as (`Passes.follows`, `Ends.follows`). This
holds for every engine that reads statements by their texts alone
(`Engine.ReadsBy.runsVerbatim`). `reachVerbatim_splitScript` is about the statements of a script and
the mock engine.
-/

namespace SqlJob

open Text

/-! ## Reading -/

namespace StatementReader

variable {r : StatementReader} {statement : String} {o : Operation}

/-- The operation that a statement is read as, if it is one that is executed at once. -/
def immediate? (r : StatementReader) (statement : String) : Option Operation :=
  (r.read statement).toOption.bind Operation.immediate?

/-- Whether a statement is read as an operation that is executed at once. -/
def isImmediate (r : StatementReader) (statement : String) : Bool :=
  (r.immediate? statement).isSome

/-- What is executed at once for a statement that is understood is what it is read as. -/
theorem immediate?_of_read (h : r.read statement = .ok o) :
    r.immediate? statement = o.immediate? := by
  rw [immediate?, h]
  rfl

/-- What is put off for a statement that is understood is what it is read as. -/
theorem insert?_of_read (h : r.read statement = .ok o) : r.insert? statement = o.insert? := by
  rw [insert?, h]
  cases o <;> rfl

/-- Nothing is executed at once for a statement that is not understood. -/
theorem immediate?_of_read_error {e : Failure} (h : r.read statement = .error e) :
    r.immediate? statement = none := by
  rw [immediate?, h]
  rfl

/-- What is executed at once for a statement is what it is read as. -/
theorem read_of_immediate? (h : r.immediate? statement = some o) : r.read statement = .ok o := by
  cases hread : r.read statement with
  | error e => simp [immediate?_of_read_error hread] at h
  | ok operation =>
    rw [immediate?_of_read hread] at h
    cases operation <;> simp_all [Operation.immediate?]

end StatementReader

/-- Where each element gives at most something that the element can be told from, all that is given
tells which elements gave something. -/
theorem map_filterMap_eq_filter {α β : Type} {f : α → Option β} {g : β → α} {l : List α}
    (h : ∀ a ∈ l, ∀ b, f a = some b → g b = a) :
    (l.filterMap f).map g = l.filter fun a => (f a).isSome := by
  induction l with
  | nil => rfl
  | cons a l ih =>
    obtain ⟨ha, hl⟩ := List.forall_mem_cons.mp h
    cases hf : f a with
    | none => simp [hf, ih hl]
    | some b => simp [hf, ih hl, ha b hf]

/-! ## The calls of a run -/

namespace Call

/-- The statement that is read. -/
def statement? : Call → Option String
  | parse statement => some statement
  | _ => none

/-- The operation that is executed at once. -/
def operation? : Call → Option Operation
  | execute operation => some operation
  | _ => none

/-- The inserts that are submitted together. -/
def submission? : Call → Option (List Insert)
  | combined inserts => some inserts
  | _ => none

end Call

/-- In the calls of the exchanges the statements are read, in this order, and what is executed at
once is what these are read as. -/
structure Follows (r : StatementReader) (statements : List String) (xs : List Exchange) :
    Prop where
  read : (xs.map Exchange.call).filterMap Call.statement? = statements
  executed : (xs.map Exchange.call).filterMap Call.operation? = statements.filterMap r.immediate?

/-- The inserts that are submitted together in the calls of the exchanges. -/
def submittedIn (xs : List Exchange) : List (List Insert) :=
  (xs.map Exchange.call).filterMap Call.submission?

/-- In exchanges one after another, inserts are submitted one after another. -/
theorem submittedIn_append (xs ys : List Exchange) :
    submittedIn (xs ++ ys) = submittedIn xs ++ submittedIn ys := by
  rw [submittedIn, List.map_append, List.filterMap_append, submittedIn, submittedIn]

/-- How far a run of statements comes: the statements that it comes to, the texts that it submits
together, and the outcome. -/
inductive EndsAt (r : StatementReader) (statements : List String) :
    List String → List (List String) → Outcome → Prop
  /-- The run comes to all statements, and no insert is among them. -/
  | idle (h : statements.filter r.isInsert = []) :
      EndsAt r statements statements [] (.completed none)
  /-- The run comes to all statements, and submits those that are inserts. -/
  | submitted (h : statements.filter r.isInsert ≠ []) (result : ExecutionResult) :
      EndsAt r statements statements [statements.filter r.isInsert] (.completed (some result))
  /-- The run comes to all statements, and submits those that are inserts, which fails. -/
  | refused (h : statements.filter r.isInsert ≠ []) (e : Failure) :
      EndsAt r statements statements [statements.filter r.isInsert]
        (.aborted ⟨String.intercalate "\n" ((statements.filter r.isInsert).map (· ++ ";")), e⟩)
  /-- The run comes to a statement that asks for a plan. -/
  | explained (before : List String) (statement text : String) (rest : List String)
      (h : statements = before ++ statement :: rest) :
      EndsAt r statements (before ++ [statement]) [] (.explainRequested statement text)
  /-- The run comes to a statement that fails. -/
  | failed (before : List String) (statement : String) (e : Failure) (rest : List String)
      (h : statements = before ++ statement :: rest) :
      EndsAt r statements (before ++ [statement]) [] (.aborted ⟨statement, e⟩)

/-- The calls and the outcome of a run of statements show nothing but the statements themselves. -/
structure RunsVerbatim (r : StatementReader) (statements : List String) (calls : List Call)
    (outcome : Outcome) : Prop where
  /-- The operations that are executed at once are those that the statements are read as that the
  run comes to. -/
  operations : calls.filterMap Call.operation? =
    (calls.filterMap Call.statement?).filterMap r.immediate?
  /-- Their texts are these statements. -/
  texts : (calls.filterMap Call.operation?).map Operation.sql =
    (calls.filterMap Call.statement?).filter r.isImmediate
  /-- The run comes to the statements in their order, and submits the texts of the inserts. -/
  endsAt : EndsAt r statements (calls.filterMap Call.statement?)
    ((calls.filterMap Call.submission?).map (·.map Insert.sql)) outcome

namespace Follows

variable {r : StatementReader} {xs ys : List Exchange} {reached others : List String}

/-- Exchanges one after another read their statements one after another. -/
theorem append (h : Follows r reached xs) (h' : Follows r others ys) :
    Follows r (reached ++ others) (xs ++ ys) where
  read := by rw [List.map_append, List.filterMap_append, h.read, h'.read]
  executed := by
    rw [List.map_append, List.filterMap_append, h.executed, h'.executed, List.filterMap_append]

end Follows

section Runs

variable {σ : Type} {E : Engine σ} {r : StatementReader} {s s' : σ} {xs : List Exchange}
  {statement : String} {outcome : Outcome}

/-- An engine that reads statements by their texts is told what the reader makes of them. -/
theorem Engine.ReadsBy.read_eq (hE : E.ReadsBy r) {answer : Except Failure Operation}
    (h : E.Converses s (.parse statement answer :: xs) s') : r.read statement = answer := by
  obtain ⟨s₁, hparse, -⟩ := converses_cons_iff.mp h
  simp only [Engine.Answers] at hparse
  rw [hE] at hparse
  exact (Prod.mk.inj hparse).2

/-- A statement that a run passes is read, and what is executed at once or put off for it is what it
is read as. -/
theorem Passes.follows (hE : E.ReadsBy r) {new : List Insert} (h : Passes statement xs new)
    (hxs : E.Converses s xs s') :
    Follows r [statement] xs ∧ submittedIn xs = [] ∧ new = (r.insert? statement).toList := by
  obtain ⟨operation, hread, hstatement, hoperation, hsubmitted, hnew⟩ :
      ∃ operation, r.read statement = .ok operation ∧
        (xs.map Exchange.call).filterMap Call.statement? = [statement] ∧
        (xs.map Exchange.call).filterMap Call.operation? = operation.immediate?.toList ∧
        submittedIn xs = [] ∧ new = operation.insert?.toList := by
    cases h <;> exact ⟨_, hE.read_eq hxs, rfl, rfl, rfl, rfl⟩
  refine ⟨⟨hstatement, ?_⟩, hsubmitted, ?_⟩
  · rw [hoperation, filterMap_cons_toList, StatementReader.immediate?_of_read hread]
    exact (List.append_nil _).symm
  · rw [hnew, StatementReader.insert?_of_read hread]

/-- The statements that a run passes are read, and what is executed at once or put off for them is
what they are read as. -/
theorem passages_follow (hE : E.ReadsBy r) {passed : List Passage}
    (hxs : E.Converses s (passed.flatMap (·.exchanges)) s') :
    Follows r (passed.map (·.statement)) (passed.flatMap (·.exchanges)) ∧
      submittedIn (passed.flatMap (·.exchanges)) = [] ∧
      passed.flatMap (·.inserts) = (passed.map (·.statement)).filterMap r.insert? := by
  induction passed generalizing s with
  | nil => exact ⟨⟨rfl, rfl⟩, rfl, rfl⟩
  | cons p passed ih =>
    rw [List.flatMap_cons] at hxs
    obtain ⟨s₁, hp, hpassed⟩ := converses_append_iff.mp hxs
    obtain ⟨hread, hnone, hnew⟩ := p.passes.follows hE hp
    obtain ⟨hreads, hnones, hnews⟩ := ih hpassed
    refine ⟨?_, ?_, ?_⟩
    · exact hread.append hreads
    · rw [List.flatMap_cons, submittedIn_append, hnone, hnones, List.append_nil]
    · rw [List.flatMap_cons, hnew, hnews, List.map_cons, filterMap_cons_toList]

/-- The statement that ends a run is read, and what is executed at once for it is what it is read
as. -/
theorem Ends.follows (hE : E.ReadsBy r) (h : Ends statement xs outcome)
    (hxs : E.Converses s xs s') : Follows r [statement] xs ∧ submittedIn xs = [] := by
  cases h with
  | unread e =>
    have hnone := StatementReader.immediate?_of_read_error (hE.read_eq hxs)
    exact ⟨⟨rfl, by rw [filterMap_cons_toList, hnone]; rfl⟩, rfl⟩
  | @failed operation himmediate e =>
    have hsome := StatementReader.immediate?_of_read (hE.read_eq hxs)
    refine ⟨⟨rfl, ?_⟩, rfl⟩
    rw [filterMap_cons_toList _ statement, hsome]
    cases operation with
    | insert i => exact himmediate.elim
    | setOption c => exact himmediate.elim
    | _ => rfl
  | _ =>
    have hsome := StatementReader.immediate?_of_read (hE.read_eq hxs)
    exact ⟨⟨rfl, by rw [filterMap_cons_toList _ statement, hsome]; rfl⟩, rfl⟩

/-- No statement is read when the inserts are submitted, and nothing is executed at once. -/
theorem Flushes.follows {inserts : List Insert} (h : Flushes inserts xs outcome) :
    Follows r [] xs := by
  cases h <;> exact ⟨rfl, rfl⟩

/-- The operations that statements are read as have the statements as their texts. -/
def StatementReader.Keeps (r : StatementReader) (statements : List String) : Prop :=
  ∀ statement ∈ statements, ∀ o, r.read statement = .ok o → o.sql = statement

/-- The texts of what is executed at once for statements are those of the statements that call for
it. -/
theorem StatementReader.Keeps.map_immediate? {statements : List String} (h : r.Keeps statements) :
    (statements.filterMap r.immediate?).map Operation.sql = statements.filter r.isImmediate :=
  map_filterMap_eq_filter fun statement hs o ho =>
    h statement hs o (StatementReader.read_of_immediate? ho)

/-- The texts of the inserts among statements are those statements. -/
theorem StatementReader.Keeps.map_insert? {statements : List String} (h : r.Keeps statements) :
    (statements.filterMap r.insert?).map Insert.sql = statements.filter r.isInsert :=
  map_filterMap_eq_filter fun statement hs i hi =>
    h statement hs (.insert i) (StatementReader.insert?_eq_some_iff.mp hi)

/-- Exchanges that follow statements, and end as a run of them does, show nothing but the
statements. -/
theorem Follows.runsVerbatim {statements reached : List String} (h : Follows r reached xs)
    (hkeeps : r.Keeps reached)
    (hends : EndsAt r statements reached ((submittedIn xs).map (·.map Insert.sql)) outcome) :
    RunsVerbatim r statements (xs.map Exchange.call) outcome where
  operations := by rw [h.executed, h.read]
  texts := by rw [h.executed, h.read, hkeeps.map_immediate?]
  endsAt := by rwa [h.read]

/-- A submission of the inserts of all statements ends a run of them. -/
theorem Flushes.endsAt {statements : List String} (hkeeps : r.Keeps statements)
    (h : Flushes (statements.filterMap r.insert?) xs outcome) :
    EndsAt r statements statements ((submittedIn xs).map (·.map Insert.sql)) outcome := by
  have htexts := hkeeps.map_insert?
  have hnil : statements.filterMap r.insert? = [] ↔ statements.filter r.isInsert = [] := by
    rw [← htexts, List.map_eq_nil_iff]
  cases h with
  | nothing h => exact .idle (hnil.mp h)
  | submitted h result =>
    have hends := EndsAt.submitted (fun hempty => h (hnil.mpr hempty)) result
    rwa [← htexts] at hends
  | refused h e =>
    have hends := EndsAt.refused (fun hempty => h (hnil.mpr hempty)) e
    rw [← htexts, List.map_map] at hends
    exact hends

/-- The course of a run shows nothing but its statements, if these are the texts of what they are
read as. -/
theorem Course.runsVerbatim (hE : E.ReadsBy r) {statements : List String}
    (hkeeps : r.Keeps statements) (h : Course [] statements xs outcome)
    (hxs : E.Converses s xs s') : RunsVerbatim r statements (xs.map Exchange.call) outcome := by
  cases h with
  | @flushed passed last _ h =>
    obtain ⟨s₁, hpassed, -⟩ := converses_append_iff.mp hxs
    obtain ⟨hreads, hnone, hinserts⟩ := passages_follow hE hpassed
    have hfollows := hreads.append (h.follows (r := r))
    rw [List.append_nil] at hfollows
    refine hfollows.runsVerbatim hkeeps ?_
    rw [List.nil_append, hinserts] at h
    rw [submittedIn_append, hnone, List.nil_append]
    exact h.endsAt hkeeps
  | @ended passed statement last _ h rest =>
    obtain ⟨s₁, hpassed, hlast⟩ := converses_append_iff.mp hxs
    obtain ⟨hreads, hnone, -⟩ := passages_follow hE hpassed
    obtain ⟨hread, hnone'⟩ := h.follows hE hlast
    have hreached : r.Keeps (passed.map (·.statement) ++ [statement]) := by
      intro st hst
      refine hkeeps st ?_
      simp only [List.mem_append, List.mem_cons, List.not_mem_nil, or_false] at hst ⊢
      exact hst.imp_right .inl
    refine (hreads.append hread).runsVerbatim hreached ?_
    rw [submittedIn_append, hnone, hnone', List.append_nil]
    rcases (ends_iff {}).mp h with ⟨text, rfl, -⟩ | ⟨e, rfl, -⟩
    · exact .explained _ statement text rest rfl
    · exact .failed _ statement e rest rfl

/-- A run of an engine that reads statements by their texts shows nothing but the statements, if
these are the texts of what they are read as. -/
theorem Engine.ReadsBy.runsVerbatim (hE : E.ReadsBy r) {statements : List String}
    (hkeeps : r.Keeps statements) (s : σ) (mode : Mode) :
    RunsVerbatim r statements (E.recorded.run ⟨s, []⟩ statements mode).1.calls
      (E.run s statements mode).2 := by
  rcases hrun : E.run s statements mode with ⟨s', outcome⟩
  obtain ⟨xs, hcalls, hxs, ys, rfl, hcourse⟩ :=
    (run_calls_iff E s s' statements mode _ outcome).mp ⟨hrun, rfl⟩
  obtain ⟨s₁, -, hys⟩ := converses_cons_iff.mp hxs
  obtain ⟨hoperations, htexts, hends⟩ := hcourse.runsVerbatim hE hkeeps hys
  rw [← hcalls]
  -- The first call sets the mode of the run, and shows no statement.
  exact ⟨hoperations, htexts, hends⟩

end Runs

/-- The statement that a run is aborted with is one of its statements, unless inserts were submitted
before. -/
theorem EndsAt.mem_of_aborted {r : StatementReader} {statements reached : List String}
    {f : StatementFailure} (h : EndsAt r statements reached [] (.aborted f)) :
    reached.getLast? = some f.statement ∧ f.statement ∈ statements := by
  cases h with
  | failed before statement e rest h => simp [h]

/-! ## The statements of a script -/

/-- The statements of a script reach an engine as they are. -/
structure ReachVerbatim (script : String) : Prop where
  /-- Trimming leaves each of them as it is. -/
  trimmed_eq : ∀ statement ∈ (splitScript script).statements, trimmed statement = statement
  /-- None is refused as empty, in whatever dialect. -/
  not_refused : ∀ statement ∈ (splitScript script).statements, ∀ r : StatementReader,
    r.read statement ≠ .error ReadError.empty.toFailure
  /-- What a statement is read as, in whatever dialect, has the statement as its text. -/
  sql_eq : ∀ r : StatementReader, r.Keeps (splitScript script).statements
  /-- The calls of a run on the mock engine show nothing but the statements, in their order. -/
  run : ∀ (m : MockEngine) (mode : Mode),
    RunsVerbatim .default (splitScript script).statements
      (MockEngine.engine.recorded.run ⟨m, []⟩ (splitScript script).statements mode).1.calls
      (MockEngine.engine.run m (splitScript script).statements mode).2
  /-- If such a run is aborted before inserts are submitted, then with one of the statements. -/
  aborted : ∀ (m : MockEngine) (mode : Mode) (f : StatementFailure),
    (MockEngine.engine.run m (splitScript script).statements mode).2 = .aborted f →
    (MockEngine.engine.recorded.run ⟨m, []⟩ (splitScript script).statements
      mode).1.calls.filterMap Call.submission? = [] →
    f.statement ∈ (splitScript script).statements

/-- The statements that a script is cut into are trimmed and not empty, so they are what is executed
and what a failure is blamed on. -/
theorem reachVerbatim_splitScript (script : String) : ReachVerbatim script := by
  have hkeeps : ∀ r : StatementReader, r.Keeps (splitScript script).statements := by
    intro r statement hmem o hread
    rw [StatementReader.sql_of_read hread, trimmed_of_mem_splitScript hmem]
  have hrun := fun m mode => MockEngine.readsBy.runsVerbatim (hkeeps .default) m mode
  refine ⟨fun _ hmem => trimmed_of_mem_splitScript hmem, ?_, hkeeps, hrun, ?_⟩
  · intro statement hmem r hread
    have hempty := StatementReader.trimmed_eq_empty_of_read hread
    rw [trimmed_of_mem_splitScript hmem] at hempty
    exact ne_empty_of_mem_splitScript hmem hempty
  · intro m mode f haborted hnone
    have hends := (hrun m mode).endsAt
    rw [haborted, hnone] at hends
    exact hends.mem_of_aborted.2

end SqlJob
