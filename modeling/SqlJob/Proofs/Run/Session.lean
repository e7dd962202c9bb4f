import SqlJob.Engine.Mock
import SqlJob.Proofs.Engine.Transaction
import SqlJob.Proofs.Operation.Setting
import SqlJob.Script.Splitter

/-!
# The options of a session during a run

`Engine.KeepsSession` says what a run relies on an engine for: its options change by assignments
alone, a statement is read as an assignment on its text, and a job reports the mode that the options
stand for when it is submitted. The mock engine and the engine of a database do so
(`MockEngine.keepsSession`, `ConnectedEngine.keepsSession`).

It follows that the options are at all times those of the start with the assignments of the
statements so far, each on top of those before it (`options_passages`). The mode of the job is read
from these options. So it is the mode of the run unless a statement assigns another one, and then it
is the one assigned last (`run_job_mode`). That there are jobs to speak of is clear for the mock
engine, which has one for every script with an insert that it can read (`MockEngine.exists_result`).

The mode of a script is another matter: it is batch as soon as a statement asks for it. A script
that asks for batch mode and then for streaming mode is a batch script, but its job is a streaming
job (`run_job_mode_ne`).
-/

namespace SqlJob

/-! ## Options with assignments on top -/

/-- The mode that the last assignment to the runtime-mode option stands for, if there is one. -/
def assignedMode? (statements : List String) : Option Mode :=
  ((statements.filterMap settingOf?).reverse.lookup runtimeModeKey).map Mode.ofOptionValue

/-- The mode of options with assignments on top is the one assigned last, or that of the options
below. -/
theorem Options.mode_extend (o : Options) (statements : List String) :
    (o.extend (statements.filterMap settingOf?)).mode =
      (assignedMode? statements).getD o.mode := by
  unfold mode assignedMode?
  rw [get?_extend]
  cases (statements.filterMap settingOf?).reverse.lookup runtimeModeKey <;> rfl

/-! ## Engines that keep a session -/

/-- The assignment that an operation is. -/
def Operation.assignment? : Operation → Option (String × String)
  | setOption c => c.assignment?
  | _ => none

/-- A reader that understands a statement finds the assignment that it makes. -/
theorem assignment?_of_read {r : StatementReader} {statement : String} {operation : Operation}
    (h : r.read statement = .ok operation) : operation.assignment? = settingOf? statement := by
  ext setting
  rw [← exists_read_eq_setOption_iff r, h]
  cases operation <;> simp [Operation.assignment?]

/-- A job that the result is of, and the mode it ran in. -/
def ExecutionResult.RanIn (result : ExecutionResult) (mode : Mode) : Prop :=
  ∃ job, result.job = some job ∧ job.mode = mode

/-- The options of an engine change by assignments alone, and its jobs report their mode. -/
structure Engine.KeepsSession {σ : Type} (E : Engine σ) : Prop where
  /-- To read a statement leaves the options as they are. -/
  options_parse : ∀ s statement, E.options (E.parse s statement).1 = E.options s
  /-- A statement that is understood makes the assignment that its text says. -/
  assignment?_parse : ∀ {s s' statement operation}, E.parse s statement = (s', .ok operation) →
    operation.assignment? = settingOf? statement
  /-- To execute an operation leaves the options as they are. -/
  options_executeImmediate : ∀ s operation,
    E.options (E.executeImmediate s operation).1 = E.options s
  /-- To submit inserts leaves the options as they are. -/
  options_executeCombined : ∀ s inserts, E.options (E.executeCombined s inserts).1 = E.options s
  /-- The result of inserts is of a job that ran in the mode of the options. -/
  ranIn_executeCombined : ∀ {s s' inserts result},
    E.executeCombined s inserts = (s', .ok result) → result.RanIn (E.options s).mode
  /-- An assignment sets the option. -/
  options_setOption : ∀ s key value,
    E.options (E.setOption s key value) = (E.options s).set key value

/-- The mock engine keeps its session. -/
theorem MockEngine.keepsSession : engine.KeepsSession where
  options_parse _ _ := rfl
  assignment?_parse h := assignment?_of_read (Prod.mk.inj h).2
  options_executeImmediate _ _ := rfl
  options_executeCombined _ _ := rfl
  ranIn_executeCombined {m m' inserts result} h := by
    obtain ⟨-, h⟩ := Prod.mk.inj h
    split at h
    · simp at h
    · obtain rfl : ExecutionResult.ofJob (m.jobSummary inserts) = result := by simpa using h
      exact ⟨_, rfl, rfl⟩
  options_setOption _ _ _ := rfl

namespace ConnectedEngine

variable {δ : Type} (B : Backend δ)

/-- What is done in the database leaves the options as they are. -/
theorem options_immediate_run {α : Type} (f : α → ExecutionResult) (e : ConnectedEngine δ)
    (g : δ → δ × Except BackendFailure α) : (immediate f (e.run g)).1.options = e.options := by
  unfold immediate run
  split_ifs
  · rfl
  · rcases g e.database with ⟨d, x | a⟩ <;> rfl

/-- The engine of a database keeps its session, whatever the database does. -/
theorem keepsSession : (engine B).KeepsSession where
  options_parse _ _ := rfl
  assignment?_parse {e e' statement operation} h := by
    obtain ⟨-, h⟩ := Prod.mk.inj h
    cases hr : e.activeReader with
    | error x => simp only [hr, Except.bind, reduceCtorEq] at h
    | ok r =>
      simp only [hr, Except.bind] at h
      exact assignment?_of_read h
  options_executeImmediate e operation := by
    change (executeImmediate B e operation).1.options = e.options
    cases operation with
    | setOption c => rfl
    | insert i => exact options_immediate_run _ e _
    | explain sql explained => exact options_immediate_run _ e _
    | createTable sql => exact options_immediate_run _ e _
    | other sql keyword =>
      simp only [executeImmediate]
      split_ifs
      · exact options_immediate_run _ e _
      · exact options_immediate_run _ e _
  options_executeCombined e inserts := options_executeCombined B e inserts
  ranIn_executeCombined {e e' inserts result} h := by
    change executeCombined B e inserts = (e', .ok result) at h
    unfold executeCombined at h
    split_ifs at h
    · simp at h
    · rcases hs : submit B e.database inserts with ⟨d, x | sinks⟩
      · simp [hs] at h
      · rw [hs] at h
        obtain rfl : ExecutionResult.ofJob (e.jobSummary inserts sinks) = result := by
          simpa using (Prod.mk.inj h).2
        exact ⟨_, rfl, rfl⟩
  options_setOption _ _ _ := rfl

end ConnectedEngine

/-! ## The options during a run -/

/-- The assignment of an exchange. -/
def Exchange.setting? : Exchange → Option (String × String)
  | setOption key value => some (key, value)
  | _ => none

section Runs

variable {σ : Type} {E : Engine σ} {s s' : σ} {xs : List Exchange}

/-- One exchange changes the options by its assignment. -/
theorem options_answers (hE : E.KeepsSession) {x : Exchange} (h : E.Answers s x s') :
    E.options s' = (E.options s).extend x.setting?.toList := by
  cases x with
  | parse statement answer =>
    simp only [Engine.Answers] at h
    have hkeep := hE.options_parse s statement
    rwa [h] at hkeep
  | execute operation answer =>
    simp only [Engine.Answers] at h
    have hkeep := hE.options_executeImmediate s operation
    rwa [h] at hkeep
  | combined inserts answer =>
    simp only [Engine.Answers] at h
    have hkeep := hE.options_executeCombined s inserts
    rwa [h] at hkeep
  | setOption key value =>
    obtain rfl : E.setOption s key value = s' := h
    exact hE.options_setOption s key value

/-- What is found in a list is what is found in its first element and what is found in the
others. -/
theorem filterMap_cons_toList {α β : Type} (f : α → Option β) (a : α) (as : List α) :
    (a :: as).filterMap f = (f a).toList ++ as.filterMap f := by
  rw [List.filterMap_cons]
  cases f a <;> rfl

/-- Exchanges change the options by their assignments, one after another. -/
theorem options_converses (hE : E.KeepsSession) (h : E.Converses s xs s') :
    E.options s' = (E.options s).extend (xs.filterMap Exchange.setting?) := by
  induction h with
  | nil s => rfl
  | @cons s s₁ s₂ x xs hx hxs ih =>
    rw [ih, options_answers hE hx, filterMap_cons_toList, Options.extend_append]

/-- A statement that a run passes is read first, and the assignment that is exchanged for it is that
of the operation that it was read as. -/
theorem Passes.exists_operation {statement : String} {new : List Insert}
    (h : Passes statement xs new) :
    ∃ operation rest, xs = .parse statement (.ok operation) :: rest ∧
      xs.filterMap Exchange.setting? = operation.assignment?.toList := by
  cases h with
  | insert i => exact ⟨.insert i, [], rfl, rfl⟩
  | @assignment c key value h =>
    refine ⟨.setOption c, [.setOption key value], rfl, ?_⟩
    rw [Operation.assignment?, h]
    rfl
  | @incomplete c h =>
    refine ⟨.setOption c, [], rfl, ?_⟩
    rw [Operation.assignment?, h]
    rfl
  | createTable sql result => exact ⟨.createTable sql, _, rfl, rfl⟩
  | other sql keyword result => exact ⟨.other sql keyword, _, rfl, rfl⟩

/-- A statement that a run passes is exchanged with the assignment that its text says. -/
theorem Passes.filterMap_setting? (hE : E.KeepsSession) {statement : String} {new : List Insert}
    (h : Passes statement xs new) (hxs : E.Converses s xs s') :
    xs.filterMap Exchange.setting? = (settingOf? statement).toList := by
  obtain ⟨operation, rest, rfl, hsetting⟩ := h.exists_operation
  obtain ⟨s₁, hparse, -⟩ := converses_cons_iff.mp hxs
  rw [hsetting, hE.assignment?_parse hparse]

/-- The statements that a run passes are exchanged with the assignments that their texts say. -/
theorem passages_settings (hE : E.KeepsSession) {passed : List Passage}
    (h : E.Converses s (passed.flatMap (·.exchanges)) s') :
    (passed.flatMap (·.exchanges)).filterMap Exchange.setting? =
      (passed.map (·.statement)).filterMap settingOf? := by
  induction passed generalizing s with
  | nil => rfl
  | cons p passed ih =>
    obtain ⟨s₁, hp, hpassed⟩ := converses_append_iff.mp h
    rw [List.flatMap_cons, List.filterMap_append, p.passes.filterMap_setting? hE hp, ih hpassed,
      List.map_cons, filterMap_cons_toList]

/-- After statements that a run passes the options have the assignments of their texts on top. -/
theorem options_passages (hE : E.KeepsSession) {passed : List Passage}
    (h : E.Converses s (passed.flatMap (·.exchanges)) s') :
    E.options s' = (E.options s).extend ((passed.map (·.statement)).filterMap settingOf?) := by
  rw [options_converses hE h, passages_settings hE h]

/-- The job of a run ran in the mode assigned last, or else in the mode of the run. -/
theorem Engine.KeepsSession.run_ranIn (hE : E.KeepsSession) {statements : List String}
    {mode : Mode} {result : ExecutionResult}
    (h : (E.run s statements mode).2 = .completed (some result)) :
    result.RanIn ((assignedMode? statements).getD mode) := by
  obtain ⟨passed, s₁, rfl, hpassed, hresult⟩ := exists_passages_of_completed h
  obtain ⟨s₂, hset, hpassed⟩ := converses_cons_iff.mp hpassed
  have hstart : (E.options s₂).mode = mode := by
    rw [← hset, hE.options_setOption, Options.mode_set, Mode.ofOptionValue_optionValue]
  have hranIn := hE.ranIn_executeCombined hresult
  rwa [options_passages hE hpassed, Options.mode_extend, hstart] at hranIn

end Runs

/-! ## Runs of the mock engine that complete -/

namespace MockEngine

/-- Without fail patterns nothing fails. -/
theorem failureFor?_eq_none {m : MockEngine} (hm : m.failPatterns = []) (sql : String) :
    m.failureFor? sql = none := by
  simp [failureFor?, hm]

/-- A mock engine without fail patterns goes on after a statement that it can read and that asks for
no plan. -/
theorem exists_step_eq_next {m : MockEngine} (hm : m.failPatterns = []) (pending : PendingInserts)
    {statement : String} {operation : Operation}
    (hread : StatementReader.default.read statement = .ok operation)
    (hplan : ∀ sql explained, operation ≠ .explain sql explained) :
    ∃ m' new, m'.failPatterns = [] ∧
      engine.step m pending statement = (m', .next ⟨pending.inserts ++ new⟩) ∧
      ∀ i, operation = .insert i → new = [i] := by
  have hexecute : ∀ o, engine.executeImmediate m o = (m, .ok (m.answer o)) := by
    intro o
    simp [engine, failureFor?_eq_none hm]
  have hparse : engine.parse m statement = (m, .ok operation) := by rw [← hread]; rfl
  rw [Engine.step, hparse]
  cases operation with
  | insert i => exact ⟨m, [i], hm, rfl, fun j hj => by rw [Operation.insert.inj hj]⟩
  | setOption c =>
    cases ha : c.assignment? with
    | none => exact ⟨m, [], hm, by simp [Engine.stepOperation, ha], by simp⟩
    | some setting =>
      have hset : (engine.setOption m setting.1 setting.2).failPatterns = [] := hm
      exact ⟨_, [], hset, by simp [Engine.stepOperation, ha], by simp⟩
  | explain sql explained => exact absurd rfl (hplan sql explained)
  | createTable sql =>
    exact ⟨m, [], hm, by simp [Engine.stepOperation, Engine.stepExecute, hexecute], by simp⟩
  | other sql keyword =>
    exact ⟨m, [], hm, by simp [Engine.stepOperation, Engine.stepExecute, hexecute], by simp⟩

/-- From any point on, a mock engine without fail patterns has a result for statements that it can
read, if an insert was put off or is among them and none asks for a plan. -/
theorem exists_result_runFrom {m : MockEngine} (hm : m.failPatterns = [])
    {pending : PendingInserts} {statements : List String}
    (hread : ∀ statement ∈ statements, ∃ operation,
      StatementReader.default.read statement = .ok operation ∧
        ∀ sql explained, operation ≠ .explain sql explained)
    (hinsert : pending.inserts ≠ [] ∨ ∃ statement ∈ statements, ∃ i,
      StatementReader.default.read statement = .ok (.insert i)) :
    ∃ result, (engine.runFrom m pending statements).2 = .completed (some result) := by
  induction statements generalizing m pending with
  | nil =>
    have hne : pending.inserts ≠ [] := by simpa using hinsert
    have hnone : pending.inserts.findSome? (fun i => m.failureFor? i.sql) = none := by
      simp [failureFor?_eq_none hm]
    exact ⟨.ofJob (m.jobSummary pending.inserts), by
      simp [Engine.runFrom, Engine.flush, PendingInserts.isEmpty, hne, engine, hnone]⟩
  | cons statement rest ih =>
    obtain ⟨⟨operation, hstatement, hplan⟩, hrest⟩ := List.forall_mem_cons.mp hread
    obtain ⟨m', new, hm', hstep, hnew⟩ := exists_step_eq_next hm pending hstatement hplan
    rw [Engine.runFrom, hstep]
    refine ih hm' hrest ?_
    rcases hinsert with hne | ⟨s, hs, i, hi⟩
    · exact .inl (by simp [hne])
    · rcases List.mem_cons.mp hs with rfl | hs
      · -- This is the insert, so it is among those that are put off now.
        rw [hstatement, Except.ok.injEq] at hi
        exact .inl (by simp [hnew i hi])
      · exact .inr ⟨s, hs, i, hi⟩

/-- A mock engine without fail patterns has a result for statements that it can read, if one of them
is an insert and none asks for a plan. -/
theorem exists_result {m : MockEngine} (hm : m.failPatterns = []) (statements : List String)
    (hread : ∀ statement ∈ statements, ∃ operation,
      StatementReader.default.read statement = .ok operation ∧
        ∀ sql explained, operation ≠ .explain sql explained)
    (hinsert : ∃ statement ∈ statements, ∃ i,
      StatementReader.default.read statement = .ok (.insert i)) (mode : Mode) :
    ∃ result, (engine.run m statements mode).2 = .completed (some result) :=
  exists_result_runFrom (m := engine.setOption m runtimeModeKey mode.optionValue) hm hread
    (.inr hinsert)

end MockEngine

/-! ## The mode of a script's job -/

/-- The job of a script that is run in its own mode ran in the mode that a statement of the script
assigned last, or in the mode of the script if none assigns one, on the mock engine and on a
database. -/
theorem run_job_mode (script : String) (session : SessionDefaults) (result : ExecutionResult) :
    let split := splitScript script
    let options := Options.forMode split.mode session
    let mode := (assignedMode? split.statements).getD split.mode
    (∀ m : MockEngine,
      (MockEngine.engine.run { m with options } split.statements split.mode).2 =
        .completed (some result) → result.RanIn mode) ∧
    ∀ {δ : Type} (B : Backend δ) (e : ConnectedEngine δ),
      ((ConnectedEngine.engine B).run { e with options } split.statements split.mode).2 =
        .completed (some result) → result.RanIn mode :=
  ⟨fun _ h => MockEngine.keepsSession.run_ranIn h,
    fun B _ h => (ConnectedEngine.keepsSession B).run_ranIn h⟩

/-- An insert as it is read. -/
theorem read_insert : StatementReader.default.read "INSERT INTO t SELECT 1" =
    .ok (.insert ⟨"INSERT INTO t SELECT 1", "t"⟩) := by
  decide +kernel

/-- The job of a script that is an insert is a streaming job. -/
theorem run_job_mode_insert :
    let split := splitScript "INSERT INTO t SELECT 1;\n"
    let options := Options.forMode split.mode {}
    ∃ result, (MockEngine.engine.run { options } split.statements split.mode).2 =
      .completed (some result) ∧ result.RanIn .streaming := by
  have hsplit : splitScript "INSERT INTO t SELECT 1;\n" =
      ⟨["INSERT INTO t SELECT 1"], .streaming⟩ := by decide
  have hassigned : assignedMode? ["INSERT INTO t SELECT 1"] = none := by decide
  have hmode := fun result => (run_job_mode "INSERT INTO t SELECT 1;\n" {} result).1 {}
  rw [hsplit] at hmode ⊢
  simp only [hassigned] at hmode
  obtain ⟨result, hresult⟩ := MockEngine.exists_result
    (m := { options := Options.forMode .streaming {} }) rfl ["INSERT INTO t SELECT 1"]
    (by simp [read_insert]) (by simp [read_insert]) .streaming
  exact ⟨result, hresult, hmode result hresult⟩

/-- A script that asks for batch mode and then for streaming mode is a batch script with a streaming
job. -/
theorem run_job_mode_ne :
    let split := splitScript ("SET execution.runtime-mode = batch;\n" ++
      "SET execution.runtime-mode = streaming;\nINSERT INTO t SELECT 1;\n")
    let options := Options.forMode split.mode {}
    split.mode = .batch ∧ ∃ result,
      (MockEngine.engine.run { options } split.statements split.mode).2 =
        .completed (some result) ∧ result.RanIn .streaming := by
  have hsplit : splitScript ("SET execution.runtime-mode = batch;\n" ++
      "SET execution.runtime-mode = streaming;\nINSERT INTO t SELECT 1;\n") =
      ⟨["SET execution.runtime-mode = batch", "SET execution.runtime-mode = streaming",
        "INSERT INTO t SELECT 1"], .batch⟩ := by decide +kernel
  have hassigned : assignedMode? ["SET execution.runtime-mode = batch",
      "SET execution.runtime-mode = streaming", "INSERT INTO t SELECT 1"] = some .streaming := by
    decide +kernel
  have hset : ∀ statement, (settingOf? statement).isSome → ∃ operation,
      StatementReader.default.read statement = .ok operation ∧
        ∀ sql explained, operation ≠ .explain sql explained := by
    intro statement hsome
    obtain ⟨setting, hsetting⟩ := Option.isSome_iff_exists.mp hsome
    obtain ⟨c, hc, -⟩ := (exists_read_eq_setOption_iff .default).mpr hsetting
    exact ⟨.setOption c, hc, nofun⟩
  obtain ⟨result, hresult⟩ := MockEngine.exists_result
    (m := { options := Options.forMode .batch {} }) rfl
    ["SET execution.runtime-mode = batch", "SET execution.runtime-mode = streaming",
      "INSERT INTO t SELECT 1"]
    (List.forall_mem_cons.mpr ⟨hset _ (by decide), List.forall_mem_cons.mpr ⟨hset _ (by decide),
      List.forall_mem_singleton.mpr ⟨_, read_insert, nofun⟩⟩⟩)
    ⟨_, by simp, _, read_insert⟩ .batch
  have hranIn := MockEngine.keepsSession.run_ranIn hresult
  rw [hassigned] at hranIn
  rw [hsplit]
  exact ⟨rfl, result, hresult, hranIn⟩

end SqlJob
