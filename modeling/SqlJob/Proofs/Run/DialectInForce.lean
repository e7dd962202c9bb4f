import SqlJob.Proofs.Run.Options

/-!
# The dialect that a run reads in

A session may name the dialect of its statements, and a statement of the script may name another one
for those behind it. `Dialect.inForce?` says which dialect a name calls for: a name that stands for
the default calls for the dialect that the engine was made with, and an unknown name for none.

A statement is read in the dialect of the name that was given last, at the start or by a statement
before it (`run_reads_in_force`). When that name is unknown the statement is not even looked at: the
run ends there, also if the statement would have given another name. But to submit the inserts takes
no dialect. A run whose last statement gives an unknown name ends like one in which this name is
known.

An exchange with the engine of a database changes its database and its options and nothing else
(`ConnectedEngine.exists_eq_of_answers`), so the dialect it was made with stays, and what a
statement is read as depends on the options alone that were seen at its reading
(`answer_of_reading`).
-/

namespace SqlJob

/-! ## Names of dialects -/

/-- The dialect that a session calls for, if the engine was made with the dialect `own`: this one
without a name or under the name `default` in any case, and otherwise the one with the name, trimmed
and in lower case. -/
def Dialect.inForce? (own : Dialect) : Option String → Option Dialect
  | none => some own
  | some name =>
    if name.map Char.toLower = "default" then some own else ofName? (normalName name)

/-- The failure to read anything under a name that is unknown. -/
def unknownDialect (name : String) : Failure :=
  ⟨.parse, "Unknown SQL dialect '" ++ name ++ "' in " ++ sqlDialectKey⟩

/-- What a statement is read as in a session that gives a name, or gives none. -/
def Dialect.answer (own : Dialect) (name? : Option String) (statement : String) :
    Except Failure Operation :=
  match own.inForce? name? with
  | some d => (StatementReader.mk d).read statement
  | none => .error (unknownDialect (name?.getD ""))

namespace Dialect

variable {own : Dialect} {name? : Option String}

/-- Under an unknown name no statement is read. -/
theorem answer_of_unknown {name : String} (h : own.inForce? (some name) = none)
    (statement : String) : own.answer (some name) statement = .error (unknownDialect name) := by
  simp only [answer, h, Option.getD_some]

/-- A statement is read only under a name that calls for a dialect. -/
theorem isSome_inForce?_of_answer {statement : String} {operation : Operation}
    (h : own.answer name? statement = .ok operation) : (own.inForce? name?).isSome := by
  unfold answer at h
  cases hd : own.inForce? name? with
  | none => simp [hd] at h
  | some d => rfl

end Dialect

/-- Names are trimmed and their case does not count, but the word `default` is taken as it is. -/
example : Dialect.hive.inForce? (some " MySQL\n") = some .mysql ∧
    Dialect.hive.inForce? (some "Default") = some .hive ∧
    Dialect.hive.inForce? (some "default ") = none := by
  decide +kernel

/-! ## What the engine of a database reads -/

namespace ConnectedEngine

variable {δ : Type} {B : Backend δ} {e e' : ConnectedEngine δ} {xs : List Exchange}

variable (B) in
/-- The engine reads a statement in the dialect that its options call for, and stays as it is. -/
theorem parse_eq (e : ConnectedEngine δ) (statement : String) :
    (engine B).parse e statement =
      (e, e.reader.dialect.answer (e.options.get? sqlDialectKey) statement) := by
  have hread : (e.activeReader.bind fun r => r.read statement) =
      e.reader.dialect.answer (e.options.get? sqlDialectKey) statement := by
    unfold activeReader Dialect.answer Dialect.inForce?
    cases e.options.get? sqlDialectKey with
    | none => rfl
    | some name =>
      by_cases hdefault : name.map Char.toLower = "default"
      · simp only [hdefault, if_true]
        rfl
      · simp only [hdefault, if_false, StatementReader.ofName]
        cases Dialect.ofName? (Dialect.normalName name) <;> rfl
  simp only [engine, hread]

/-- What is done in the database changes nothing else. -/
theorem exists_immediate_run_eq {α : Type} (f : α → ExecutionResult) (e : ConnectedEngine δ)
    (g : δ → δ × Except BackendFailure α) :
    ∃ d, (immediate f (e.run g)).1 = { e with database := d } := by
  unfold immediate run
  split_ifs
  · exact ⟨e.database, rfl⟩
  · rcases g e.database with ⟨d, x | a⟩ <;> exact ⟨d, rfl⟩

variable (B) in
/-- To execute an operation changes the database and nothing else. -/
theorem exists_executeImmediate_eq (e : ConnectedEngine δ) (operation : Operation) :
    ∃ d, (executeImmediate B e operation).1 = { e with database := d } := by
  cases operation with
  | setOption c => exact ⟨e.database, rfl⟩
  | insert i => exact exists_immediate_run_eq _ e _
  | explain sql explained => exact exists_immediate_run_eq _ e _
  | createTable sql => exact exists_immediate_run_eq _ e _
  | other sql keyword =>
    simp only [executeImmediate]
    split_ifs
    · exact exists_immediate_run_eq _ e _
    · exact exists_immediate_run_eq _ e _

variable (B) in
/-- To submit inserts changes the database and nothing else. -/
theorem exists_executeCombined_eq (e : ConnectedEngine δ) (inserts : List Insert) :
    ∃ d, (executeCombined B e inserts).1 = { e with database := d } := by
  unfold executeCombined
  split_ifs
  · exact ⟨e.database, rfl⟩
  · rcases submit B e.database inserts with ⟨d, x | sinks⟩ <;> exact ⟨d, rfl⟩

/-- An exchange changes the database, and the options by its assignment, and nothing else. -/
theorem exists_eq_of_answers {x : Exchange} (h : (engine B).Answers e x e') :
    ∃ d, e' = { e with database := d, options := e.options.extend x.setting?.toList } := by
  cases x with
  | parse statement answer =>
    obtain ⟨rfl, -⟩ := Prod.mk.inj h
    exact ⟨e.database, rfl⟩
  | execute operation answer =>
    have hstate : (executeImmediate B e operation).1 = e' := congrArg Prod.fst h
    obtain ⟨d, hd⟩ := exists_executeImmediate_eq B e operation
    exact ⟨d, by rw [← hstate, hd]; rfl⟩
  | combined inserts answer =>
    have hstate : (executeCombined B e inserts).1 = e' := congrArg Prod.fst h
    obtain ⟨d, hd⟩ := exists_executeCombined_eq B e inserts
    exact ⟨d, by rw [← hstate, hd]; rfl⟩
  | setOption key value =>
    obtain rfl : (engine B).setOption e key value = e' := h
    exact ⟨e.database, rfl⟩

/-- An engine keeps the dialect that it was made with. -/
theorem reader_of_converses (h : (engine B).Converses e xs e') : e'.reader = e.reader := by
  induction h with
  | nil e => rfl
  | @cons e e₁ e₂ x xs hx hxs ih =>
    obtain ⟨d, rfl⟩ := exists_eq_of_answers hx
    exact ih

variable (B) in
/-- What a statement is read as depends on the options that the engine has then, and on the dialect
that it was made with. -/
theorem readsInSession (e : ConnectedEngine δ) : (engine B).ReadsInSession e fun o statement =>
    e.reader.dialect.answer (o.get? sqlDialectKey) statement := by
  intro xs e' h statement
  rw [parse_eq, reader_of_converses h]
  rfl

/-! ## Submission takes no dialect -/

/-- A job is named and its mode is read from two options, so another one does not matter. -/
theorem executeCombined_setOption (e : ConnectedEngine δ) (inserts : List Insert) {key : String}
    (hname : key ≠ pipelineNameKey) (hmode : key ≠ runtimeModeKey) (value : String) :
    (engine B).executeCombined ((engine B).setOption e key value) inserts =
      ((engine B).setOption ((engine B).executeCombined e inserts).1 key value,
        ((engine B).executeCombined e inserts).2) := by
  have hsummary : ∀ sinks, jobSummary { e with options := e.options.set key value } inserts sinks =
      e.jobSummary inserts sinks := by
    intro sinks
    simp [jobSummary, Options.jobName, Options.mode, hname.symm, hmode.symm]
  change executeCombined B { e with options := e.options.set key value } inserts =
    ((engine B).setOption (executeCombined B e inserts).1 key value,
      (executeCombined B e inserts).2)
  unfold executeCombined
  dsimp only
  split_ifs
  · rfl
  · rcases submit B e.database inserts with ⟨d, x | sinks⟩
    · rfl
    · simp only [hsummary, engine]

/-- The end of a run for the inserts that were put off is the same whatever another option says. -/
theorem flush_setOption (e : ConnectedEngine δ) (pending : PendingInserts) {key : String}
    (hname : key ≠ pipelineNameKey) (hmode : key ≠ runtimeModeKey) (value : String) :
    (engine B).flush ((engine B).setOption e key value) pending =
      ((engine B).setOption ((engine B).flush e pending).1 key value,
        ((engine B).flush e pending).2) := by
  unfold Engine.flush
  split_ifs
  · rfl
  · rw [executeCombined_setOption e pending.inserts hname hmode value]
    rcases (engine B).executeCombined e pending.inserts with ⟨e₁, x | result⟩ <;> rfl

end ConnectedEngine

/-! ## The dialects of a run -/

section Runs

variable {δ : Type} (B : Backend δ) (e : ConnectedEngine δ) (statements : List String) (mode : Mode)

open ConnectedEngine

section Session

variable {B e statements mode} {passed rest : List String}
  (h : (engine B).RunsInSession e statements mode passed rest)
include h

/-- The statements up to the one that ends a run are read, each under the name that was given last
before it. -/
theorem readings_answers_eq :
    ((engine B).readings e statements mode).map (fun r => (r.statement, r.answer)) =
      (passed ++ rest.take 1).mapIdx fun i statement =>
        let name := e.options.latest? (statements.take i) sqlDialectKey
        (statement, e.reader.dialect.answer name statement) := by
  rw [Engine.RunsInSession.answers_eq e statements mode (keepsSession B) (readsInSession B e) h]
  refine List.ext_getElem? fun i => ?_
  have hoptions := Options.get?_inForce_of_ne e.options mode (statements.take i)
    (show sqlDialectKey ≠ runtimeModeKey by decide)
  simp only [List.getElem?_mapIdx, ← hoptions]
  rfl

/-- No statement is passed under an unknown name. -/
theorem isSome_inForce?_of_passed {i : Nat} (hi : i < passed.length) :
    (e.reader.dialect.inForce? (e.options.latest? (statements.take i) sqlDialectKey)).isSome := by
  have hanswers := readings_answers_eq h
  have hlength : i < ((engine B).readings e statements mode).length := by
    have hlengths := congrArg List.length hanswers
    simp only [List.length_map, List.length_mapIdx, List.length_append] at hlengths
    omega
  have hmem : ((engine B).readings e statements mode)[i] ∈
      ((engine B).readings e statements mode).take passed.length :=
    List.mem_take_iff_getElem.mpr ⟨i, by omega, rfl⟩
  obtain ⟨operation, hoperation, -⟩ := h.understood _ hmem
  have hget := congrArg (·[i]?) hanswers
  simp only [List.getElem?_map, List.getElem?_eq_getElem hlength, Option.map_some,
    List.getElem?_mapIdx, List.getElem?_append_left hi, List.getElem?_eq_getElem hi,
    Option.some.injEq, Prod.mk.injEq] at hget
  exact Dialect.isSome_inForce?_of_answer (hget.2.symm.trans hoperation)

end Session

/-- In which dialects a run on a database reads, where `passed` are the statements before the one
that ends it, and `rest` are that one and those behind it. -/
structure ReadsInForce (passed rest : List String) : Prop where
  /-- These are all statements, in their order. -/
  append_eq : passed ++ rest = statements
  /-- The statements up to the one that ends the run are read, each under the name that was given
  last before it. -/
  readings_eq : ((engine B).readings e statements mode).map (fun r => (r.statement, r.answer)) =
    (passed ++ rest.take 1).mapIdx fun i statement => (statement,
      e.reader.dialect.answer (e.options.latest? (statements.take i) sqlDialectKey) statement)
  /-- If no statement is left, the inserts that were read are flushed: they are submitted with the
  options that the statements left, unless there are none. Otherwise the next statement ends the
  run, and none are submitted. -/
  closing : let inserts := ((engine B).readings e statements mode).filterMap Reading.insert?
    ∃ (e₁ : ConnectedEngine δ) (last : List Exchange),
      e₁.options = e.options.inForce mode passed ∧
      (engine B).Converses e₁ last ((engine B).run e statements mode).1 ∧
      Closes inserts rest last ((engine B).run e statements mode).2 ∧
      (engine B).submissions e statements mode =
        if rest = [] ∧ inserts ≠ [] then [e₁.options] else []
  /-- No statement is passed under an unknown name. -/
  known : ∀ i < passed.length,
    (e.reader.dialect.inForce? (e.options.latest? (statements.take i) sqlDialectKey)).isSome
  /-- If the name that the passed statements leave is unknown, the next statement ends the run,
  whatever it is, and no inserts are submitted. -/
  unknown : ∀ name, e.options.latest? passed sqlDialectKey = some name →
    e.reader.dialect.inForce? (some name) = none → ∀ statement ∈ rest.head?,
      ((engine B).run e statements mode).2 = .aborted ⟨statement, unknownDialect name⟩ ∧
        (engine B).submissions e statements mode = []
  /-- If no statement is left, the run ends with the flush, and the end is the same under any other
  name. -/
  flushes : rest = [] → ∃ e₁ : ConnectedEngine δ,
    let pending : PendingInserts :=
      ⟨((engine B).readings e statements mode).filterMap Reading.insert?⟩
    e₁.options = e.options.inForce mode statements ∧
    (engine B).run e statements mode = (engine B).flush e₁ pending ∧
    ∀ name, (engine B).flush ((engine B).setOption e₁ sqlDialectKey name) pending =
      ((engine B).setOption ((engine B).run e statements mode).1 sqlDialectKey name,
        ((engine B).run e statements mode).2)

/-- Some part of the statements of a run is passed, and the others are left. -/
theorem exists_readsInForce : ∃ passed rest, ReadsInForce B e statements mode passed rest := by
  obtain ⟨passed, rest, xs, last, e₁, hsession, hxs, hoptions, hrun, hlast, hcloses,
    hsubmissions⟩ := (keepsSession B).exists_runFrom e statements mode
  have hname : e₁.options.get? sqlDialectKey = e.options.latest? passed sqlDialectKey := by
    rw [← Options.get?_inForce_of_ne e.options mode passed (by decide)]
    exact congrArg (Options.get? · sqlDialectKey) hoptions
  refine ⟨passed, rest, hsession.append_eq, readings_answers_eq hsession,
    ⟨e₁, last, hoptions, hlast, hcloses, hsubmissions⟩,
    fun i hi => isSome_inForce?_of_passed hsession hi, ?_, ?_⟩
  · intro name hlatest hunknown statement hstatement
    obtain ⟨others, rfl⟩ := List.head?_eq_some_iff.mp hstatement
    have hparse : (engine B).parse e₁ statement = (e₁, .error (unknownDialect name)) := by
      rw [parse_eq, reader_of_converses hxs, hname, hlatest,
        Dialect.answer_of_unknown hunknown]
    refine ⟨?_, by rw [hsubmissions, if_neg fun hrest => List.cons_ne_nil _ _ hrest.1]⟩
    rw [hrun, Engine.runFrom, Engine.step, hparse]
  · rintro rfl
    have hall : passed = statements := by simpa using hsession.append_eq
    refine ⟨e₁, hall ▸ hoptions, hrun, fun name => ?_⟩
    rw [flush_setOption e₁ _ (by decide) (by decide), hrun]
    rfl

namespace ReadsInForce

variable {B e statements mode} {passed rest passed' rest' : List String}

/-- As many statements are read as are passed, and the one that ends the run. -/
theorem length_readings (h : ReadsInForce B e statements mode passed rest) :
    ((engine B).readings e statements mode).length = passed.length + min 1 rest.length := by
  simpa using congrArg List.length h.readings_eq

/-- A run that has a statement left does not end with the flush. -/
theorem ne_nil_of_ne_nil (h : ReadsInForce B e statements mode passed rest)
    (h' : ReadsInForce B e statements mode passed' rest') (hrest : rest ≠ []) : rest' ≠ [] := by
  rintro rfl
  obtain ⟨e₁, last, -, -, hends, hnone⟩ := h.closing
  obtain ⟨e₁', last', -, -, hflushes, hsubmitted⟩ := h'.closing
  obtain ⟨statement, others, rfl⟩ := List.exists_cons_of_ne_nil hrest
  -- The outcome could be that of a flush that fails, but then something was submitted.
  rw [if_neg fun hnil => hrest hnil.1] at hnone
  rw [hnone, if_pos ⟨rfl, hflushes.inserts_ne_nil hends⟩] at hsubmitted
  cases hsubmitted

/-- The statements that a run passes are the same however it is told. -/
theorem eq_and_eq (h : ReadsInForce B e statements mode passed rest)
    (h' : ReadsInForce B e statements mode passed' rest') : passed = passed' ∧ rest = rest' := by
  have hempty : rest = [] ↔ rest' = [] :=
    not_iff_not.mp ⟨h.ne_nil_of_ne_nil h', h'.ne_nil_of_ne_nil h⟩
  have hlength : passed.length = passed'.length := by
    have hread := h.length_readings.symm.trans h'.length_readings
    rw [← List.length_eq_zero_iff, ← List.length_eq_zero_iff] at hempty
    omega
  exact List.append_inj (h.append_eq.trans h'.append_eq.symm) hlength

end ReadsInForce

/-- Every statement of a run on a database is read in the dialect in force, and under an unknown
name none is. The statements that are passed are told from the others in one way only. -/
theorem run_reads_in_force :
    ∃! split : List String × List String, ReadsInForce B e statements mode split.1 split.2 := by
  obtain ⟨passed, rest, h⟩ := exists_readsInForce B e statements mode
  refine ⟨(passed, rest), h, fun split h' => ?_⟩
  obtain ⟨hpassed, hrest⟩ := ReadsInForce.eq_and_eq h' h
  exact Prod.ext hpassed hrest

/-- An unknown name ends a run only if a statement stands behind it, be it one that would give
another name. -/
example :
    let E := engine (Snapshot.backend fun (texts : List String) text => .ok (texts ++ [text], 0))
    let e : ConnectedEngine (Snapshot (List String)) := { database := { current := [] } }
    let unknown := "SET table.sql-dialect = klingon"
    (E.run e ["CREATE TABLE t (a INT)", unknown] .batch).2.exitCode = 0 ∧
      (E.run e [unknown, "SET table.sql-dialect = default"] .batch).2.exitCode = 1 := by
  decide +kernel

end Runs

end SqlJob
