import SqlJob.Proofs.Json.Result
import SqlJob.Proofs.Run.DialectInForce
import SqlJob.Proofs.Session.Precedence

/-!
# The summary of a job

A run that completes with a result has read all its statements, and the result sums up the inserts
among them (`ExecutionResult.SumsUp`): one sink for each, in their order, with the table that it
names and the rows that it wrote, also where several write into one table; the sum of these as the
count of the whole; and a name that is found only when the inserts are submitted, so that a
statement may give it before or behind them. Both forms of the report say the same count. All this
is exact, but there is nothing to report if a word cannot hold the sum, since the program ends in
the addition (`JobSummary.rowsWritten_eq`).

What an insert wrote is the answer of the database to it. The inserts are executed in their order in
one transaction, from the state that the other statements left (`Backend.Counts`). The mock engine
counts one row for each.

The proof puts together what the operations of a run were read as (`passages_answers`), and how a
submission that succeeds comes about (`executeCombined_eq_ok`).
-/

namespace SqlJob

/-! ## Sums -/

/-- The rows that all sinks of the job count together, as a number. -/
def JobSummary.total (job : JobSummary) : Nat :=
  (job.sinks.map (·.rowsAffected.toNat)).sum

/-- Two words have a sum if and only if a word can hold it. -/
theorem addWords?_eq (a b : UInt64) :
    addWords? a b = if a.toNat + b.toNat < 2 ^ 64 then some (a + b) else none :=
  rfl

/-- The rows of sinks, added to a count one after another, have a sum if and only if a word can hold
it. -/
theorem foldlM_addWords? (sinks : List SinkWrite) (n : UInt64) :
    sinks.foldlM (fun sum sink => addWords? sum sink.rowsAffected) n =
      let total := n.toNat + (sinks.map (·.rowsAffected.toNat)).sum
      if total < 2 ^ 64 then some (.ofNat total) else none := by
  induction sinks generalizing n with
  | nil => simp [n.toNat_lt]
  | cons sink sinks ih =>
    simp only [List.foldlM_cons, List.map_cons, List.sum_cons, ← Nat.add_assoc]
    by_cases hstep : n.toNat + sink.rowsAffected.toNat < 2 ^ 64
    · have hsum : (n + sink.rowsAffected).toNat = n.toNat + sink.rowsAffected.toNat := by
        rw [UInt64.toNat_add, Nat.mod_eq_of_lt hstep]
      rw [addWords?_eq, if_pos hstep]
      simp only [bind, Option.bind_some, ih, hsum]
    · -- The sum only grows, so it is too great in the end as well.
      rw [addWords?_eq, if_neg hstep, if_neg (by omega)]
      rfl

/-- The sum over the sinks of a job is its total, if a word can hold that. -/
theorem JobSummary.rowsWritten_eq (job : JobSummary) :
    job.rowsWritten = if job.total < 2 ^ 64 then some (.ofNat job.total) else none := by
  rw [rowsWritten, foldlM_addWords?, UInt64.toNat_zero, Nat.zero_add]
  rfl

/-- A job has the name that was given last, or else one made of the tables that it writes to. -/
theorem Options.jobName_inForce (o : Options) (mode : Mode) (statements targets : List String) :
    (o.inForce mode statements).jobName targets = (o.latest? statements pipelineNameKey).getD
      ("insert-into_" ++ String.intercalate "," targets) := by
  rw [jobName, get?_inForce_of_ne o mode statements (by decide)]
  cases o.latest? statements pipelineNameKey <;> rfl

/-- How the result of a job sums up inserts that wrote so many rows each, if the job was given a
name or none. -/
structure ExecutionResult.SumsUp (result : ExecutionResult) (name? : Option String)
    (inserts : List Insert) (counts : List UInt64) : Prop where
  /-- Each insert has its count. -/
  length_eq : counts.length = inserts.length
  /-- There is a job, with the name that was given, or else one made of all tables in order, and
  with one sink for each insert: the table that it names and the rows that it wrote. -/
  job_eq : ∃ mode, result.job = some {
    name := name?.getD ("insert-into_" ++ String.intercalate "," (inserts.map (·.target)))
    mode
    sinks := List.zipWith Insert.sink inserts counts }
  /-- The rows of all inserts are added up, unless they are more than a word can count. -/
  isCounted_iff : result.isCounted ↔ (counts.map (·.toNat)).sum < 2 ^ 64
  /-- The rows of the result are those of all inserts. -/
  toNat_rowsAffected : result.isCounted →
    result.rowsAffected.toNat = (counts.map (·.toNat)).sum
  /-- The report as text says the rows of the result, and under them those of each insert. -/
  summaryLines_eq : result.isCounted → ∀ job, result.job = some job → summaryLines result =
    ("Job '" ++ job.name ++ "' finished (" ++ job.mode.display ++ "): " ++
      toString result.rowsAffected.toNat ++ " rows written") ::
      List.zipWith (fun i n => "  " ++ i.target ++ ": " ++ toString n.toNat ++ " rows")
        inserts counts
  /-- The report as JSON is read back as the result. -/
  read_report : read (report .json (.completed (some result))) = some result

/-- The rows of a job are added up if and only if a word can hold its total, and are its total
then. -/
theorem ExecutionResult.isCounted_ofJob (job : JobSummary) :
    ((ofJob job).isCounted ↔ job.total < 2 ^ 64) ∧
      ((ofJob job).isCounted → ∃ n, job.rowsWritten = some n ∧ (ofJob job).rowsAffected = n ∧
        n.toNat = job.total) := by
  have hcounted : (ofJob job).isCounted = job.rowsWritten.isSome := rfl
  rw [hcounted, ofJob, job.rowsWritten_eq]
  split_ifs with htotal
  · exact ⟨by simpa using htotal, fun _ => ⟨_, rfl, rfl, UInt64.toNat_ofNat_of_lt' htotal⟩⟩
  · exact ⟨by simpa using htotal, nofun⟩

/-- The result of a job sums up the inserts that its sinks are of. -/
theorem ExecutionResult.sumsUp_ofJob {job : JobSummary} {name? : Option String}
    {inserts : List Insert} {counts : List UInt64} (hlength : counts.length = inserts.length)
    (hname : job.name =
      name?.getD ("insert-into_" ++ String.intercalate "," (inserts.map (·.target))))
    (hsinks : job.sinks = List.zipWith Insert.sink inserts counts) :
    (ofJob job).SumsUp name? inserts counts := by
  have htotal : job.total = (counts.map (·.toNat)).sum := by
    rw [JobSummary.total, hsinks]
    exact congrArg List.sum (List.ext_getElem (by simp [hlength]) (by simp [Insert.sink]))
  obtain ⟨hcounted, hrows⟩ := isCounted_ofJob job
  exact {
    length_eq := hlength
    job_eq := ⟨job.mode, by rw [← hname, ← hsinks]; rfl⟩
    isCounted_iff := by rw [hcounted, htotal]
    toNat_rowsAffected := by
      intro h
      obtain ⟨n, -, hn, hexact⟩ := hrows h
      rw [hn, hexact, htotal]
    summaryLines_eq := by
      rintro h _ ⟨rfl⟩
      obtain ⟨n, hsum, hn, -⟩ := hrows h
      rw [hn]
      simp only [summaryLines, ofJob, hsum, hsinks, List.map_zipWith, Insert.sink]
    read_report := ExecutionResult.read_report (by simp [FloatFree, ofJob]) }

/-! ## Runs -/

section Runs

variable {σ : Type} {E : Engine σ} {s : σ} {statements : List String} {mode : Mode}
  {result : ExecutionResult}

/-- A run that completes with a result has read all statements, and has submitted the inserts among
them in a state in which jobs have the name that was given last. -/
theorem exists_operations_of_completed (hE : E.KeepsSession)
    {answer : Options → String → Except Failure Operation} (hreads : E.ReadsInSession s answer)
    (h : (E.run s statements mode).2 = .completed (some result)) :
    ∃ (passed : List Passage) (operations : List Operation) (s₁ : σ),
      (passed.flatMap (·.exchanges)).filterMap Exchange.operation? = operations ∧
      E.Converses (E.setOption s runtimeModeKey mode.optionValue)
        (passed.flatMap (·.exchanges)) s₁ ∧
      (statements.mapIdx fun i statement =>
        answer ((E.options s).inForce mode (statements.take i)) statement) =
          operations.map .ok ∧
      (∀ targets, (E.options s₁).jobName targets =
        ((E.options s).latest? statements pipelineNameKey).getD
          ("insert-into_" ++ String.intercalate "," targets)) ∧
      E.executeCombined s₁ (operations.filterMap Operation.insert?) =
        ((E.run s statements mode).1, .ok result) := by
  obtain ⟨passed, s₂, rfl, hxs, hresult⟩ := exists_passages_of_completed h
  obtain ⟨s₁, hset, hpassed⟩ := converses_cons_iff.mp hxs
  obtain rfl : E.setOption s runtimeModeKey mode.optionValue = s₁ := hset
  have hafter : E.ReadsInSession (E.setOption s runtimeModeKey mode.optionValue) answer :=
    fun ys s' hys => hreads (.setOption runtimeModeKey mode.optionValue :: ys) s' (.cons rfl hys)
  have hanswers := passages_answers hE hafter hpassed
  have hoptions := options_passages hE hpassed
  rw [hE.options_setOption] at hanswers hoptions
  refine ⟨passed, _, s₂, rfl, hpassed, hanswers, fun targets => ?_, ?_⟩
  · rw [hoptions]
    exact (E.options s).jobName_inForce mode (passed.map (·.statement)) targets
  · rw [filterMap_insert?_exchanges, passages_inserts]
    exact hresult

end Runs

/-- What statements are read as in a session, each under the name of a dialect that was given
last. -/
def Dialect.answers (own : Dialect) (o : Options) (statements : List String) :
    List (Except Failure Operation) :=
  statements.mapIdx fun i statement =>
    own.answer (o.latest? (statements.take i) sqlDialectKey) statement

/-- The mock engine reads every statement in the default dialect. -/
theorem MockEngine.readsInSession (m : MockEngine) :
    engine.ReadsInSession m fun _ statement => StatementReader.default.read statement :=
  fun _ _ _ _ => rfl

/-- The result of a run of the mock engine sums up its inserts, with one row each. -/
theorem MockEngine.run_sumsUp {m : MockEngine} {statements : List String} {mode : Mode}
    {result : ExecutionResult} (h : (engine.run m statements mode).2 = .completed (some result)) :
    ∃ operations : List Operation,
      statements.map StatementReader.default.read = operations.map .ok ∧
      let inserts := operations.filterMap Operation.insert?
      result.SumsUp (m.options.latest? statements pipelineNameKey) inserts
        (inserts.map fun _ => 1) := by
  obtain ⟨passed, operations, m₁, -, -, hanswers, hname, hresult⟩ :=
    exists_operations_of_completed keepsSession (readsInSession m) h
  refine ⟨operations, ?_, ?_⟩
  · rw [← hanswers]
    exact List.ext_getElem (by simp) (by simp)
  · obtain ⟨-, hanswer⟩ := Prod.mk.inj hresult
    split at hanswer
    · simp at hanswer
    · obtain rfl : ExecutionResult.ofJob (m₁.jobSummary _) = result := by simpa using hanswer
      refine ExecutionResult.sumsUp_ofJob (by simp) (hname _) ?_
      exact List.ext_getElem (by simp [jobSummary]) (by simp [jobSummary, Insert.sink])

namespace ConnectedEngine

variable {δ : Type} {B : Backend δ} {e : ConnectedEngine δ} {statements : List String} {mode : Mode}
  {result : ExecutionResult}

/-- The result of a run on a database sums up its inserts, with the rows that the database answers
to each. -/
theorem run_sumsUp (h : ((engine B).run e statements mode).2 = .completed (some result)) :
    ∃ operations : List Operation,
      e.reader.dialect.answers e.options statements = operations.map .ok ∧
      let inserts := operations.filterMap Operation.insert?
      let before := (operations.filterMap Operation.immediate?).foldl B.after e.database
      ∃ d₁ d₂ counts, B.begin before = (d₁, .ok ()) ∧ B.Counts d₁ inserts counts d₂ ∧
        B.commit d₂ = (((engine B).run e statements mode).1.database, .ok ()) ∧
        result.SumsUp (e.options.latest? statements pipelineNameKey) inserts counts := by
  obtain ⟨passed, operations, e₁, hoperations, hpassed, hanswers, hname, hresult⟩ :=
    exists_operations_of_completed (keepsSession B) (readsInSession B e) h
  obtain ⟨d₁, d₂, counts, hbegin, hcounts, hcommit, rfl⟩ := executeCombined_eq_ok hresult
  refine ⟨operations, ?_, d₁, d₂, counts, ?_, hcounts, hcommit, ?_⟩
  · rw [← hanswers]
    unfold Dialect.answers
    congr 1
    funext i statement
    rw [← Options.get?_inForce_of_ne e.options mode (statements.take i) (by decide)]
    rfl
  · rw [← hoperations, ← passages_executed, ← hbegin, passages_database hpassed]
    rfl
  · exact ExecutionResult.sumsUp_ofJob hcounts.length_eq (hname _) rfl

end ConnectedEngine

/-- **The summary of a job is faithful.** A run that completes with a result has read all statements
as operations, and its result sums up the inserts among them under the name in force at the end: on
the mock engine with one row each, and on a database with the rows that it answers to each when they
are executed in turn, in one transaction, behind what was executed at once. The name is the one that
a statement gave last, or else that of the highest layer that gives one. -/
theorem run_job_sumsUp :
    (∀ (m : MockEngine) (statements : List String) (mode : Mode) (result : ExecutionResult),
      (MockEngine.engine.run m statements mode).2 = .completed (some result) →
      ∃ operations : List Operation,
        statements.map StatementReader.default.read = operations.map .ok ∧
        let inserts := operations.filterMap Operation.insert?
        result.SumsUp (m.options.latest? statements pipelineNameKey) inserts
          (inserts.map fun _ => 1)) ∧
    (∀ {δ : Type} (B : Backend δ) (e : ConnectedEngine δ) (statements : List String) (mode : Mode)
        (result : ExecutionResult),
      ((ConnectedEngine.engine B).run e statements mode).2 = .completed (some result) →
      ∃ operations : List Operation,
        e.reader.dialect.answers e.options statements = operations.map .ok ∧
        let inserts := operations.filterMap Operation.insert?
        let before := (operations.filterMap Operation.immediate?).foldl B.after e.database
        ∃ d₁ d₂ counts, B.begin before = (d₁, .ok ()) ∧ B.Counts d₁ inserts counts d₂ ∧
          B.commit d₂ =
            (((ConnectedEngine.engine B).run e statements mode).1.database, .ok ()) ∧
          result.SumsUp (e.options.latest? statements pipelineNameKey) inserts counts) ∧
    ∀ (session : SessionDefaults) (mode : Mode) (statements : List String),
      (Options.forMode mode session).latest? statements pipelineNameKey =
        ((statements.filterMap settingOf?).reverse.lookup pipelineNameKey).or
          ((session.overrides.get? pipelineNameKey).or
            (((session.forMode mode).get? pipelineNameKey).or
              (session.common.get? pipelineNameKey))) := by
  refine ⟨fun m statements mode result h => MockEngine.run_sumsUp h,
    fun B e statements mode result h => ConnectedEngine.run_sumsUp h,
    fun session mode statements => ?_⟩
  -- No mode has a name for jobs built in.
  have hbuiltin : (builtinOptions mode).get? pipelineNameKey = none := by
    rw [Options.get?_builtinOptions]
    cases mode <;> rfl
  rw [Options.latest?, Options.get?_forMode, if_neg (by decide), hbuiltin, Option.or_none]

/-- A database in which every text writes one row more than the one before it. -/
def growing : Backend (Snapshot UInt64) :=
  Snapshot.backend fun n _ => .ok (n + 1, n)

/-- Two inserts into one table, and the name of their job between them. -/
def namedInserts : List String :=
  ["INSERT INTO t SELECT 1", "SET pipeline.name = nightly", "INSERT INTO t SELECT 1"]

/-- The name of a job as it is read. -/
theorem read_setName : StatementReader.default.read "SET pipeline.name = nightly" =
    .ok (.setOption ⟨"SET pipeline.name = nightly", some "pipeline.name", some "nightly"⟩) := by
  decide +kernel

/-- Both inserts are submitted to a mock engine under the name. -/
theorem run_namedInserts_mock : (MockEngine.engine.run {} namedInserts .batch).2 =
    .completed (some (.ofJob ⟨"nightly", .batch, [⟨"t", 1⟩, ⟨"t", 1⟩]⟩)) := by
  have hparse : ∀ (m : MockEngine) (statement : String), MockEngine.engine.parse m statement =
      (m, StatementReader.default.read statement) := fun _ _ => rfl
  simp only [namedInserts, Engine.run, Engine.runFrom, Engine.step, hparse, read_insert,
    read_setName, Engine.stepOperation, SetCommand.assignment?, PendingInserts.push]
  rfl

/-- Both inserts are submitted to a database under the name. -/
theorem run_namedInserts_growing :
    ((ConnectedEngine.engine growing).run { database := ⟨3, none⟩ } namedInserts .batch).2 =
      .completed (some (.ofJob ⟨"nightly", .batch, [⟨"t", 3⟩, ⟨"t", 4⟩]⟩)) := by
  have hparse : ∀ (e : ConnectedEngine (Snapshot UInt64)) (statement : String),
      e.options.get? sqlDialectKey = none → e.reader = .default →
      (ConnectedEngine.engine growing).parse e statement =
        (e, StatementReader.default.read statement) := by
    intro e statement hdialect hreader
    rw [ConnectedEngine.parse_eq, hdialect, hreader]
    rfl
  have hset : ∀ (e : ConnectedEngine (Snapshot UInt64)) (key value : String),
      (ConnectedEngine.engine growing).setOption e key value =
        { e with options := e.options.set key value } := fun _ _ _ => rfl
  have hkeys : sqlDialectKey ≠ runtimeModeKey ∧ sqlDialectKey ≠ "pipeline.name" := by decide
  have hempty : Options.empty.get? sqlDialectKey = none := rfl
  simp only [namedInserts, Engine.run, Engine.runFrom, Engine.step, hset, hparse,
    Options.get?_set, hkeys, hempty, if_false, read_insert, read_setName, Engine.stepOperation,
    SetCommand.assignment?, PendingInserts.push]
  rfl

/-- The summaries of two inserts into one table whose name stands between them. -/
theorem run_job_sumsUp_namedInserts :
    let e : ConnectedEngine (Snapshot UInt64) := { database := ⟨3, none⟩ }
    let mockResult : ExecutionResult := .ofJob ⟨"nightly", .batch, [⟨"t", 1⟩, ⟨"t", 1⟩]⟩
    let result : ExecutionResult := .ofJob ⟨"nightly", .batch, [⟨"t", 3⟩, ⟨"t", 4⟩]⟩
    ((MockEngine.engine.run {} namedInserts .batch).2 = .completed (some mockResult) ∧
      ∃ operations : List Operation,
        namedInserts.map StatementReader.default.read = operations.map .ok ∧
        let inserts := operations.filterMap Operation.insert?
        mockResult.SumsUp (Options.empty.latest? namedInserts pipelineNameKey) inserts
          (inserts.map fun _ => 1)) ∧
    ((ConnectedEngine.engine growing).run e namedInserts .batch).2 = .completed (some result) ∧
      ∃ operations : List Operation,
        e.reader.dialect.answers e.options namedInserts = operations.map .ok ∧
        let inserts := operations.filterMap Operation.insert?
        let before := (operations.filterMap Operation.immediate?).foldl growing.after e.database
        ∃ d₁ d₂ counts, growing.begin before = (d₁, .ok ()) ∧
          growing.Counts d₁ inserts counts d₂ ∧
          growing.commit d₂ =
            (((ConnectedEngine.engine growing).run e namedInserts .batch).1.database, .ok ()) ∧
          result.SumsUp (e.options.latest? namedInserts pipelineNameKey) inserts counts :=
  ⟨⟨run_namedInserts_mock, run_job_sumsUp.1 {} _ _ _ run_namedInserts_mock⟩,
    run_namedInserts_growing, run_job_sumsUp.2.1 growing _ _ _ _ run_namedInserts_growing⟩

end SqlJob
