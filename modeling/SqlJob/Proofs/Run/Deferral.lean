import SqlJob.Proofs.Run.Session

/-!
# Where the inserts stand in a script

Inserts are put off to the end of a script, so it does not matter where they stand in it. This holds
for an engine that reads every statement in the same way at all times (`Engine.ReadsBy`): a run of
its is the run of the other statements alone with all inserts put off in advance
(`runFrom_eq_deferred`). Two scripts with the same inserts in the same order, and the same other
statements in the same order, are therefore run alike (`run_eq_of_filter_eq`). The engine of a
database is not of this kind, since a statement may change the dialect of those that follow it.

What an observer sees of a run are the calls that do something. The statements are read in the order
of the script, so the log of all calls is another for each way to place the inserts. The log without
the calls that read statements is kept by an engine of its own (`Engine.observed`), and its runs are
those of the engine with the log of all calls when these are left out (`observed_run`). As it reads
statements like the engine that it observes, what holds of every engine holds of this one, and
`run_interleaved` follows for the mock engine.
-/

namespace SqlJob

/-! ## Reading inserts -/

namespace StatementReader

/-- The insert that a statement is read as, if it is one. -/
def insert? (r : StatementReader) (statement : String) : Option Insert :=
  match r.read statement with
  | .ok (.insert i) => some i
  | _ => none

/-- Whether a statement is read as an insert. -/
def isInsert (r : StatementReader) (statement : String) : Bool :=
  (r.insert? statement).isSome

/-- A statement is an insert if it is read as one. -/
theorem insert?_eq_some_iff {r : StatementReader} {statement : String} {i : Insert} :
    r.insert? statement = some i ↔ r.read statement = .ok (.insert i) := by
  unfold insert?
  split
  · next j h => simp [h]
  · next hne => simpa using fun h => hne i h

/-- The inserts among statements are those of the statements that are read as inserts. -/
theorem filterMap_insert?_filter (r : StatementReader) (statements : List String) :
    (statements.filter r.isInsert).filterMap r.insert? = statements.filterMap r.insert? := by
  rw [List.filterMap_filter]
  congr 1
  funext statement
  unfold isInsert
  cases r.insert? statement <;> rfl

end StatementReader

/-- To read a statement changes nothing, and what it is read as is a matter of its text alone. -/
def Engine.ReadsBy {σ : Type} (E : Engine σ) (r : StatementReader) : Prop :=
  ∀ s statement, E.parse s statement = (s, r.read statement)

/-- The mock engine reads every statement in the default dialect. -/
theorem MockEngine.readsBy : MockEngine.engine.ReadsBy .default :=
  fun _ _ => rfl

/-! ## Putting off -/

section Runs

variable {σ : Type} {E : Engine σ} {r : StatementReader} {s : σ}

/-- An insert is put off and nothing else is done. -/
theorem step_of_insert (hE : E.ReadsBy r) {statement : String} {i : Insert}
    (h : r.insert? statement = some i) (pending : PendingInserts) :
    E.step s pending statement = (s, .next (pending.push i)) := by
  rw [Engine.step, hE, StatementReader.insert?_eq_some_iff.mp h]
  rfl

/-- What a run does after any other statement has nothing to do with the inserts put off so far. -/
theorem step_of_not_insert (hE : E.ReadsBy r) {statement : String}
    (h : r.insert? statement = none) (s : σ) :
    ∃ s', (∀ pending, E.step s pending statement = (s', .next pending)) ∨
      (∃ text, ∀ pending, E.step s pending statement = (s', .plan text)) ∨
      ∃ e, ∀ pending, E.step s pending statement = (s', .failed e) := by
  obtain ⟨xs, s', result, hxs, hfits⟩ := exists_fits E s {} statement
  cases result with
  | next p =>
    obtain ⟨new, hpasses, -⟩ := hfits
    -- Only an insert is put off, and the statement is read as none.
    have hnew : new = [] := by
      cases hpasses with
      | insert i =>
        have hread := converses_singleton_iff.mp hxs
        simp only [Engine.Answers] at hread
        rw [hE, Prod.mk.injEq] at hread
        rw [StatementReader.insert?_eq_some_iff.mpr hread.2] at h
        simp at h
      | _ => rfl
    refine ⟨s', .inl fun pending => ?_⟩
    rw [step_of_passes pending hxs hpasses, hnew, List.append_nil]
  | plan text => exact ⟨s', .inr (.inl ⟨text, fun pending => step_of_plan pending hxs hfits⟩)⟩
  | failed e => exact ⟨s', .inr (.inr ⟨e, fun pending => step_of_failure pending hxs hfits⟩)⟩

/-- A run is the run of the other statements with the inserts put off in advance. -/
theorem runFrom_eq_deferred (hE : E.ReadsBy r) (pending : PendingInserts)
    (statements : List String) :
    E.runFrom s pending statements =
      E.runFrom s ⟨pending.inserts ++ statements.filterMap r.insert?⟩
        (statements.filter fun statement => !r.isInsert statement) := by
  induction statements generalizing s pending with
  | nil => simp
  | cons statement rest ih =>
    cases hinsert : r.insert? statement with
    | some i =>
      -- The insert is put off now instead of in advance.
      rw [Engine.runFrom, step_of_insert hE hinsert]
      simp only [ih, PendingInserts.push]
      simp [StatementReader.isInsert, hinsert]
    | none =>
      -- The statement does the same whatever is put off, and the run goes on alike.
      have hkeep : (statement :: rest).filter (fun st => !r.isInsert st) =
          statement :: rest.filter fun st => !r.isInsert st := by
        simp [StatementReader.isInsert, hinsert]
      rw [hkeep, List.filterMap_cons_none hinsert]
      obtain ⟨s', hnext | ⟨text, hplan⟩ | ⟨e, hfailed⟩⟩ := step_of_not_insert hE hinsert s
      · rw [Engine.runFrom, Engine.runFrom, hnext, hnext]
        exact ih pending
      · rw [Engine.runFrom, Engine.runFrom, hplan, hplan]
      · rw [Engine.runFrom, Engine.runFrom, hfailed, hfailed]

/-- Statements with the same inserts in order and the same others in order are run alike. -/
theorem run_eq_of_filter_eq (hE : E.ReadsBy r) (mode : Mode) {first second : List String}
    (hinserts : first.filter r.isInsert = second.filter r.isInsert)
    (hothers : first.filter (fun statement => !r.isInsert statement) =
      second.filter fun statement => !r.isInsert statement) :
    E.run s first mode = E.run s second mode := by
  unfold Engine.run
  rw [runFrom_eq_deferred hE, runFrom_eq_deferred hE _ second, hothers,
    ← r.filterMap_insert?_filter first, hinserts, r.filterMap_insert?_filter]

end Runs

/-! ## Observation -/

/-- Whether a call does more than to read a statement. -/
def Call.isEffect : Call → Bool
  | parse _ => false
  | execute _ => true
  | combined _ => true
  | setOption _ _ => true

/-- The engine that does the same and keeps a log of the calls that do more than to read a
statement. -/
def Engine.observed {σ : Type} (E : Engine σ) : Engine (Recorded σ) where
  parse r statement :=
    let (s, answer) := E.parse r.state statement
    ({ r with state := s }, answer)
  executeImmediate := E.recorded.executeImmediate
  executeCombined := E.recorded.executeCombined
  setOption := E.recorded.setOption
  options := E.recorded.options

section Observation

variable {σ : Type} {E : Engine σ} {s' : σ} {xs : List Exchange}

/-- An engine that reads statements by their texts is observed to do so. -/
theorem Engine.ReadsBy.observed {r : StatementReader} (hE : E.ReadsBy r) :
    E.observed.ReadsBy r := by
  intro s statement
  simp [Engine.observed, hE s.state statement]

/-- The observed engine gives the same answers, and its log grows by the call if that does
something. -/
theorem observed_answers {r : Recorded σ} {x : Exchange} (h : E.Answers r.state x s') :
    E.observed.Answers r x ⟨s', [x.call].filter Call.isEffect ++ r.reversedCalls⟩ := by
  cases x with
  | parse statement answer =>
    simp only [Engine.Answers] at h
    simp [Engine.Answers, Engine.observed, Exchange.call, Call.isEffect, h]
  | execute operation answer => exact recorded_answers (x := .execute operation answer) h
  | combined inserts answer => exact recorded_answers (x := .combined inserts answer) h
  | setOption key value => exact recorded_answers (x := .setOption key value) h

/-- The observed engine takes part in the same conversations, and its log grows by the calls that
do something. -/
theorem observed_converses {r : Recorded σ} (h : E.Converses r.state xs s') :
    E.observed.Converses r xs
      ⟨s', ((xs.map Exchange.call).filter Call.isEffect).reverse ++ r.reversedCalls⟩ := by
  induction xs generalizing r with
  | nil =>
    obtain rfl : s' = r.state := converses_nil_iff.mp h
    exact .nil r
  | cons x xs ih =>
    obtain ⟨s₁, hx, hxs⟩ := converses_cons_iff.mp h
    have htail := ih (r := ⟨s₁, [x.call].filter Call.isEffect ++ r.reversedCalls⟩) hxs
    refine converses_cons_iff.mpr ⟨_, observed_answers hx, ?_⟩
    have hcall : (x :: xs).map Exchange.call = [x.call] ++ xs.map Exchange.call := rfl
    have hsingle : ([x.call].filter Call.isEffect).reverse = [x.call].filter Call.isEffect := by
      cases hx : x.call.isEffect <;> simp [hx]
    rwa [hcall, List.filter_append, List.reverse_append, hsingle, List.append_assoc]

/-- A run that is observed is the run with a log of all calls, without those that read
statements. -/
theorem observed_run (E : Engine σ) (s : σ) (statements : List String) (mode : Mode) :
    (E.observed.run ⟨s, []⟩ statements mode).1.calls =
      (E.recorded.run ⟨s, []⟩ statements mode).1.calls.filter Call.isEffect := by
  rcases hrun : E.run s statements mode with ⟨s', o⟩
  obtain ⟨xs, hxs, hc⟩ := run_eq_iff.mp hrun
  rw [run_eq_iff.mpr ⟨xs, observed_converses (r := ⟨s, []⟩) hxs, hc⟩,
    run_eq_iff.mpr ⟨xs, recorded_converses (r := ⟨s, []⟩) hxs, hc⟩]
  simp [Recorded.calls]

end Observation

/-- Where the inserts of a script stand does not matter to the mock engine: with the same inserts in
order and the same other statements in order it is left in the same state with the same outcome, and
it is called to execute, to set options and to submit inserts in the same way. -/
theorem run_interleaved (m : MockEngine) (mode : Mode) {first second : List String}
    (hinserts : first.filter StatementReader.default.isInsert =
      second.filter StatementReader.default.isInsert)
    (hothers : first.filter (fun statement => !StatementReader.default.isInsert statement) =
      second.filter fun statement => !StatementReader.default.isInsert statement) :
    MockEngine.engine.run m first mode = MockEngine.engine.run m second mode ∧
      (MockEngine.engine.recorded.run ⟨m, []⟩ first mode).1.calls.filter Call.isEffect =
        (MockEngine.engine.recorded.run ⟨m, []⟩ second mode).1.calls.filter Call.isEffect := by
  refine ⟨run_eq_of_filter_eq MockEngine.readsBy mode hinserts hothers, ?_⟩
  rw [← observed_run, ← observed_run,
    run_eq_of_filter_eq MockEngine.readsBy.observed mode hinserts hothers]

/-- An option that is set between inserts may as well be set in front of them. -/
theorem run_interleaved_set :
    let first := ["INSERT INTO t SELECT 1", "SET pipeline.name = daily", "INSERT INTO t SELECT 1"]
    let second := ["SET pipeline.name = daily", "INSERT INTO t SELECT 1", "INSERT INTO t SELECT 1"]
    MockEngine.engine.run {} first .streaming = MockEngine.engine.run {} second .streaming ∧
      (MockEngine.engine.recorded.run ⟨{}, []⟩ first .streaming).1.calls.filter Call.isEffect =
        (MockEngine.engine.recorded.run ⟨{}, []⟩ second .streaming).1.calls.filter
          Call.isEffect := by
  have hinsert : StatementReader.default.isInsert "INSERT INTO t SELECT 1" = true := by
    rw [StatementReader.isInsert, StatementReader.insert?_eq_some_iff.mpr read_insert]
    rfl
  have hset : StatementReader.default.isInsert "SET pipeline.name = daily" = false := by
    decide +kernel
  exact run_interleaved {} .streaming (by simp [hinsert, hset]) (by simp [hinsert, hset])

end SqlJob
