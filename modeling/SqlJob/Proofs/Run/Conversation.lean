import SqlJob.Run.Runner
import Mathlib.Tactic.SplitIfs

/-!
# The conversation of a run with its engine

A run and its engine exchange calls and answers. This file says which conversations a run has,
without looking at the engine: the first call sets the runtime mode, then each statement is parsed
and followed by at most one more call (`Passes`), until a statement ends the run (`Ends`) or all are
through and the inserts that were put off are submitted (`Flushes`). `Conversation` puts these
together. What the engine answers is a matter of its state: `Engine.Converses` says that an engine
gives the answers of a conversation one after another.

The main statement, `run_calls_iff`, is that the calls and the outcome of a run are those of the one
conversation that the engine takes part in. It goes by the statements of the run: `step_eq_iff` says
what one step makes of the engine and the inserts put off so far, and `runFrom_eq_iff` is the
induction, over any inserts already put off. The log of `Engine.recorded` is kept up to date by each
answer (`recorded_converses`).
-/

namespace SqlJob

/-- A call with the engine's answer to it. Setting an option has none. -/
inductive Exchange where
  | parse (statement : String) (answer : Except Failure Operation)
  | execute (operation : Operation) (answer : Except Failure ExecutionResult)
  | combined (inserts : List Insert) (answer : Except Failure ExecutionResult)
  | setOption (key value : String)

/-- The call of an exchange. -/
def Exchange.call : Exchange → Call
  | parse statement _ => .parse statement
  | execute operation _ => .execute operation
  | combined inserts _ => .combined inserts
  | setOption key value => .setOption key value

/-! ## What an engine answers -/

section Engines

variable {σ : Type} (E : Engine σ)

/-- In the state `s` the engine gives the answer of the exchange, and is in the state `s'` then. -/
def Engine.Answers (s : σ) : Exchange → σ → Prop
  | .parse statement answer, s' => E.parse s statement = (s', answer)
  | .execute operation answer, s' => E.executeImmediate s operation = (s', answer)
  | .combined inserts answer, s' => E.executeCombined s inserts = (s', answer)
  | .setOption key value, s' => E.setOption s key value = s'

/-- From the state `s` on, the engine gives the answers of the exchanges in turn, and is in the
state `s'` then. -/
inductive Engine.Converses : σ → List Exchange → σ → Prop
  | nil (s : σ) : Converses s [] s
  | cons {s s₁ s₂ : σ} {x : Exchange} {xs : List Exchange} (head : E.Answers s x s₁)
      (tail : Converses s₁ xs s₂) : Converses s (x :: xs) s₂

end Engines

/-! ## What a run says -/

/-- The operations that are executed at once, be it for a plan or for what they do. -/
def Operation.IsImmediate : Operation → Prop
  | insert _ => False
  | setOption _ => False
  | explain _ _ => True
  | createTable _ => True
  | other _ _ => True

/-- A run goes on after the statement: what it exchanges with the engine for it, and the inserts
that it puts off. -/
inductive Passes (statement : String) : List Exchange → List Insert → Prop
  /-- An insert is put off. -/
  | insert (i : Insert) : Passes statement [.parse statement (.ok (.insert i))] [i]
  /-- An option with key and value is set. -/
  | assignment {c : SetCommand} {key value : String} (h : c.assignment? = some (key, value)) :
      Passes statement [.parse statement (.ok (.setOption c)), .setOption key value] []
  /-- An option without key or value is left alone. -/
  | incomplete {c : SetCommand} (h : c.assignment? = none) :
      Passes statement [.parse statement (.ok (.setOption c))] []
  /-- A table is created. -/
  | createTable (sql : String) (result : ExecutionResult) :
      Passes statement
        [.parse statement (.ok (.createTable sql)), .execute (.createTable sql) (.ok result)] []
  /-- Anything else is executed. -/
  | other (sql keyword : String) (result : ExecutionResult) :
      Passes statement
        [.parse statement (.ok (.other sql keyword)), .execute (.other sql keyword) (.ok result)] []

/-- A run ends with the statement: what it exchanges with the engine for it, and the outcome. -/
inductive Ends (statement : String) : List Exchange → Outcome → Prop
  /-- The statement is not understood. -/
  | unread (e : Failure) : Ends statement [.parse statement (.error e)] (.aborted ⟨statement, e⟩)
  /-- The statement fails. -/
  | failed {operation : Operation} (h : operation.IsImmediate) (e : Failure) :
      Ends statement [.parse statement (.ok operation), .execute operation (.error e)]
        (.aborted ⟨statement, e⟩)
  /-- The statement asks for a plan and gets one: the first field of the first row. -/
  | plan (sql explained : String) {result : ExecutionResult} {v : Value}
      (h : result.firstValue? = some v) (hv : v.isNull = false) :
      Ends statement
        [.parse statement (.ok (.explain sql explained)),
          .execute (.explain sql explained) (.ok result)]
        (.explainRequested statement v.display)
  /-- The statement asks for a plan, and there is no such field or it is null. -/
  | noPlan (sql explained : String) {result : ExecutionResult}
      (h : ∀ v, result.firstValue? = some v → v.isNull = true) :
      Ends statement
        [.parse statement (.ok (.explain sql explained)),
          .execute (.explain sql explained) (.ok result)]
        (.aborted ⟨statement, .execution, "EXPLAIN returned no plan"⟩)

/-- What a run exchanges with the engine at its end for the inserts that it put off, and the
outcome. -/
inductive Flushes (inserts : List Insert) : List Exchange → Outcome → Prop
  /-- There is nothing to submit. -/
  | nothing (h : inserts = []) : Flushes inserts [] (.completed none)
  /-- The inserts are submitted together. -/
  | submitted (h : inserts ≠ []) (result : ExecutionResult) :
      Flushes inserts [.combined inserts (.ok result)] (.completed (some result))
  /-- The inserts are submitted together and fail. -/
  | refused (h : inserts ≠ []) (e : Failure) :
      Flushes inserts [.combined inserts (.error e)]
        (.aborted ⟨String.intercalate "\n" (inserts.map (·.sql ++ ";")), e⟩)

/-- A statement that a run goes on after, with what belongs to it. -/
structure Passage where
  statement : String
  exchanges : List Exchange
  inserts : List Insert
  passes : Passes statement exchanges inserts

/-- What a run exchanges with the engine for statements, when inserts are put off already, and the
outcome. -/
inductive Course (pending : List Insert) : List String → List Exchange → Outcome → Prop
  /-- All statements are passed. -/
  | flushed (passed : List Passage) {last : List Exchange} {o : Outcome}
      (h : Flushes (pending ++ passed.flatMap (·.inserts)) last o) :
      Course pending (passed.map (·.statement)) (passed.flatMap (·.exchanges) ++ last) o
  /-- Some statements are passed, and the next one ends the run, whatever follows it. -/
  | ended (passed : List Passage) {statement : String} {last : List Exchange} {o : Outcome}
      (h : Ends statement last o) (rest : List String) :
      Course pending (passed.map (·.statement) ++ statement :: rest)
        (passed.flatMap (·.exchanges) ++ last) o

/-- What a run in the given mode exchanges with the engine for statements, and the outcome. -/
def Conversation (mode : Mode) (statements : List String) (xs : List Exchange) (o : Outcome) :
    Prop :=
  ∃ ys, xs = .setOption runtimeModeKey mode.optionValue :: ys ∧ Course [] statements ys o

/-! ## The engine's side -/

section Engines

variable {σ : Type} {E : Engine σ} {s s' : σ} {xs ys : List Exchange}

/-- Without exchanges an engine stays as it is. -/
@[simp] theorem converses_nil_iff : E.Converses s [] s' ↔ s' = s := by
  constructor
  · rintro ⟨⟩
    rfl
  · rintro rfl
    exact .nil s'

/-- The first exchange comes first. -/
@[simp] theorem converses_cons_iff {x : Exchange} :
    E.Converses s (x :: xs) s' ↔ ∃ s₁, E.Answers s x s₁ ∧ E.Converses s₁ xs s' := by
  constructor
  · rintro (_ | ⟨hx, hxs⟩)
    exact ⟨_, hx, hxs⟩
  · rintro ⟨s₁, hx, hxs⟩
    exact .cons hx hxs

/-- A single exchange is the answer to its call. -/
theorem converses_singleton_iff {x : Exchange} : E.Converses s [x] s' ↔ E.Answers s x s' := by
  simp

/-- Two exchanges are the answers to their calls in turn. -/
theorem converses_pair_iff {x y : Exchange} :
    E.Converses s [x, y] s' ↔ ∃ s₁, E.Answers s x s₁ ∧ E.Answers s₁ y s' := by
  simp

/-- Exchanges one after another are the first of them and then the others. -/
theorem converses_append_iff :
    E.Converses s (xs ++ ys) s' ↔ ∃ s₁, E.Converses s xs s₁ ∧ E.Converses s₁ ys s' := by
  induction xs generalizing s with
  | nil => simp
  | cons x xs ih =>
    simp only [List.cons_append, converses_cons_iff, ih]
    constructor
    · rintro ⟨s₁, hx, s₂, hxs, hys⟩
      exact ⟨s₂, ⟨s₁, hx, hxs⟩, hys⟩
    · rintro ⟨s₂, ⟨s₁, hx, hxs⟩, hys⟩
      exact ⟨s₁, hx, s₂, hxs, hys⟩

/-- The engine with a log gives the same answers, and its log grows by the call. -/
theorem recorded_answers {r : Recorded σ} {x : Exchange} (h : E.Answers r.state x s') :
    E.recorded.Answers r x ⟨s', x.call :: r.reversedCalls⟩ := by
  cases x with
  | setOption key value =>
    obtain rfl : E.setOption r.state key value = s' := h
    rfl
  | _ =>
    simp only [Engine.Answers] at h
    simp [Engine.Answers, Engine.recorded, Recorded.add, Exchange.call, h]

/-- The engine with a log takes part in the same conversations, and its log grows by the calls. -/
theorem recorded_converses {r : Recorded σ} (h : E.Converses r.state xs s') :
    E.recorded.Converses r xs ⟨s', (xs.map Exchange.call).reverse ++ r.reversedCalls⟩ := by
  induction xs generalizing r with
  | nil =>
    obtain rfl : s' = r.state := converses_nil_iff.mp h
    exact .nil r
  | cons x xs ih =>
    obtain ⟨s₁, hx, hxs⟩ := converses_cons_iff.mp h
    have htail := ih (r := ⟨s₁, x.call :: r.reversedCalls⟩) hxs
    refine converses_cons_iff.mpr ⟨_, recorded_answers hx, ?_⟩
    simpa using htail

end Engines

/-! ## The run's side -/

section Runs

variable {σ : Type} {E : Engine σ} {s s' : σ} {xs : List Exchange}

/-- What a step makes of the inserts put off so far, or how it ends the run, by its exchanges. -/
def StepResult.Fits (pending : PendingInserts) (statement : String) (xs : List Exchange) :
    StepResult → Prop
  | next p => ∃ new, Passes statement xs new ∧ p = ⟨pending.inserts ++ new⟩
  | plan text => Ends statement xs (.explainRequested statement text)
  | failed e => Ends statement xs (.aborted ⟨statement, e⟩)

/-- The plan in a result is its first field. -/
theorem planText_eq_ok {result : ExecutionResult} {v : Value} (h : result.firstValue? = some v)
    (hv : v.isNull = false) : planText result = .ok v.display := by
  simp [planText, h, hv]

/-- There is no plan in a result without a first field, or with one that is null. -/
theorem planText_eq_error {result : ExecutionResult}
    (h : ∀ v, result.firstValue? = some v → v.isNull = true) :
    planText result = .error ⟨.execution, "EXPLAIN returned no plan"⟩ := by
  cases hf : result.firstValue? with
  | none => simp [planText, hf]
  | some v => simp [planText, hf, h v hf]

/-- A step goes on after a statement that a run passes. -/
theorem step_of_passes {statement : String} {new : List Insert} (pending : PendingInserts)
    (hE : E.Converses s xs s') (h : Passes statement xs new) :
    E.step s pending statement = (s', .next ⟨pending.inserts ++ new⟩) := by
  cases h with
  | insert i =>
    have hp := converses_singleton_iff.mp hE
    simp only [Engine.Answers] at hp
    simp [Engine.step, hp, Engine.stepOperation, PendingInserts.push]
  | assignment h =>
    obtain ⟨s₁, hp, hs⟩ := converses_pair_iff.mp hE
    simp only [Engine.Answers] at hp hs
    simp [Engine.step, hp, Engine.stepOperation, h, hs]
  | incomplete h =>
    have hp := converses_singleton_iff.mp hE
    simp only [Engine.Answers] at hp
    simp [Engine.step, hp, Engine.stepOperation, h]
  | createTable sql result =>
    obtain ⟨s₁, hp, hs⟩ := converses_pair_iff.mp hE
    simp only [Engine.Answers] at hp hs
    simp [Engine.step, hp, Engine.stepOperation, Engine.stepExecute, hs]
  | other sql keyword result =>
    obtain ⟨s₁, hp, hs⟩ := converses_pair_iff.mp hE
    simp only [Engine.Answers] at hp hs
    simp [Engine.step, hp, Engine.stepOperation, Engine.stepExecute, hs]

/-- A step gives the plan that a statement ends a run with. -/
theorem step_of_plan {statement text : String} (pending : PendingInserts)
    (hE : E.Converses s xs s') (h : Ends statement xs (.explainRequested statement text)) :
    E.step s pending statement = (s', .plan text) := by
  cases h with
  | plan sql explained h hv =>
    obtain ⟨s₁, hp, hs⟩ := converses_pair_iff.mp hE
    simp only [Engine.Answers] at hp hs
    simp [Engine.step, hp, Engine.stepOperation, Engine.stepExplain, hs, planText_eq_ok h hv]

/-- A step fails in the way that a statement ends a run with. -/
theorem step_of_failure {statement : String} {e : Failure} (pending : PendingInserts)
    (hE : E.Converses s xs s') (h : Ends statement xs (.aborted ⟨statement, e⟩)) :
    E.step s pending statement = (s', .failed e) := by
  cases h with
  | unread e =>
    have hp := converses_singleton_iff.mp hE
    simp only [Engine.Answers] at hp
    simp [Engine.step, hp]
  | @failed operation h e =>
    obtain ⟨s₁, hp, hs⟩ := converses_pair_iff.mp hE
    simp only [Engine.Answers] at hp hs
    cases operation with
    | insert i => exact h.elim
    | setOption c => exact h.elim
    | explain sql explained =>
      simp [Engine.step, hp, Engine.stepOperation, Engine.stepExplain, hs]
    | createTable sql => simp [Engine.step, hp, Engine.stepOperation, Engine.stepExecute, hs]
    | other sql keyword => simp [Engine.step, hp, Engine.stepOperation, Engine.stepExecute, hs]
  | noPlan sql explained h =>
    obtain ⟨s₁, hp, hs⟩ := converses_pair_iff.mp hE
    simp only [Engine.Answers] at hp hs
    simp [Engine.step, hp, Engine.stepOperation, Engine.stepExplain, hs, planText_eq_error h]

/-- Exchanges that fit a result make a step have that result. -/
theorem step_eq_of_fits {pending : PendingInserts} {statement : String} {r : StepResult}
    (hE : E.Converses s xs s') (h : r.Fits pending statement xs) :
    E.step s pending statement = (s', r) := by
  cases r with
  | next p =>
    obtain ⟨new, hpass, rfl⟩ := h
    exact step_of_passes pending hE hpass
  | plan text => exact step_of_plan pending hE h
  | failed e => exact step_of_failure pending hE h

/-- For every statement the engine has exchanges that fit a result of the step. -/
theorem exists_fits (E : Engine σ) (s : σ) (pending : PendingInserts) (statement : String) :
    ∃ xs s' r, E.Converses s xs s' ∧ StepResult.Fits pending statement xs r := by
  rcases hp : E.parse s statement with ⟨s₁, e | operation⟩
  · have hparse : E.Answers s (.parse statement (.error e)) s₁ := hp
    exact ⟨_, s₁, .failed e, .cons hparse (.nil s₁), .unread e⟩
  have hparse : E.Answers s (.parse statement (.ok operation)) s₁ := hp
  -- What is executed at once either fails, which ends the run, or has a result.
  have hexec : (∃ s₂ e, E.Answers s₁ (.execute operation (.error e)) s₂) ∨
      ∃ s₂ result, E.Answers s₁ (.execute operation (.ok result)) s₂ := by
    rcases hx : E.executeImmediate s₁ operation with ⟨s₂, e | result⟩
    · exact .inl ⟨s₂, e, hx⟩
    · exact .inr ⟨s₂, result, hx⟩
  have hfail : operation.IsImmediate → ∀ s₂ e, E.Answers s₁ (.execute operation (.error e)) s₂ →
      ∃ xs s' r, E.Converses s xs s' ∧ StepResult.Fits pending statement xs r :=
    fun h s₂ e hx => ⟨_, s₂, .failed e, .cons hparse (.cons hx (.nil s₂)), .failed h e⟩
  cases operation with
  | insert i => exact ⟨_, s₁, .next _, .cons hparse (.nil s₁), [i], .insert i, rfl⟩
  | setOption c =>
    cases ha : c.assignment? with
    | none => exact ⟨_, s₁, .next _, .cons hparse (.nil s₁), [], .incomplete ha, rfl⟩
    | some pair =>
      obtain ⟨key, value⟩ := pair
      have hset : E.Answers s₁ (.setOption key value) (E.setOption s₁ key value) := rfl
      exact ⟨_, _, .next _, .cons hparse (.cons hset (.nil _)), [], .assignment ha, rfl⟩
  | explain sql explained =>
    rcases hexec with ⟨s₂, e, hx⟩ | ⟨s₂, result, hx⟩
    · exact hfail trivial s₂ e hx
    by_cases hv : ∃ v, result.firstValue? = some v ∧ v.isNull = false
    · obtain ⟨v, hf, hv⟩ := hv
      exact ⟨_, s₂, .plan v.display, .cons hparse (.cons hx (.nil s₂)), .plan sql explained hf hv⟩
    · have hnone : ∀ v, result.firstValue? = some v → v.isNull = true := by simpa using hv
      exact ⟨_, s₂, .failed _, .cons hparse (.cons hx (.nil s₂)), .noPlan sql explained hnone⟩
  | createTable sql =>
    rcases hexec with ⟨s₂, e, hx⟩ | ⟨s₂, result, hx⟩
    · exact hfail trivial s₂ e hx
    · exact ⟨_, s₂, .next _, .cons hparse (.cons hx (.nil s₂)), [], .createTable sql result, rfl⟩
  | other sql keyword =>
    rcases hexec with ⟨s₂, e, hx⟩ | ⟨s₂, result, hx⟩
    · exact hfail trivial s₂ e hx
    · exact ⟨_, s₂, .next _, .cons hparse (.cons hx (.nil s₂)), [], .other sql keyword result, rfl⟩

/-- The state and the result of a step are those that fit an exchange with the engine. -/
theorem step_eq_iff {pending : PendingInserts} {statement : String} {r : StepResult} :
    E.step s pending statement = (s', r) ↔
      ∃ xs, E.Converses s xs s' ∧ r.Fits pending statement xs := by
  constructor
  · intro h
    obtain ⟨xs, s₁, r₁, hE, hr⟩ := exists_fits E s pending statement
    have heq := step_eq_of_fits hE hr
    rw [h, Prod.mk.injEq] at heq
    obtain ⟨rfl, rfl⟩ := heq
    exact ⟨xs, hE, hr⟩
  · rintro ⟨xs, hE, hr⟩
    exact step_eq_of_fits hE hr

/-- The state and the outcome of the end of a run are those of submitting the inserts. -/
theorem flush_eq_iff {pending : PendingInserts} {o : Outcome} :
    E.flush s pending = (s', o) ↔
      ∃ xs, E.Converses s xs s' ∧ Flushes pending.inserts xs o := by
  obtain ⟨inserts⟩ := pending
  constructor
  · intro h
    unfold Engine.flush PendingInserts.isEmpty at h
    split_ifs at h with hempty
    · obtain ⟨rfl, rfl⟩ := Prod.mk.inj h
      exact ⟨[], .nil s, .nothing (List.isEmpty_iff.mp hempty)⟩
    · have hne : inserts ≠ [] := fun hnil => hempty (List.isEmpty_iff.mpr hnil)
      rcases hx : E.executeCombined s inserts with ⟨s₁, e | result⟩
      · rw [hx] at h
        obtain ⟨rfl, rfl⟩ := Prod.mk.inj h
        exact ⟨_, .cons (x := .combined inserts (.error e)) hx (.nil s₁), .refused hne e⟩
      · rw [hx] at h
        obtain ⟨rfl, rfl⟩ := Prod.mk.inj h
        exact ⟨_, .cons (x := .combined inserts (.ok result)) hx (.nil s₁), .submitted hne result⟩
  · rintro ⟨xs, hE, h⟩
    cases h with
    | nothing h =>
      obtain rfl : s' = s := converses_nil_iff.mp hE
      obtain rfl : inserts = [] := h
      rfl
    | submitted h result =>
      have hne : inserts ≠ [] := h
      have hp := converses_singleton_iff.mp hE
      simp only [Engine.Answers] at hp
      simp [Engine.flush, PendingInserts.isEmpty, hne, hp]
    | refused h e =>
      have hne : inserts ≠ [] := h
      have hp := converses_singleton_iff.mp hE
      simp only [Engine.Answers] at hp
      simp [Engine.flush, PendingInserts.isEmpty, hne, hp, PendingInserts.combinedSql]

/-- A statement that is passed comes before the statements of a course. -/
theorem Course.cons {pending new : List Insert} {statement : String} {rest : List String}
    {ys : List Exchange} {o : Outcome} (h : Passes statement xs new)
    (hc : Course (pending ++ new) rest ys o) :
    Course pending (statement :: rest) (xs ++ ys) o := by
  cases hc with
  | flushed passed h' =>
    have hcourse : Course pending _ _ _ :=
      .flushed (⟨statement, xs, new, h⟩ :: passed) (by simpa using h')
    simpa using hcourse
  | ended passed h' rest =>
    have hcourse : Course pending _ _ _ := .ended (⟨statement, xs, new, h⟩ :: passed) h' rest
    simpa using hcourse

/-- The course of no statement is to submit the inserts put off so far. -/
theorem course_nil_iff {pending : List Insert} {o : Outcome} :
    Course pending [] xs o ↔ Flushes pending xs o := by
  constructor
  · intro h
    -- The statements of a course come from its passages, so they are named for the case split.
    generalize hs : ([] : List String) = statements at h
    cases h with
    | flushed passed h =>
      obtain rfl : passed = [] := List.map_eq_nil_iff.mp hs.symm
      simpa using h
    | ended passed h rest => simp at hs
  · intro h
    exact .flushed [] (by simpa using h)

/-- The course of statements is that of the first, which ends the run or is passed before the
others. -/
theorem course_cons_iff {pending : List Insert} {statement : String} {rest : List String}
    {o : Outcome} :
    Course pending (statement :: rest) xs o ↔
      Ends statement xs o ∨ ∃ ys zs new, xs = ys ++ zs ∧ Passes statement ys new ∧
        Course (pending ++ new) rest zs o := by
  constructor
  · intro h
    generalize hs : statement :: rest = statements at h
    cases h with
    | @flushed passed last _ h =>
      cases passed with
      | nil => simp at hs
      | cons p passed =>
        obtain ⟨rfl, rfl⟩ := List.cons_eq_cons.mp hs
        refine .inr ⟨p.exchanges, passed.flatMap (·.exchanges) ++ last, p.inserts, ?_, p.passes, ?_⟩
        · simp
        · exact .flushed passed (by simpa using h)
    | @ended passed _ last _ h rest =>
      cases passed with
      | nil =>
        obtain ⟨rfl, rfl⟩ := List.cons_eq_cons.mp hs
        exact .inl (by simpa using h)
      | cons p passed =>
        obtain ⟨rfl, rfl⟩ := List.cons_eq_cons.mp hs
        refine .inr ⟨p.exchanges, passed.flatMap (·.exchanges) ++ last, p.inserts, ?_, p.passes, ?_⟩
        · simp
        · exact .ended passed h rest
  · rintro (h | ⟨ys, zs, new, rfl, h, hc⟩)
    · exact .ended [] h rest
    · exact hc.cons h

/-- A statement ends a run in the way that a step does. -/
theorem ends_iff (pending : PendingInserts) {statement : String} {o : Outcome} :
    Ends statement xs o ↔
      (∃ text, o = .explainRequested statement text ∧
        (StepResult.plan text).Fits pending statement xs) ∨
      ∃ e, o = .aborted ⟨statement, e⟩ ∧ (StepResult.failed e).Fits pending statement xs := by
  constructor
  · intro h
    cases h with
    | plan sql explained h hv => exact .inl ⟨_, rfl, .plan sql explained h hv⟩
    | unread e => exact .inr ⟨_, rfl, .unread e⟩
    | failed h e => exact .inr ⟨_, rfl, .failed h e⟩
    | noPlan sql explained h => exact .inr ⟨_, rfl, .noPlan sql explained h⟩
  · rintro (⟨text, rfl, h⟩ | ⟨e, rfl, h⟩)
    · exact h
    · exact h

/-- The state and the outcome of a run from some point on are those of the course that the engine
takes part in. -/
theorem runFrom_eq_iff {pending : PendingInserts} {statements : List String} {o : Outcome} :
    E.runFrom s pending statements = (s', o) ↔
      ∃ xs, E.Converses s xs s' ∧ Course pending.inserts statements xs o := by
  -- The inserts that are put off grow with the statements, so both sides hold for any of them.
  induction statements generalizing s pending with
  | nil =>
    simp only [course_nil_iff]
    exact flush_eq_iff
  | cons statement rest ih =>
    constructor
    · intro h
      rcases hstep : E.step s pending statement with ⟨s₁, r⟩
      obtain ⟨ys, hE, hr⟩ := step_eq_iff.mp hstep
      rw [Engine.runFrom, hstep] at h
      cases r with
      | next p =>
        obtain ⟨new, hpass, rfl⟩ := hr
        obtain ⟨zs, hE', hc⟩ := ih.mp h
        exact ⟨ys ++ zs, converses_append_iff.mpr ⟨s₁, hE, hE'⟩, hc.cons hpass⟩
      | plan text =>
        obtain ⟨rfl, rfl⟩ := Prod.mk.inj h
        exact ⟨ys, hE, course_cons_iff.mpr (.inl hr)⟩
      | failed e =>
        obtain ⟨rfl, rfl⟩ := Prod.mk.inj h
        exact ⟨ys, hE, course_cons_iff.mpr (.inl hr)⟩
    · rintro ⟨xs, hE, hc⟩
      rcases course_cons_iff.mp hc with hend | ⟨ys, zs, new, rfl, hpass, hc⟩
      · rcases (ends_iff pending).mp hend with ⟨text, rfl, hr⟩ | ⟨e, rfl, hr⟩
        · rw [Engine.runFrom, step_eq_of_fits hE hr]
        · rw [Engine.runFrom, step_eq_of_fits hE hr]
      · obtain ⟨s₁, hys, hzs⟩ := converses_append_iff.mp hE
        have hr : StepResult.Fits pending statement ys (.next ⟨pending.inserts ++ new⟩) :=
          ⟨new, hpass, rfl⟩
        rw [Engine.runFrom, step_eq_of_fits hys hr]
        exact ih.mpr ⟨zs, hzs, hc⟩

/-- A run that has passed some statements goes on with the others, in the state that these
exchanges left and with their inserts put off. -/
theorem runFrom_passages {passed : List Passage}
    (h : E.Converses s (passed.flatMap (·.exchanges)) s') (pending : PendingInserts)
    (rest : List String) :
    E.runFrom s pending (passed.map (·.statement) ++ rest) =
      E.runFrom s' ⟨pending.inserts ++ passed.flatMap (·.inserts)⟩ rest := by
  induction passed generalizing s pending with
  | nil =>
    obtain rfl : s' = s := converses_nil_iff.mp h
    simp
  | cons p passed ih =>
    obtain ⟨s₁, hp, hpassed⟩ := converses_append_iff.mp h
    rw [List.map_cons, List.cons_append, Engine.runFrom, step_of_passes pending hp p.passes]
    simp only
    rw [ih hpassed, List.flatMap_cons, List.append_assoc]

/-- The state and the outcome of a run are those of the conversation that the engine takes part
in. -/
theorem run_eq_iff {statements : List String} {mode : Mode} {o : Outcome} :
    E.run s statements mode = (s', o) ↔
      ∃ xs, E.Converses s xs s' ∧ Conversation mode statements xs o := by
  unfold Engine.run
  rw [runFrom_eq_iff]
  constructor
  · rintro ⟨xs, hE, hc⟩
    exact ⟨_, .cons (x := .setOption runtimeModeKey mode.optionValue) rfl hE, xs, rfl, hc⟩
  · rintro ⟨_, hE, xs, rfl, hc⟩
    obtain ⟨s₁, rfl, hE⟩ := converses_cons_iff.mp hE
    exact ⟨xs, hE, hc⟩

/-- A run that completes with a result has passed all statements, and the result is that of
submitting the inserts that they put off. -/
theorem exists_passages_of_completed {statements : List String} {mode : Mode}
    {result : ExecutionResult} (h : (E.run s statements mode).2 = .completed (some result)) :
    ∃ (passed : List Passage) (s₁ : σ), passed.map (·.statement) = statements ∧
      E.Converses s
        (.setOption runtimeModeKey mode.optionValue :: passed.flatMap (·.exchanges)) s₁ ∧
      E.executeCombined s₁ (passed.flatMap (·.inserts)) =
        ((E.run s statements mode).1, .ok result) := by
  rcases hrun : E.run s statements mode with ⟨s', o⟩
  obtain rfl : o = .completed (some result) := by rw [← h, hrun]
  obtain ⟨xs, hxs, ys, rfl, hcourse⟩ := run_eq_iff.mp hrun
  obtain ⟨s₁, hset, hys⟩ := converses_cons_iff.mp hxs
  cases hcourse with
  | flushed passed hflush =>
    -- Only a submission has a result, and it follows all statements.
    obtain ⟨s₂, hpassed, hlast⟩ := converses_append_iff.mp hys
    cases hflush with
    | submitted hne result =>
      exact ⟨passed, s₂, rfl, .cons hset hpassed, converses_singleton_iff.mp hlast⟩
  | ended passed hend rest => cases hend

end Runs

/-- The calls, the last state and the outcome of a run are those of the conversation that the engine
takes part in, whatever the engine answers. -/
theorem run_calls_iff {σ : Type} (E : Engine σ) (s s' : σ) (statements : List String) (mode : Mode)
    (calls : List Call) (o : Outcome) :
    E.run s statements mode = (s', o) ∧ (E.recorded.run ⟨s, []⟩ statements mode).1.calls = calls ↔
      ∃ xs, xs.map Exchange.call = calls ∧ E.Converses s xs s' ∧
        Conversation mode statements xs o := by
  have hlog : ∀ xs, E.Converses s xs s' → Conversation mode statements xs o →
      (E.recorded.run ⟨s, []⟩ statements mode).1.calls = xs.map Exchange.call := by
    intro xs hE hc
    rw [run_eq_iff.mpr ⟨xs, recorded_converses (r := ⟨s, []⟩) hE, hc⟩]
    simp [Recorded.calls]
  constructor
  · rintro ⟨hrun, rfl⟩
    obtain ⟨xs, hE, hc⟩ := run_eq_iff.mp hrun
    exact ⟨xs, (hlog xs hE hc).symm, hE, hc⟩
  · rintro ⟨xs, rfl, hE, hc⟩
    exact ⟨run_eq_iff.mpr ⟨xs, hE, hc⟩, hlog xs hE hc⟩

end SqlJob
