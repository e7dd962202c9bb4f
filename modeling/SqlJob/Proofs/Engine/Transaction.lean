import SqlJob.Engine.Connected
import SqlJob.Proofs.Run.Conversation

/-!
# What a run does to the database

The inserts of a script are one transaction: all of them are in the database at the end of a run
that completes, one after another in the order of the script, and none of them after any other run.
The statements that were executed at once are there in both cases (`run_contents`).

What the database itself does is not known here. `Backend.Transactional` states what is needed of
it: a statement that fails leaves the contents as they were, to begin and to commit changes nothing
that can be seen, and going back undoes the inserts that were executed since the transaction began.
To begin, to execute an insert and to commit may each fail. This is asked for the statements of the
run alone, each of which is to be one statement for the database as well: a text that ends the
transaction of its own accord cannot be undone. A database that keeps a copy of itself while a
transaction is open meets it for any statements (`Snapshot.transactional`).

The proof follows the conversation of the run. Each statement that is passed changes the database by
what was executed for it (`passages_database`), the one that ends a run changes it no more than by
what succeeded (`ends_contents`), and the inserts are submitted as a whole (`flushes_contents`). The
last of these rests on what a transaction that fails has done before: it has executed some of the
inserts, and either the next one failed (`writeAll_error`) or to commit did.
-/

namespace SqlJob

/-- Some reader of statements reads one of the statements as the operation. -/
def Operation.IsReadFrom (statements : List String) (o : Operation) : Prop :=
  ∃ (r : StatementReader), ∃ statement ∈ statements, r.read statement = .ok o

variable {δ κ : Type} (B : Backend δ)

/-- What is read from statements is read from more of them. -/
theorem Operation.IsReadFrom.mono {statements others : List String} {o : Operation}
    (h : o.IsReadFrom statements) (hsub : statements ⊆ others) : o.IsReadFrom others := by
  obtain ⟨r, statement, hmem, hread⟩ := h
  exact ⟨r, statement, hsub hmem, hread⟩

/-! ## What a database promises -/

/-- Texts are executed one after another, each with success in the state that those before it
left. -/
inductive Backend.Executes : δ → List String → δ → Prop
  | nil (d : δ) : Executes d [] d
  | cons {d d₁ d₂ : δ} {text : String} {texts : List String} {n : UInt64}
      (head : B.execute d text = (d₁, .ok n)) (tail : Executes d₁ texts d₂) :
      Executes d (text :: texts) d₂

/-- A transaction that began in the state `d` fails: some inserts among the statements were executed
in it, and then another one fails, or to commit does. -/
inductive Backend.FailsWithin (statements : List String) (d : δ) : δ → Prop
  | insert {written : List Insert} {i : Insert} {d₁ d₂ : δ} {x : BackendFailure}
      (hr : ∀ j ∈ written, (Operation.insert j).IsReadFrom statements) (hi : (Operation.insert i).IsReadFrom statements)
      (hw : B.Executes d (written.map (·.sql)) d₁) (hx : B.execute d₁ i.sql = (d₂, .error x)) :
      FailsWithin statements d d₂
  | commit {written : List Insert} {d₁ d₂ : δ} {x : BackendFailure}
      (hr : ∀ j ∈ written, (Operation.insert j).IsReadFrom statements)
      (hw : B.Executes d (written.map (·.sql)) d₁) (hc : B.commit d₁ = (d₂, .error x)) :
      FailsWithin statements d d₂

/-- What an engine relies on a database for in a run of the statements, where `contents` is what
statements see of it. -/
structure Backend.Transactional (contents : δ → κ) (statements : List String) : Prop where
  /-- A statement that fails leaves the contents as they were. -/
  execute_error : ∀ {d d' : δ} {o : Operation} {x : BackendFailure}, o.IsReadFrom statements →
    B.execute d o.sql = (d', .error x) → contents d' = contents d
  /-- A statement that asks for rows and fails leaves the contents as they were. -/
  query_error : ∀ {d d' : δ} {o : Operation} {x : BackendFailure}, o.IsReadFrom statements →
    B.query d o.sql = (d', .error x) → contents d' = contents d
  /-- A request for a plan that fails leaves the contents as they were. -/
  plan_error : ∀ {d d' : δ} {sql explained : String} {x : BackendFailure},
    (Operation.explain sql explained).IsReadFrom statements →
    B.plan d explained = (d', .error x) → contents d' = contents d
  /-- To begin a transaction changes nothing that can be seen, nor does failing to begin one. -/
  begin_keeps : ∀ {d d' : δ} {a : Except BackendFailure Unit},
    B.begin d = (d', a) → contents d' = contents d
  /-- To commit changes nothing that can be seen. -/
  commit_keeps : ∀ {d d' : δ}, B.commit d = (d', .ok ()) → contents d' = contents d
  /-- Going back gives the contents that were there when the transaction began. -/
  rollBack_restores : ∀ {d d₁ d₂ : δ}, B.begin d = (d₁, .ok ()) →
    B.FailsWithin statements d₁ d₂ → contents (B.rollBack d₂) = contents d

/-- The contents of `d'` are those of `d` with the writes of the inserts, one after another. -/
def Backend.Writes (contents : δ → κ) (d : δ) (inserts : List Insert) (d' : δ) : Prop :=
  ∃ d₁ d₂, contents d₁ = contents d ∧ B.Executes d₁ (inserts.map (·.sql)) d₂ ∧
    contents d' = contents d₂

/-- The database after an operation was executed at once. -/
def Backend.after (d : δ) : Operation → δ
  | .explain _ explained => (B.plan d explained).1
  | .createTable sql => (B.execute d sql).1
  | .other sql keyword =>
    if keyword ∈ queryKeywords then (B.query d sql).1 else (B.execute d sql).1
  | .insert i => (B.execute d i.sql).1
  | .setOption _ => d

/-- Inserts are executed one after another with success, each in the state that those before it
left, and the database answers these counts of rows. -/
inductive Backend.Counts : δ → List Insert → List UInt64 → δ → Prop
  | nil (d : δ) : Counts d [] [] d
  | cons {d d₁ d₂ : δ} {i : Insert} {inserts : List Insert} {n : UInt64} {counts : List UInt64}
      (head : B.execute d i.sql = (d₁, .ok n)) (tail : Counts d₁ inserts counts d₂) :
      Counts d (i :: inserts) (n :: counts) d₂

/-- Each insert is counted. -/
theorem Backend.Counts.length_eq {B : Backend δ} {d d' : δ} {inserts : List Insert}
    {counts : List UInt64} (h : B.Counts d inserts counts d') : counts.length = inserts.length := by
  induction h with
  | nil d => rfl
  | cons head tail ih => simp [ih]

/-- To count the rows of inserts is to execute their texts. -/
theorem Backend.Counts.executes {B : Backend δ} {d d' : δ} {inserts : List Insert}
    {counts : List UInt64} (h : B.Counts d inserts counts d') :
    B.Executes d (inserts.map (·.sql)) d' := by
  induction h with
  | nil d => exact .nil d
  | cons head tail ih => exact .cons head ih

/-- The sink of an insert that wrote so many rows. -/
def Insert.sink (i : Insert) (n : UInt64) : SinkWrite :=
  ⟨i.target, n⟩

/-! ## A database that keeps its promises -/

/-- A database that keeps a copy of what it held when the open transaction began. -/
structure Snapshot (κ : Type) where
  current : κ
  kept : Option κ := none

namespace Snapshot

variable {κ : Type} (f : κ → String → Except BackendFailure (κ × UInt64))

/-- The database in which texts do what `f` says. Rows and plans are none. -/
def backend : Backend (Snapshot κ) where
  execute d text :=
    match f d.current text with
    | .ok (c, n) => ({ d with current := c }, .ok n)
    | .error x => (d, .error x)
  query d _ := (d, .ok ([], []))
  plan d _ := (d, .ok [])
  begin d :=
    match d.kept with
    | none => ({ d with kept := some d.current }, .ok ())
    | some _ => (d, .error ⟨"cannot start a transaction within a transaction", ""⟩)
  commit d := ({ d with kept := none }, .ok ())
  rollBack d := ⟨d.kept.getD d.current, none⟩

variable {f}

/-- To execute a text does not change the copy. -/
theorem kept_execute {d d' : Snapshot κ} {text : String} {a : Except BackendFailure UInt64}
    (h : (backend f).execute d text = (d', a)) : d'.kept = d.kept := by
  simp only [backend] at h
  split at h
  · rw [← (Prod.mk.inj h).1]
  · rw [← (Prod.mk.inj h).1]

/-- To execute texts does not change the copy. -/
theorem kept_executes {d d' : Snapshot κ} {texts : List String}
    (h : (backend f).Executes d texts d') : d'.kept = d.kept := by
  induction h with
  | nil d => rfl
  | cons head tail ih => rw [ih, kept_execute head]

variable (f) in
/-- A database that keeps a copy goes back as an engine relies on it to do. -/
theorem transactional (statements : List String) :
    (backend f).Transactional Snapshot.current statements where
  execute_error {d d' o x} ho h := by
    simp only [backend] at h
    split at h
    · simp at h
    · rw [← (Prod.mk.inj h).1]
  query_error ho h := by simp [backend] at h
  plan_error ho h := by simp [backend] at h
  begin_keeps {d d' a} h := by
    simp only [backend] at h
    split at h
    · rw [← (Prod.mk.inj h).1]
    · rw [← (Prod.mk.inj h).1]
  commit_keeps {d d'} h := by rw [← (Prod.mk.inj h).1]
  rollBack_restores {d d₁ d₂} hb h := by
    have hkept : d₁.kept = some d.current := by
      simp only [backend] at hb
      split at hb
      · rw [← (Prod.mk.inj hb).1]
      · simp at hb
    have hlast : d₂.kept = d₁.kept := by
      cases h with
      | insert hr hi hw hx => rw [kept_execute hx, kept_executes hw]
      -- To commit does not fail here, so it is an insert that does.
      | commit hr hw hc => simp [backend] at hc
    simp [backend, hlast, hkept]

end Snapshot

/-! ## What a conversation holds -/

namespace Operation

/-- The insert that an operation is. -/
def insert? : Operation → Option Insert
  | insert i => some i
  | _ => none

/-- The operation, if it is one that is executed at once. -/
def immediate? : Operation → Option Operation
  | insert _ => none
  | setOption _ => none
  | explain sql explained => some (.explain sql explained)
  | createTable sql => some (.createTable sql)
  | other sql keyword => some (.other sql keyword)

end Operation

namespace Exchange

/-- The operation that a statement was read as. -/
def operation? : Exchange → Option Operation
  | parse _ (.ok operation) => some operation
  | _ => none

/-- The operation that was executed at once with success. -/
def executed? : Exchange → Option Operation
  | execute operation (.ok _) => some operation
  | _ => none

/-- The insert that a statement was read as. -/
def insert? : Exchange → Option Insert
  | parse _ (.ok (.insert i)) => some i
  | _ => none

end Exchange

/-- The inserts of exchanges are those among the operations that statements were read as. -/
theorem filterMap_insert?_exchanges (xs : List Exchange) :
    (xs.filterMap Exchange.operation?).filterMap Operation.insert? =
      xs.filterMap Exchange.insert? := by
  rw [List.filterMap_filterMap]
  congr 1
  funext x
  cases x with
  | parse statement answer =>
    rcases answer with e | operation
    · rfl
    · cases operation <;> rfl
  | _ => rfl

/-- The inserts that a run puts off are those that its statements were read as. -/
theorem Passes.filterMap_insert? {statement : String} {xs : List Exchange} {new : List Insert}
    (h : Passes statement xs new) : xs.filterMap Exchange.insert? = new := by
  cases h <;> rfl

/-- The inserts that a run puts off for statements that it passes are those that they were read
as. -/
theorem passages_inserts (passed : List Passage) :
    (passed.flatMap (·.exchanges)).filterMap Exchange.insert? = passed.flatMap (·.inserts) := by
  rw [List.filterMap_flatMap]
  congr 1
  funext p
  exact p.passes.filterMap_insert?

/-- What was executed at once for a statement that a run passes is what it was read as. -/
theorem Passes.filterMap_executed? {statement : String} {xs : List Exchange} {new : List Insert}
    (h : Passes statement xs new) : xs.filterMap Exchange.executed? =
      (xs.filterMap Exchange.operation?).filterMap Operation.immediate? := by
  cases h <;> rfl

/-- What was executed at once for statements that a run passes is what they were read as. -/
theorem passages_executed (passed : List Passage) :
    (passed.flatMap (·.exchanges)).filterMap Exchange.executed? =
      ((passed.flatMap (·.exchanges)).filterMap Exchange.operation?).filterMap
        Operation.immediate? := by
  rw [List.filterMap_flatMap, List.filterMap_flatMap, List.filterMap_flatMap]
  congr 1
  funext p
  exact p.passes.filterMap_executed?

/-- Nothing is executed at once when the inserts are submitted. -/
theorem Flushes.filterMap_executed? {inserts : List Insert} {xs : List Exchange} {o : Outcome}
    (h : Flushes inserts xs o) : xs.filterMap Exchange.executed? = [] := by
  cases h <;> rfl

/-- No statement is read when the inserts are submitted. -/
theorem Flushes.filterMap_insert? {inserts : List Insert} {xs : List Exchange} {o : Outcome}
    (h : Flushes inserts xs o) : xs.filterMap Exchange.insert? = [] := by
  cases h <;> rfl

namespace ConnectedEngine

variable {B} {contents : δ → κ} {statements : List String} {e e' : ConnectedEngine δ}

/-! ## Immediate execution -/

/-- An immediate execution that succeeds was done in the database. -/
theorem immediate_run_ok {α : Type} {f : α → ExecutionResult}
    {g : δ → δ × Except BackendFailure α} {result : ExecutionResult}
    (h : immediate f (e.run g) = (e', .ok result)) :
    e' = { e with database := (g e.database).1 } := by
  unfold run immediate at h
  split_ifs at h with hclosed
  · simp at h
  · rcases hg : g e.database with ⟨d, x | a⟩
    · simp [hg] at h
    · simp only [hg, Prod.mk.injEq] at h
      exact h.1.symm

/-- An immediate execution that fails leaves the contents as they were, if what it does in the
database does so when it fails. -/
theorem contents_immediate_run_error {α : Type} {f : α → ExecutionResult}
    {g : δ → δ × Except BackendFailure α} {x : Failure}
    (hg : ∀ d y, g e.database = (d, .error y) → contents d = contents e.database)
    (h : immediate f (e.run g) = (e', .error x)) : contents e'.database = contents e.database := by
  unfold run immediate at h
  split_ifs at h with hclosed
  · rw [← (Prod.mk.inj h).1]
  · rcases hd : g e.database with ⟨d, y | a⟩
    · simp only [hd, Prod.mk.injEq] at h
      rw [← h.1]
      exact hg d y hd
    · simp [hd] at h

/-- An operation that is executed with success changes the database alone. -/
theorem executeImmediate_ok {o : Operation} {result : ExecutionResult}
    (h : executeImmediate B e o = (e', .ok result)) :
    e' = { e with database := B.after e.database o } := by
  cases o with
  | insert i => exact immediate_run_ok h
  | setOption c => simp [executeImmediate] at h
  | explain sql explained => exact immediate_run_ok h
  | createTable sql => exact immediate_run_ok h
  | other sql keyword =>
    simp only [executeImmediate] at h
    simp only [Backend.after]
    split_ifs at h ⊢ with hk
    · exact immediate_run_ok h
    · exact immediate_run_ok h

/-- An operation that fails leaves the contents of the database as they were. -/
theorem contents_executeImmediate_error (hB : B.Transactional contents statements) {o : Operation}
    (ho : o.IsReadFrom statements) {x : Failure} (h : executeImmediate B e o = (e', .error x)) :
    contents e'.database = contents e.database := by
  cases o with
  | insert i => exact contents_immediate_run_error (fun _ _ => hB.execute_error ho) h
  | setOption c =>
    simp only [executeImmediate, Prod.mk.injEq] at h
    rw [h.1]
  | explain sql explained => exact contents_immediate_run_error (fun _ _ => hB.plan_error ho) h
  | createTable sql => exact contents_immediate_run_error (fun _ _ => hB.execute_error ho) h
  | other sql keyword =>
    simp only [executeImmediate] at h
    split_ifs at h with hk
    · exact contents_immediate_run_error (fun _ _ => hB.query_error ho) h
    · exact contents_immediate_run_error (fun _ _ => hB.execute_error ho) h

/-! ## Submission -/

/-- Inserts that are all executed with success have their counts as sinks. -/
theorem exists_counts_of_writeAll {inserts : List Insert} {d d' : δ} {sinks : List SinkWrite}
    (h : writeAll B d inserts = (d', .ok sinks)) :
    ∃ counts, B.Counts d inserts counts d' ∧
      sinks = List.zipWith Insert.sink inserts counts := by
  induction inserts generalizing d sinks with
  | nil =>
    obtain ⟨rfl, hsinks⟩ := Prod.mk.inj h
    obtain rfl : [] = sinks := by simpa using hsinks
    exact ⟨[], .nil d, rfl⟩
  | cons i inserts ih =>
    rcases hx : B.execute d i.sql with ⟨d₁, x | n⟩
    · simp [writeAll, hx] at h
    · rcases hw : writeAll B d₁ inserts with ⟨d₂, x | rest⟩
      · simp [writeAll, hx, hw] at h
      · simp only [writeAll, hx, hw, Prod.mk.injEq, Except.ok.injEq] at h
        obtain ⟨rfl, rfl⟩ := h
        obtain ⟨counts, hcounts, rfl⟩ := ih hw
        exact ⟨n :: counts, .cons hx hcounts, rfl⟩

/-- Inserts that are all executed with success were executed one after another. -/
theorem writeAll_ok {inserts : List Insert} {d d' : δ} {sinks : List SinkWrite}
    (h : writeAll B d inserts = (d', .ok sinks)) : B.Executes d (inserts.map (·.sql)) d' := by
  obtain ⟨counts, hcounts, -⟩ := exists_counts_of_writeAll h
  exact hcounts.executes

/-- If not all inserts are executed with success, then those before some insert are, and that one
fails. -/
theorem writeAll_error {inserts : List Insert} {d d' : δ} {x : Failure}
    (h : writeAll B d inserts = (d', .error x)) :
    ∃ written i rest d₁ y, inserts = written ++ i :: rest ∧
      B.Executes d (written.map (·.sql)) d₁ ∧ B.execute d₁ i.sql = (d', .error y) := by
  induction inserts generalizing d x with
  | nil => simp [writeAll] at h
  | cons i inserts ih =>
    rcases hx : B.execute d i.sql with ⟨d₁, y | n⟩
    · simp only [writeAll, hx, Prod.mk.injEq] at h
      obtain ⟨rfl, -⟩ := h
      exact ⟨[], i, inserts, d, y, rfl, .nil d, hx⟩
    · rcases hw : writeAll B d₁ inserts with ⟨d₂, y | sinks⟩
      · simp only [writeAll, hx, hw, Prod.mk.injEq] at h
        obtain ⟨rfl, -⟩ := h
        obtain ⟨written, j, rest, d₃, z, rfl, hwritten, hj⟩ := ih hw
        exact ⟨i :: written, j, rest, d₃, z, rfl, .cons hx hwritten, hj⟩
      · simp [writeAll, hx, hw] at h

/-- A transaction of inserts that fails, at whatever point, leaves the contents as they were. -/
theorem submit_error (hB : B.Transactional contents statements) {inserts : List Insert}
    (hr : ∀ i ∈ inserts, (Operation.insert i).IsReadFrom statements) {d d' : δ} {x : Failure}
    (h : submit B d inserts = (d', .error x)) : contents d' = contents d := by
  rcases hb : B.begin d with ⟨d₁, y | ⟨⟩⟩
  · simp only [submit, hb, Prod.mk.injEq] at h
    rw [← h.1]
    exact hB.begin_keeps hb
  rcases hw : writeAll B d₁ inserts with ⟨d₂, y | sinks⟩
  · simp only [submit, hb, hw, Prod.mk.injEq] at h
    rw [← h.1]
    obtain ⟨written, i, rest, d₃, z, rfl, hwritten, hx⟩ := writeAll_error hw
    obtain ⟨hrwritten, hrrest⟩ := List.forall_mem_append.mp hr
    have hri := (List.forall_mem_cons.mp hrrest).1
    exact hB.rollBack_restores hb (.insert hrwritten hri hwritten hx)
  · rcases hc : B.commit d₂ with ⟨d₃, y | ⟨⟩⟩
    · simp only [submit, hb, hw, hc, Prod.mk.injEq] at h
      rw [← h.1]
      exact hB.rollBack_restores hb (.commit hr (writeAll_ok hw) hc)
    · simp [submit, hb, hw, hc] at h

/-- A job that succeeds is a transaction that begins, executes its inserts and commits. -/
theorem executeCombined_eq_ok {inserts : List Insert} {result : ExecutionResult}
    (h : executeCombined B e inserts = (e', .ok result)) :
    ∃ d₁ d₂ counts, B.begin e.database = (d₁, .ok ()) ∧ B.Counts d₁ inserts counts d₂ ∧
      B.commit d₂ = (e'.database, .ok ()) ∧
      result = .ofJob (e.jobSummary inserts
        (List.zipWith Insert.sink inserts counts)) := by
  unfold executeCombined submit at h
  split_ifs at h with hclosed
  · simp at h
  rcases hb : B.begin e.database with ⟨d₁, x | ⟨⟩⟩
  · simp [hb] at h
  rcases hw : writeAll B d₁ inserts with ⟨d₂, x | sinks⟩
  · simp [hb, hw] at h
  rcases hc : B.commit d₂ with ⟨d₃, x | ⟨⟩⟩
  · simp [hb, hw, hc] at h
  simp only [hb, hw, hc, Prod.mk.injEq, Except.ok.injEq] at h
  obtain ⟨rfl, rfl⟩ := h
  obtain ⟨counts, hcounts, rfl⟩ := exists_counts_of_writeAll hw
  exact ⟨d₁, d₂, counts, rfl, hcounts, hc, rfl⟩

/-- A job that succeeds writes all its inserts. -/
theorem executeCombined_ok (hB : B.Transactional contents statements) {inserts : List Insert}
    {result : ExecutionResult} (h : executeCombined B e inserts = (e', .ok result)) :
    B.Writes contents e.database inserts e'.database := by
  obtain ⟨d₁, d₂, counts, hbegin, hcounts, hcommit, -⟩ := executeCombined_eq_ok h
  exact ⟨d₁, d₂, hB.begin_keeps hbegin, hcounts.executes, hB.commit_keeps hcommit⟩

/-- A job that fails leaves the contents of the database as they were. -/
theorem executeCombined_error (hB : B.Transactional contents statements) {inserts : List Insert}
    (hr : ∀ i ∈ inserts, (Operation.insert i).IsReadFrom statements) {x : Failure}
    (h : executeCombined B e inserts = (e', .error x)) :
    contents e'.database = contents e.database := by
  unfold executeCombined at h
  split_ifs at h with hclosed
  · obtain ⟨rfl, -⟩ := Prod.mk.inj h
    rfl
  rcases hs : submit B e.database inserts with ⟨d, y | sinks⟩
  · simp only [hs, Prod.mk.injEq] at h
    obtain ⟨rfl, -⟩ := h
    exact submit_error hB hr hs
  · simp [hs] at h

/-- A job leaves the options of the session as they are. -/
theorem options_executeCombined (B : Backend δ) (e : ConnectedEngine δ) (inserts : List Insert) :
    (executeCombined B e inserts).1.options = e.options := by
  unfold executeCombined
  split_ifs
  · rfl
  · rcases submit B e.database inserts with ⟨d, x | sinks⟩ <;> rfl

/-! ## Conversations with the engine -/

/-- To read a statement leaves the engine as it is, and what is read comes of some reader. -/
theorem parse_answers {statement : String} {answer : Except Failure Operation}
    (h : (engine B).Answers e (.parse statement answer) e') :
    e' = e ∧ ∀ o, answer = .ok o → o.IsReadFrom [statement] := by
  obtain ⟨rfl, hread⟩ := Prod.mk.inj h
  refine ⟨rfl, ?_⟩
  rintro o rfl
  cases hr : e.activeReader with
  | error x => simp [hr, Except.bind] at hread
  | ok r =>
    exact ⟨r, statement, List.mem_singleton_self _, by simpa [hr, Except.bind] using hread⟩

/-- What is exchanged after a statement was read starts in the same state of the engine. -/
theorem converses_of_parse {statement : String} {answer : Except Failure Operation}
    {xs : List Exchange} (h : (engine B).Converses e (.parse statement answer :: xs) e') :
    (engine B).Converses e xs e' ∧ ∀ o, answer = .ok o → o.IsReadFrom [statement] := by
  obtain ⟨e₁, hp, hxs⟩ := converses_cons_iff.mp h
  obtain ⟨rfl, hread⟩ := parse_answers hp
  exact ⟨hxs, hread⟩

/-- An insert that a run puts off for a statement is read from it. -/
theorem passes_isReadFrom {statement : String} {xs : List Exchange} {new : List Insert}
    (h : Passes statement xs new) (hE : (engine B).Converses e xs e') {i : Insert} (hi : i ∈ new) :
    (Operation.insert i).IsReadFrom [statement] := by
  cases h with
  | insert j =>
    obtain rfl := List.mem_singleton.mp hi
    exact (converses_of_parse hE).2 _ rfl
  | _ => cases hi

/-- The inserts that a run puts off for statements that it passes are read from these. -/
theorem passages_isReadFrom {passed : List Passage}
    (hE : (engine B).Converses e (passed.flatMap (·.exchanges)) e') {i : Insert}
    (hi : i ∈ passed.flatMap (·.inserts)) :
    (Operation.insert i).IsReadFrom (passed.map (·.statement)) := by
  induction passed generalizing e with
  | nil => cases hi
  | cons p passed ih =>
    rw [List.flatMap_cons] at hE hi
    obtain ⟨e₁, hp, hpassed⟩ := converses_append_iff.mp hE
    rcases List.mem_append.mp hi with hi | hi
    · exact (passes_isReadFrom p.passes hp hi).mono (by simp)
    · exact (ih hpassed hi).mono (by simp)

/-- An operation that is executed with success changes the database by itself. -/
theorem database_of_execute {o : Operation} {result : ExecutionResult}
    (h : (engine B).Converses e [.execute o (.ok result)] e') :
    e'.database = B.after e.database o := by
  rw [executeImmediate_ok (converses_singleton_iff.mp h)]

/-- A statement that a run passes changes the database by what is executed for it. -/
theorem passes_database {statement : String} {xs : List Exchange} {new : List Insert}
    (h : Passes statement xs new) (hE : (engine B).Converses e xs e') :
    e'.database = (xs.filterMap Exchange.executed?).foldl B.after e.database := by
  cases h with
  | insert i =>
    obtain rfl := converses_nil_iff.mp (converses_of_parse hE).1
    rfl
  | incomplete h =>
    obtain rfl := converses_nil_iff.mp (converses_of_parse hE).1
    rfl
  | assignment h =>
    obtain rfl := converses_singleton_iff.mp (converses_of_parse hE).1
    rfl
  | createTable sql result => exact database_of_execute (converses_of_parse hE).1
  | other sql keyword result => exact database_of_execute (converses_of_parse hE).1

/-- Statements that a run passes change the database by what is executed for them. -/
theorem passages_database {passed : List Passage}
    (hE : (engine B).Converses e (passed.flatMap (·.exchanges)) e') :
    e'.database =
      ((passed.flatMap (·.exchanges)).filterMap Exchange.executed?).foldl B.after e.database := by
  induction passed generalizing e with
  | nil =>
    obtain rfl := converses_nil_iff.mp hE
    rfl
  | cons p passed ih =>
    rw [List.flatMap_cons] at hE ⊢
    obtain ⟨e₁, hp, hpassed⟩ := converses_append_iff.mp hE
    rw [List.filterMap_append, List.foldl_append, ← passes_database p.passes hp, ← ih hpassed]

/-- The statement that ends a run changes the contents by what is executed for it with success. -/
theorem ends_contents (hB : B.Transactional contents statements) {statement : String}
    (hmem : statement ∈ statements) {xs : List Exchange} {o : Outcome} (h : Ends statement xs o)
    (hE : (engine B).Converses e xs e') :
    contents e'.database =
      contents ((xs.filterMap Exchange.executed?).foldl B.after e.database) := by
  cases h with
  | unread x =>
    obtain rfl := converses_nil_iff.mp (converses_of_parse hE).1
    rfl
  | failed h x =>
    obtain ⟨hx, hread⟩ := converses_of_parse hE
    exact contents_executeImmediate_error hB ((hread _ rfl).mono (by simpa using hmem))
      (converses_singleton_iff.mp hx)
  | plan sql explained h hv =>
    exact congrArg contents (database_of_execute (converses_of_parse hE).1)
  | noPlan sql explained h =>
    exact congrArg contents (database_of_execute (converses_of_parse hE).1)

/-- What the end of a run for the inserts that were put off makes of the contents: if it completes,
the inserts are written, and otherwise nothing is. -/
theorem flushes_contents (hB : B.Transactional contents statements) {inserts : List Insert}
    (hr : ∀ i ∈ inserts, (Operation.insert i).IsReadFrom statements) {xs : List Exchange} {o : Outcome}
    (h : Flushes inserts xs o) (hE : (engine B).Converses e xs e') :
    (∀ result, o = .completed result → B.Writes contents e.database inserts e'.database) ∧
      ((∀ result, o ≠ .completed result) → contents e'.database = contents e.database) := by
  cases h with
  | nothing h =>
    obtain rfl := converses_nil_iff.mp hE
    refine ⟨fun _ _ => ?_, fun _ => rfl⟩
    rw [h]
    exact ⟨_, _, rfl, .nil _, rfl⟩
  | submitted h result =>
    have hx := converses_singleton_iff.mp hE
    exact ⟨fun _ _ => executeCombined_ok hB hx, fun hne => absurd rfl (hne _)⟩
  | refused h x =>
    have hx := converses_singleton_iff.mp hE
    exact ⟨fun _ hc => by simp at hc, fun _ => executeCombined_error hB hr hx⟩

end ConnectedEngine

open ConnectedEngine

/-- The outcome of a statement that ends a run is not that the run completed. -/
theorem Ends.ne_completed {statement : String} {xs : List Exchange} {o : Outcome}
    (h : Ends statement xs o) (result : Option ExecutionResult) : o ≠ .completed result := by
  cases h <;> simp

/-- What a run makes of the contents of the database. The operations that were executed at once with
success are there in any case. The inserts of the script are there too, each on top of those before
it, if the run completes, and none of them is there otherwise. A job leaves the options of the
session as they are. -/
theorem run_contents {contents : δ → κ} {statements : List String}
    (hB : B.Transactional contents statements) (e : ConnectedEngine δ) (mode : Mode) :
    (∃ xs e' o, (engine B).run e statements mode = (e', o) ∧ (engine B).Converses e xs e' ∧
      Conversation mode statements xs o ∧
      let before := (xs.filterMap Exchange.executed?).foldl B.after e.database
      (∀ result, o = .completed result →
        B.Writes contents before (xs.filterMap Exchange.insert?) e'.database) ∧
      ((∀ result, o ≠ .completed result) → contents e'.database = contents before)) ∧
    ∀ (e : ConnectedEngine δ) (inserts : List Insert),
      ((engine B).executeCombined e inserts).1.options = e.options := by
  refine ⟨?_, options_executeCombined B⟩
  rcases hrun : (engine B).run e statements mode with ⟨e', o⟩
  obtain ⟨xs, hE, hc⟩ := run_eq_iff.mp hrun
  refine ⟨xs, e', o, rfl, hE, hc, ?_⟩
  obtain ⟨ys, rfl, hcourse⟩ := hc
  -- The first call sets an option, which is no matter of the database.
  obtain ⟨e₁, hset, hys⟩ := converses_cons_iff.mp hE
  have hdatabase : e₁.database = e.database := by
    rw [← hset]
    rfl
  rw [← hdatabase]
  cases hcourse with
  | @flushed passed last _ h =>
    -- All statements are passed, and the inserts that were put off are submitted.
    obtain ⟨e₂, hpassed, hlast⟩ := converses_append_iff.mp hys
    have hbefore := passages_database hpassed
    have hinserts := passages_inserts passed
    have heffect := flushes_contents hB (fun _ => passages_isReadFrom hpassed) h hlast
    have hexecuted : (passed.flatMap (·.exchanges) ++ last).filterMap Exchange.executed? =
        (passed.flatMap (·.exchanges)).filterMap Exchange.executed? := by
      rw [List.filterMap_append, h.filterMap_executed?, List.append_nil]
    have hwritten : (passed.flatMap (·.exchanges) ++ last).filterMap Exchange.insert? =
        passed.flatMap (·.inserts) := by
      rw [List.filterMap_append, h.filterMap_insert?, List.append_nil, hinserts]
    rw [List.filterMap_cons_none rfl, List.filterMap_cons_none rfl, hexecuted, hwritten, ← hbefore]
    exact heffect
  | @ended passed statement last _ h rest =>
    -- A statement ends the run, and nothing is submitted.
    obtain ⟨e₂, hpassed, hlast⟩ := converses_append_iff.mp hys
    have heffect := ends_contents hB (by simp) h hlast
    rw [passages_database hpassed, ← List.foldl_append, ← List.filterMap_append] at heffect
    exact ⟨fun result ho => absurd ho (h.ne_completed result), fun _ => heffect⟩

/-- Texts change what a database holds to the texts that were executed in it, and there is no table
`u`. -/
def textsWithoutU (texts : List String) (text : String) :
    Except BackendFailure (List String × UInt64) :=
  match text with
  | "INSERT INTO u VALUES (2)" =>
    .error ⟨"no such table: u", "error returned from database: (code: 1) no such table: u"⟩
  | "CREATE TABLE t (a INT)" => .ok (texts ++ [text], 0)
  | _ => .ok (texts ++ [text], 1)

/-- The effect of a script whose second insert fails. -/
theorem run_contents_textsWithoutU :
    let B := Snapshot.backend textsWithoutU
    let e : ConnectedEngine (Snapshot (List String)) := { database := { current := [] } }
    let statements :=
      ["CREATE TABLE t (a INT)", "INSERT INTO t VALUES (1)", "INSERT INTO u VALUES (2)"]
    B.Transactional Snapshot.current statements ∧
    ∃ xs e' o, (engine B).run e statements .streaming = (e', o) ∧
      (engine B).Converses e xs e' ∧ Conversation .streaming statements xs o ∧
      let before := (xs.filterMap Exchange.executed?).foldl B.after e.database
      (∀ result, o = .completed result →
        B.Writes Snapshot.current before (xs.filterMap Exchange.insert?) e'.database) ∧
      ((∀ result, o ≠ .completed result) → e'.database.current = before.current) := by
  intro B e statements
  have hB := Snapshot.transactional textsWithoutU statements
  exact ⟨hB, (run_contents B hB e .streaming).1⟩

end SqlJob
