import SqlJob.Database.Connect
import SqlJob.Proofs.Engine.Transaction
import Mathlib.Data.List.Forall2

/-!
# The rows that a result counts

A database keeps a counter of the rows that a statement has inserted, updated or deleted, and the
count of a result is read from it. The counter is set by the statements that change rows, and stays
as it is otherwise (`Backend.CountsChanges`). So the count of a statement that is no such statement
is the one of an earlier statement, at whatever distance.

A result that reports a count has the rows of its own statement if this sets the counter, and else
what the counter was (`rowsAffected_of_reportsCount`). `rowsAffected_of_no_row` says what this means
for a statement that changes no row, after any exchanges with the engine. There are no rows in its
result if it is answered with rows or with a plan, nor if it looks for rows to change and finds
none. But the creation of a table, and whatever else is no statement that changes rows, is reported
with the rows of the last text that was one.

The proof follows the texts that reach the database. `Backend.Reaches` lists them with the states in
which they are executed. Along such a list the counter is that of the last text that set it
(`Backend.CountsChanges.changes_eq`), and every exchange with the engine makes such a list
(`ConnectedEngine.exists_reaches`).
-/

namespace SqlJob

variable {δ : Type}

/-- What an engine relies on a database for when it reports rows. The counter of a state is
`changes`, and `counted` says of a text that changes rows how many it changes in a state, be they
none. -/
structure Backend.CountsChanges (B : Backend δ) (changes : δ → UInt64)
    (counted : δ → String → Option UInt64) : Prop where
  /-- What is reported is the counter after the text was executed. -/
  execute_ok : ∀ {d d' : δ} {text : String} {n : UInt64},
    B.execute d text = (d', .ok n) → n = changes d'
  /-- A text sets the counter if it changes rows, and leaves it as it is otherwise. -/
  execute_changes : ∀ d text, changes (B.execute d text).1 = (counted d text).getD (changes d)
  /-- So it does when it is answered with rows. -/
  query_changes : ∀ d text, changes (B.query d text).1 = (counted d text).getD (changes d)
  /-- So does the text that asks for the plan of another one. -/
  plan_changes : ∀ d text,
    changes (B.plan d text).1 = (counted d (planRequest text)).getD (changes d)
  /-- To begin a transaction leaves the counter as it is. -/
  begin_changes : ∀ d, changes (B.begin d).1 = changes d
  /-- To commit leaves the counter as it is. -/
  commit_changes : ∀ d, changes (B.commit d).1 = changes d
  /-- To go back leaves the counter as it is. -/
  rollBack_changes : ∀ d, changes (B.rollBack d) = changes d

/-! ## The texts that reach a database -/

/-- From one state a database gets to another by texts that are executed, answered with rows or with
a plan, each in the state that is listed with it. Transactions may come between. -/
inductive Backend.Reaches (B : Backend δ) : δ → List (δ × String) → δ → Prop
  | nil (d : δ) : Reaches B d [] d
  | execute {d d' : δ} (text : String) {ts : List (δ × String)}
      (tail : Reaches B (B.execute d text).1 ts d') : Reaches B d ((d, text) :: ts) d'
  | query {d d' : δ} (text : String) {ts : List (δ × String)}
      (tail : Reaches B (B.query d text).1 ts d') : Reaches B d ((d, text) :: ts) d'
  | plan {d d' : δ} (text : String) {ts : List (δ × String)}
      (tail : Reaches B (B.plan d text).1 ts d') : Reaches B d ((d, planRequest text) :: ts) d'
  | begin {d d' : δ} {ts : List (δ × String)} (tail : Reaches B (B.begin d).1 ts d') :
      Reaches B d ts d'
  | commit {d d' : δ} {ts : List (δ × String)} (tail : Reaches B (B.commit d).1 ts d') :
      Reaches B d ts d'
  | rollBack {d d' : δ} {ts : List (δ × String)} (tail : Reaches B (B.rollBack d) ts d') :
      Reaches B d ts d'

/-- The count of the last text that set the counter, if one did. -/
def lastCount? (counted : δ → String → Option UInt64) : List (δ × String) → Option UInt64
  | [] => none
  | (d, text) :: ts => (lastCount? counted ts).or (counted d text)

namespace Backend

variable {B : Backend δ} {d d₁ d' : δ} {ts ts' : List (δ × String)}

/-- Texts that reach a database one after another. -/
theorem Reaches.append (h : B.Reaches d ts d₁) (h' : B.Reaches d₁ ts' d') :
    B.Reaches d (ts ++ ts') d' := by
  induction h with
  | nil d => exact h'
  | execute text tail ih => exact .execute text (ih h')
  | query text tail ih => exact .query text (ih h')
  | plan text tail ih => exact .plan text (ih h')
  | begin tail ih => exact .begin (ih h')
  | commit tail ih => exact .commit (ih h')
  | rollBack tail ih => exact .rollBack (ih h')

/-- The counter is that of the last text that set it, or else what it was. -/
theorem CountsChanges.changes_eq {changes : δ → UInt64} {counted : δ → String → Option UInt64}
    (hB : B.CountsChanges changes counted) (h : B.Reaches d ts d') :
    changes d' = (lastCount? counted ts).getD (changes d) := by
  induction h with
  | nil d => rfl
  | @execute d d' text ts tail ih =>
    rw [ih, hB.execute_changes, lastCount?]
    cases lastCount? counted ts <;> rfl
  | @query d d' text ts tail ih =>
    rw [ih, hB.query_changes, lastCount?]
    cases lastCount? counted ts <;> rfl
  | @plan d d' text ts tail ih =>
    rw [ih, hB.plan_changes, lastCount?]
    cases lastCount? counted ts <;> rfl
  | begin tail ih => rw [ih, hB.begin_changes]
  | commit tail ih => rw [ih, hB.commit_changes]
  | rollBack tail ih => rw [ih, hB.rollBack_changes]

end Backend

/-! ## What an engine sends to its database -/

/-- The count of the result is one that the database reports. Other operations are answered with
rows or with a plan, or not at all. -/
def Operation.ReportsCount : Operation → Prop
  | insert _ => True
  | setOption _ => False
  | explain _ _ => False
  | createTable _ => True
  | other _ keyword => keyword ∉ queryKeywords

/-- The texts that may reach the database in an exchange, in this order. -/
def Exchange.texts : Exchange → List String
  | parse _ _ => []
  | execute (.setOption _) _ => []
  | execute (.explain _ explained) _ => [planRequest explained]
  | execute operation _ => [operation.sql]
  | combined inserts _ => inserts.map (·.sql)
  | setOption _ _ => []

namespace ConnectedEngine

variable {B : Backend δ} {e e' : ConnectedEngine δ}

/-- What is done in the database is done unless the engine is closed. -/
theorem database_immediate_run {α : Type} (f : α → ExecutionResult) (e : ConnectedEngine δ)
    (g : δ → δ × Except BackendFailure α) :
    (immediate f (e.run g)).1.database = e.database ∨
      (immediate f (e.run g)).1.database = (g e.database).1 := by
  unfold immediate run
  split_ifs
  · exact .inl rfl
  · right
    rcases g e.database with ⟨d, x | a⟩ <;> rfl

/-- The texts of an operation that is executed at once reach the database, or none does. -/
theorem reaches_executeImmediate (e : ConnectedEngine δ) (o : Operation)
    (answer : Except Failure ExecutionResult) :
    ∃ ts, B.Reaches e.database ts (executeImmediate B e o).1.database ∧
      ts.map Prod.snd <+: (Exchange.execute o answer).texts := by
  have hnone : ∀ texts : List String, B.Reaches e.database [] e.database ∧
      ([] : List (δ × String)).map Prod.snd <+: texts := fun _ => ⟨.nil _, List.nil_prefix⟩
  have hupdate : ∀ sql, ∃ ts, B.Reaches e.database ts (runUpdate B e sql).1.database ∧
      ts.map Prod.snd <+: [sql] := by
    intro sql
    rcases database_immediate_run (fun n => { rowsAffected := n }) e (B.execute · sql) with h | h
    · exact ⟨[], by rw [runUpdate, h]; exact hnone _⟩
    · exact ⟨[(e.database, sql)], by rw [runUpdate, h]; exact .execute sql (.nil _),
        List.prefix_rfl⟩
  cases o with
  | insert i => exact hupdate i.sql
  | setOption c => exact ⟨[], hnone _⟩
  | explain sql explained =>
    rcases database_immediate_run (fun nodes => .ofText "plan" (renderPlan nodes)) e
      (B.plan · explained) with h | h
    · exact ⟨[], by rw [executeImmediate, h]; exact hnone _⟩
    · exact ⟨[(e.database, planRequest explained)],
        by rw [executeImmediate, h]; exact .plan explained (.nil _), List.prefix_rfl⟩
  | createTable sql => exact hupdate sql
  | other sql keyword =>
    simp only [executeImmediate]
    split_ifs
    · rcases database_immediate_run _ e (B.query · sql) with h | h
      · exact ⟨[], by rw [runQuery, h]; exact hnone _⟩
      · exact ⟨[(e.database, sql)], by rw [runQuery, h]; exact .query sql (.nil _),
          List.prefix_rfl⟩
    · exact hupdate sql

/-- The inserts of a job reach the database up to one that fails. -/
theorem reaches_writeAll (inserts : List Insert) (d : δ) :
    ∃ ts, B.Reaches d ts (writeAll B d inserts).1 ∧
      ts.map Prod.snd <+: inserts.map (·.sql) := by
  induction inserts generalizing d with
  | nil => exact ⟨[], .nil d, List.prefix_rfl⟩
  | cons i inserts ih =>
    rcases hx : B.execute d i.sql with ⟨d₁, x | n⟩
    · have hstop : (writeAll B d (i :: inserts)).1 = (B.execute d i.sql).1 := by
        simp [writeAll, hx]
      refine ⟨[(d, i.sql)], ?_, List.prefix_append [i.sql] _⟩
      rw [hstop]
      exact .execute i.sql (.nil _)
    · have hgo : (writeAll B d (i :: inserts)).1 =
          (writeAll B (B.execute d i.sql).1 inserts).1 := by
        simp only [writeAll, hx]
        rcases writeAll B d₁ inserts with ⟨d₂, x | sinks⟩ <;> rfl
      obtain ⟨ts, hts, hprefix⟩ := ih (B.execute d i.sql).1
      refine ⟨(d, i.sql) :: ts, ?_, List.cons_prefix_cons.mpr ⟨rfl, hprefix⟩⟩
      rw [hgo]
      exact .execute i.sql hts

/-- The inserts of a job reach the database up to one that fails, in a transaction. -/
theorem reaches_submit (inserts : List Insert) (d : δ) :
    ∃ ts, B.Reaches d ts (submit B d inserts).1 ∧ ts.map Prod.snd <+: inserts.map (·.sql) := by
  have hbegin : B.Reaches d [] (B.begin d).1 := .begin (.nil _)
  rcases hb : B.begin d with ⟨d₁, x | ⟨⟩⟩
  · refine ⟨[], ?_, List.nil_prefix⟩
    rw [hb] at hbegin
    simpa [submit, hb] using hbegin
  obtain ⟨ts, hts, hprefix⟩ := reaches_writeAll (B := B) inserts d₁
  rw [hb] at hbegin
  have hwritten := hbegin.append hts
  rw [List.nil_append] at hwritten
  refine ⟨ts, ?_, hprefix⟩
  rcases hw : writeAll B d₁ inserts with ⟨d₂, x | sinks⟩
  · rw [hw] at hwritten
    have hback := hwritten.append (.rollBack (.nil _))
    simpa [submit, hb, hw] using hback
  · rw [hw] at hwritten
    have hcommit := hwritten.append (.commit (.nil _))
    rw [List.append_nil] at hcommit
    rcases hc : B.commit d₂ with ⟨d₃, x | ⟨⟩⟩
    · rw [hc] at hcommit
      have hback := hcommit.append (.rollBack (.nil _))
      simpa [submit, hb, hw, hc] using hback
    · rw [hc] at hcommit
      simpa [submit, hb, hw, hc] using hcommit

/-- In an exchange with the engine texts of it reach the database. -/
theorem reaches_answers {x : Exchange} (h : (engine B).Answers e x e') :
    ∃ ts, B.Reaches e.database ts e'.database ∧ ts.map Prod.snd <+: x.texts := by
  cases x with
  | parse statement answer =>
    obtain ⟨rfl, -⟩ := parse_answers h
    exact ⟨[], .nil _, List.prefix_rfl⟩
  | execute o answer =>
    have hexecute : executeImmediate B e o = (e', answer) := h
    have hreaches := reaches_executeImmediate (B := B) e o answer
    rwa [hexecute] at hreaches
  | combined inserts answer =>
    have hcombined : executeCombined B e inserts = (e', answer) := h
    unfold executeCombined at hcombined
    split_ifs at hcombined with hclosed
    · obtain ⟨rfl, -⟩ := Prod.mk.inj hcombined
      exact ⟨[], .nil _, List.nil_prefix⟩
    · obtain ⟨ts, hts, hprefix⟩ := reaches_submit (B := B) inserts e.database
      refine ⟨ts, ?_, hprefix⟩
      rcases hs : submit B e.database inserts with ⟨d, x | sinks⟩
      · rw [hs] at hts hcombined
        obtain ⟨rfl, -⟩ := Prod.mk.inj hcombined
        exact hts
      · rw [hs] at hts hcombined
        obtain ⟨rfl, -⟩ := Prod.mk.inj hcombined
        exact hts
  | setOption key value =>
    obtain rfl : (engine B).setOption e key value = e' := h
    exact ⟨[], .nil _, List.prefix_rfl⟩

/-- In exchanges with the engine texts of each of them reach the database, one after another. -/
theorem exists_reaches {xs : List Exchange} (h : (engine B).Converses e xs e') :
    ∃ tss : List (List (δ × String)), B.Reaches e.database tss.flatten e'.database ∧
      List.Forall₂ (fun x ts => ts.map Prod.snd <+: x.texts) xs tss := by
  induction h with
  | nil e => exact ⟨[], .nil _, .nil⟩
  | cons head tail ih =>
    obtain ⟨ts, hts, hprefix⟩ := reaches_answers head
    obtain ⟨tss, htss, hprefixes⟩ := ih
    exact ⟨ts :: tss, hts.append htss, .cons hprefix hprefixes⟩

/-- A result that is answered at once is made of what the database answered. -/
theorem exists_of_immediate_run {α : Type} {f : α → ExecutionResult}
    {g : δ → δ × Except BackendFailure α} {result : ExecutionResult}
    (h : immediate f (e.run g) = (e', .ok result)) :
    ∃ a, g e.database = (e'.database, .ok a) ∧ f a = result := by
  unfold immediate run at h
  split_ifs at h
  · simp at h
  · rcases hg : g e.database with ⟨d, x | a⟩
    · simp [hg] at h
    · simp only [hg, Prod.mk.injEq, Except.ok.injEq] at h
      obtain ⟨rfl, hresult⟩ := h
      exact ⟨a, rfl, hresult⟩

/-- A result of an operation that reports a count has the one that the database gives. -/
theorem execute_of_reportsCount {o : Operation} (ho : o.ReportsCount) {result : ExecutionResult}
    (h : executeImmediate B e o = (e', .ok result)) :
    B.execute e.database o.sql = (e'.database, .ok result.rowsAffected) := by
  have hupdate : ∀ sql, runUpdate B e sql = (e', .ok result) →
      B.execute e.database sql = (e'.database, .ok result.rowsAffected) := by
    intro sql h
    obtain ⟨n, hexecute, rfl⟩ := exists_of_immediate_run h
    exact hexecute
  cases o with
  | insert i => exact hupdate i.sql h
  | setOption c => exact ho.elim
  | explain sql explained => exact ho.elim
  | createTable sql => exact hupdate sql h
  | other sql keyword =>
    simp only [executeImmediate] at h
    rw [if_neg ho] at h
    exact hupdate sql h

/-- A result with rows or with a plan counts none. -/
theorem rowsAffected_of_not_reportsCount {o : Operation} (ho : ¬ o.ReportsCount)
    {result : ExecutionResult} (h : executeImmediate B e o = (e', .ok result)) :
    result.rowsAffected = 0 := by
  have hzero : ∀ {α : Type} {f : α → ExecutionResult} {g : δ → δ × Except BackendFailure α},
      (∀ a, (f a).rowsAffected = 0) → immediate f (e.run g) = (e', .ok result) →
      result.rowsAffected = 0 := by
    intro α f g hf h
    obtain ⟨a, -, rfl⟩ := exists_of_immediate_run h
    exact hf a
  cases o with
  | insert i => exact absurd trivial ho
  | setOption c => simp [executeImmediate] at h
  | explain sql explained => exact hzero (fun _ => rfl) h
  | createTable sql => exact absurd trivial ho
  | other sql keyword =>
    have hquery : keyword ∈ queryKeywords := not_not.mp ho
    simp only [executeImmediate] at h
    rw [if_pos hquery] at h
    exact hzero (fun _ => rfl) h

end ConnectedEngine

open ConnectedEngine

/-! ## The count of a result -/

section Results

variable {B : Backend δ} {changes : δ → UInt64} {counted : δ → String → Option UInt64}
  {e e' e'' : ConnectedEngine δ} {xs : List Exchange} {o : Operation} {result : ExecutionResult}

/-- A result that reports a count has that of the operation's text, if this sets the counter, and
else what the counter was. -/
theorem rowsAffected_of_reportsCount (hB : B.CountsChanges changes counted)
    (hreports : o.ReportsCount) (ho : executeImmediate B e o = (e', .ok result)) :
    result.rowsAffected = (counted e.database o.sql).getD (changes e.database) := by
  have hexecute := execute_of_reportsCount hreports ho
  have hafter := hB.execute_changes e.database o.sql
  rw [hexecute] at hafter
  exact (hB.execute_ok hexecute).trans hafter

/-- What is reported for a statement that changes no row, after any exchanges with the engine. If it
is answered with rows or with a plan, or if it looks for rows to change and finds none, then no row
is. But if it is no statement that changes rows, then the rows are those of the last text that was
one, in whatever exchange this was. -/
theorem rowsAffected_of_no_row (hB : B.CountsChanges changes counted)
    (hxs : (engine B).Converses e xs e')
    (ho : (engine B).executeImmediate e' o = (e'', .ok result)) :
    ∃ tss : List (List (δ × String)), B.Reaches e.database tss.flatten e'.database ∧
      List.Forall₂ (fun x ts => ts.map Prod.snd <+: x.texts) xs tss ∧
      (¬ o.ReportsCount → result.rowsAffected = 0) ∧
      (counted e'.database o.sql = some 0 → result.rowsAffected = 0) ∧
      (o.ReportsCount → counted e'.database o.sql = none →
        result.rowsAffected = (lastCount? counted tss.flatten).getD (changes e.database)) := by
  obtain ⟨tss, hreaches, hprefixes⟩ := exists_reaches hxs
  have hzero : ¬ o.ReportsCount → result.rowsAffected = 0 := fun hnot =>
    rowsAffected_of_not_reportsCount hnot ho
  refine ⟨tss, hreaches, hprefixes, hzero, fun hsome => ?_, fun hreports hnone => ?_⟩
  · by_cases hreports : o.ReportsCount
    · rw [rowsAffected_of_reportsCount hB hreports ho, hsome]
      rfl
    · exact hzero hreports
  · rw [rowsAffected_of_reportsCount hB hreports ho, hnone, Option.getD_none,
      hB.changes_eq hreaches]

end Results

/-- A database that does nothing but to count. -/
structure Tally where
  changes : UInt64 := 0

/-- The database in which texts change as many rows as `f` says, if they change rows. -/
def Tally.backend (f : String → Option UInt64) : Backend Tally where
  execute d text := (⟨(f text).getD d.changes⟩, .ok ((f text).getD d.changes))
  query d text := (⟨(f text).getD d.changes⟩, .ok ([], []))
  plan d text := (⟨(f (planRequest text)).getD d.changes⟩, .ok [])
  begin d := (d, .ok ())
  commit d := (d, .ok ())
  rollBack d := d

/-- A database that does nothing but to count does so as an engine relies on it to do. -/
theorem Tally.countsChanges (f : String → Option UInt64) :
    (backend f).CountsChanges Tally.changes fun _ => f where
  execute_ok h := by
    obtain ⟨rfl, hn⟩ := Prod.mk.inj h
    exact (Except.ok.inj hn).symm
  execute_changes _ _ := rfl
  query_changes _ _ := rfl
  plan_changes _ _ := rfl
  begin_changes _ := rfl
  commit_changes _ := rfl
  rollBack_changes _ := rfl

/-- The rows that a text inserts. -/
def insertedRows (text : String) : Option UInt64 :=
  if text = "INSERT INTO a VALUES (1)" then some 1 else none

/-- A table that is made after a row was inserted is reported with that row. -/
theorem rowsAffected_of_no_row_createTable :
    let B := Tally.backend insertedRows
    let e : ConnectedEngine Tally := { database := {} }
    let e' : ConnectedEngine Tally := { database := ⟨1⟩ }
    let xs : List Exchange := [.execute (.createTable "CREATE TABLE a (x INT)") (.ok {}),
      .execute (.insert ⟨"INSERT INTO a VALUES (1)", "a"⟩) (.ok { rowsAffected := 1 })]
    let o : Operation := .createTable "CREATE TABLE b (x INT)"
    B.CountsChanges Tally.changes (fun _ => insertedRows) ∧ (engine B).Converses e xs e' ∧
      (engine B).executeImmediate e' o = (e', .ok { rowsAffected := 1 }) ∧
      ∃ tss : List (List (Tally × String)), B.Reaches e.database tss.flatten e'.database ∧
        List.Forall₂ (fun x ts => ts.map Prod.snd <+: x.texts) xs tss ∧
        (o.ReportsCount → insertedRows o.sql = none →
          (1 : UInt64) = (lastCount? (fun _ => insertedRows) tss.flatten).getD 0) := by
  intro B e e' xs o
  have hB := Tally.countsChanges insertedRows
  have hcreate : insertedRows "CREATE TABLE a (x INT)" = none := if_neg (by decide)
  have hcreate' : insertedRows "CREATE TABLE b (x INT)" = none := if_neg (by decide)
  have hinsert : insertedRows "INSERT INTO a VALUES (1)" = some 1 := if_pos rfl
  have hcreated : (engine B).Answers e
      (.execute (.createTable "CREATE TABLE a (x INT)") (.ok {})) e := by
    simp [Engine.Answers, engine, executeImmediate, runUpdate, immediate, run, B, e,
      Tally.backend, hcreate]
  have hinserted : (engine B).Answers e
      (.execute (.insert ⟨"INSERT INTO a VALUES (1)", "a"⟩) (.ok { rowsAffected := 1 })) e' := by
    simp [Engine.Answers, engine, executeImmediate, runUpdate, immediate, run, B, e, e',
      Tally.backend, hinsert]
  have hxs : (engine B).Converses e xs e' := .cons hcreated (.cons hinserted (.nil e'))
  have ho : (engine B).executeImmediate e' o = (e', .ok { rowsAffected := 1 }) := by
    simp [engine, executeImmediate, runUpdate, immediate, run, B, o, e', Tally.backend, hcreate']
  obtain ⟨tss, hreaches, hprefixes, -, -, hcount⟩ := rowsAffected_of_no_row hB hxs ho
  exact ⟨hB, hxs, ho, tss, hreaches, hprefixes, hcount⟩

/-- In memory too: a table that is made first is reported with no row, and one that is made after a
row was inserted with one. -/
theorem rowsAffected_createTable_inMemory :
    let E := engine Database.Link.backend
    let e := Database.inMemory .empty
    let created := E.executeImmediate e (.createTable "CREATE TABLE a (x INT)")
    let inserted := E.executeImmediate created.1 (.insert ⟨"INSERT INTO a VALUES (1)", "a"⟩)
    let again := E.executeImmediate inserted.1 (.createTable "CREATE TABLE b (x INT)")
    created.2.toOption.map (·.rowsAffected) = some 0 ∧
      again.2.toOption.map (·.rowsAffected) = some 1 := by
  decide +kernel

end SqlJob
