import SqlJob.Database.Connect
import SqlJob.Engine.Mock

/-!
# The dialect that the engines read in

A session may name the dialect of the statements that follow. The engine of a database reads them in
that dialect, and reads none as long as the name is unknown. The mock engine keeps the option like
any other but reads every statement in the default dialect.

So the answers of the two engines to a statement are alike as far as the named dialect and the
default dialect read it alike. They are alike for all statements only while the session names no
other dialect than the default one (`parse_alike_iff`), since that is the only one in which both
brackets and back quotes surround names (`isOk_read_quoted_iff`). Under a name that no dialect has
they differ on every statement that the default dialect reads (`parse_not_alike_unknown`).
-/

namespace SqlJob

/-! ## Answers to a statement -/

/-- Two answers to a statement are alike: the same operation, or failures of the same stage. -/
inductive Alike : Except Failure Operation → Except Failure Operation → Prop
  | ok (operation : Operation) : Alike (.ok operation) (.ok operation)
  | error {e f : Failure} (h : e.stage = f.stage) : Alike (.error e) (.error f)

instance : DecidableRel Alike
  | .ok a, .ok b =>
    if h : a = b then .isTrue (h ▸ .ok a) else .isFalse fun | .ok _ => h rfl
  | .error e, .error f =>
    if h : e.stage = f.stage then .isTrue (.error h) else .isFalse fun | .error he => h he
  | .ok _, .error _ => .isFalse nofun
  | .error _, .ok _ => .isFalse nofun

/-- Every answer is like itself. -/
@[simp] theorem Alike.refl (x : Except Failure Operation) : Alike x x := by
  cases x with
  | ok operation => exact .ok operation
  | error e => exact .error rfl

/-- Of answers that are alike both or none are operations. -/
theorem Alike.isOk_eq {x y : Except Failure Operation} (h : Alike x y) : x.isOk = y.isOk := by
  cases h <;> rfl

/-- A statement that is not read fails at the stage of reading, whatever the dialect. -/
theorem stage_of_read_eq_error {r : StatementReader} {statement : String} {e : Failure}
    (h : r.read statement = .error e) : e.stage = .parse := by
  unfold StatementReader.read at h
  split at h
  · cases h
  · cases h
    rfl

/-- A failure at the stage of reading is like the answer of a reader that does not read the
statement. -/
theorem alike_error_iff {r : StatementReader} {statement : String} {f : Failure}
    (hf : f.stage = .parse) :
    Alike (r.read statement) (.error f) ↔ ∃ e, r.read statement = .error e := by
  cases h : r.read statement with
  | error e => exact iff_of_true (.error ((stage_of_read_eq_error h).trans hf.symm)) ⟨e, rfl⟩
  | ok operation => exact iff_of_false nofun nofun

/-! ## The default dialect among the others -/

/-- The only name of the default dialect. -/
theorem Dialect.ofName?_eq_sqlite_iff {name : String} :
    ofName? name = some sqlite ↔ name = "sqlite" := by
  constructor
  · intro h
    obtain ⟨before, after, hnames, -⟩ := List.lookup_eq_some_iff.mp h
    have hmem : (name, sqlite) ∈ names := by
      rw [hnames]
      exact List.mem_append_cons_self
    simpa [names] using hmem
  · rintro rfl
    rfl

/-- In no dialect but the default one both brackets and back quotes surround names. -/
theorem isOk_read_quoted_iff (d : Dialect) :
    ((StatementReader.mk d).read "USE [a]").isOk ∧ ((StatementReader.mk d).read "USE `a`").isOk ↔
      d = .sqlite := by
  cases d <;> decide +kernel

/-- Another dialect does not read all statements like the default one. -/
theorem eq_sqlite_of_forall_alike {d : Dialect}
    (h : ∀ statement, Alike (StatementReader.default.read statement)
      ((StatementReader.mk d).read statement)) : d = .sqlite := by
  have hdefault := (isOk_read_quoted_iff .sqlite).mpr rfl
  rw [← isOk_read_quoted_iff, ← (h "USE [a]").isOk_eq, ← (h "USE `a`").isOk_eq]
  exact hdefault

/-! ## The engines after assignments -/

/-- Assigns options one after another. -/
def Engine.setAll {σ : Type} (E : Engine σ) (s : σ) (settings : List (String × String)) : σ :=
  settings.foldl (fun s setting => E.setOption s setting.1 setting.2) s

/-- Assignments to an engine of a database change its options and nothing else. -/
theorem ConnectedEngine.setAll_eq {δ : Type} (B : Backend δ) (e : ConnectedEngine δ)
    (settings : List (String × String)) :
    (engine B).setAll e settings = { e with options := e.options.extend settings } := by
  induction settings generalizing e with
  | nil => rfl
  | cons setting settings ih => exact ih _

/-- Under an option that names a dialect a statement is read as without it: the name is the word
`default`, or it is of a dialect that reads the statement like the default one, or it is unknown and
the default dialect does not read the statement either. -/
def ReadsAsUsual (name statement : String) : Prop :=
  name.map Char.toLower = "default" ∨
    match Dialect.ofName? (Dialect.normalName name) with
    | some d =>
      Alike (StatementReader.default.read statement) ((StatementReader.mk d).read statement)
    | none => ∃ e, StatementReader.default.read statement = .error e

/-- Under a name all statements are read as without it exactly if it stands for the default
dialect. -/
theorem forall_readsAsUsual_iff {name : String} :
    (∀ statement, ReadsAsUsual name statement) ↔
      name.map Char.toLower = "default" ∨ Dialect.normalName name = "sqlite" := by
  unfold ReadsAsUsual
  by_cases hdefault : name.map Char.toLower = "default"
  · simp only [hdefault, true_or, implies_true]
  simp only [hdefault, false_or, ← Dialect.ofName?_eq_sqlite_iff]
  cases Dialect.ofName? (Dialect.normalName name) with
  | some d =>
    rw [Option.some.injEq]
    refine ⟨eq_sqlite_of_forall_alike, ?_⟩
    rintro rfl statement
    exact .refl _
  | none =>
    -- A `SET` command is read in every dialect, but under an unknown name nothing is.
    refine ⟨fun h => ?_, nofun⟩
    obtain ⟨e, he⟩ := h "SET a = b"
    have hset : (StatementReader.default.read "SET a = b").isOk := by decide
    rw [he] at hset
    cases hset

/-- An engine of a database reads a statement like the default dialect as far as the name that its
session gives as the dialect allows it. -/
theorem ConnectedEngine.alike_activeReader_iff {δ : Type} {e : ConnectedEngine δ}
    (hreader : e.reader = .default) (statement : String) :
    Alike (StatementReader.default.read statement)
        (e.activeReader.bind fun r => r.read statement) ↔
      ∀ name, e.options.get? sqlDialectKey = some name → ReadsAsUsual name statement := by
  unfold activeReader
  cases e.options.get? sqlDialectKey with
  | none => simp [hreader, Except.bind]
  | some name =>
    simp only [Option.some.injEq, forall_eq', ReadsAsUsual]
    by_cases hdefault : name.map Char.toLower = "default"
    · simp [hdefault, hreader, Except.bind]
    · simp only [hdefault, if_false, false_or, StatementReader.ofName]
      cases Dialect.ofName? (Dialect.normalName name) with
      | some d => simp only [Except.bind]
      | none => exact alike_error_iff rfl

/-- A mock engine and an engine of a database that start with the same options and are given the
same assignments: their answers to a statement are alike exactly if the dialect that was named last,
if any was, reads it as usual. They are alike for all statements exactly if that is the default
dialect. -/
theorem parse_alike_iff {δ : Type} (B : Backend δ) (database : δ) (isClosed : Bool)
    (m : MockEngine) (settings : List (String × String)) :
    let name? := (settings.reverse.lookup sqlDialectKey).or (m.options.get? sqlDialectKey)
    let mock := MockEngine.engine.setAll m settings
    let connected := (ConnectedEngine.engine B).setAll
      { database, options := m.options, isClosed } settings
    let alike := fun statement => Alike (MockEngine.engine.parse mock statement).2
      ((ConnectedEngine.engine B).parse connected statement).2
    (∀ statement, alike statement ↔ ∀ name, name? = some name → ReadsAsUsual name statement) ∧
      ((∀ statement, alike statement) ↔ ∀ name, name? = some name →
        name.map Char.toLower = "default" ∨ Dialect.normalName name = "sqlite") := by
  intro name? mock connected alike
  have hconnected : connected = { database, options := m.options.extend settings, isClosed } :=
    ConnectedEngine.setAll_eq B _ settings
  have halike : ∀ statement,
      alike statement ↔ ∀ name, name? = some name → ReadsAsUsual name statement := by
    intro statement
    have hactive := ConnectedEngine.alike_activeReader_iff
      (e := { database, options := m.options.extend settings, isClosed }) rfl statement
    rw [Options.get?_extend] at hactive
    simp only [alike, MockEngine.engine, ConnectedEngine.engine, hconnected]
    exact hactive
  refine ⟨halike, ?_⟩
  calc (∀ statement, alike statement)
      ↔ ∀ statement name, name? = some name → ReadsAsUsual name statement := forall_congr' halike
    _ ↔ ∀ name, name? = some name → ∀ statement, ReadsAsUsual name statement := by
      rw [forall_comm]
      exact forall_congr' fun name => forall_comm
    _ ↔ _ := by simp only [forall_readsAsUsual_iff]

/-- After a name that no dialect has, the engine of a database reads nothing, but the mock engine
goes on. -/
theorem parse_not_alike_unknown :
    let settings := [(sqlDialectKey, "nosuch")]
    let mock := MockEngine.engine.setAll {} settings
    let connected := (ConnectedEngine.engine Database.Link.backend).setAll
      (Database.inMemory .empty) settings
    ¬Alike (MockEngine.engine.parse mock "SET a = b").2
      ((ConnectedEngine.engine Database.Link.backend).parse connected "SET a = b").2 := by
  decide +kernel

end SqlJob
