import SqlJob.Proofs.Run.Session

/-!
# The options that a run meets

The options of a run that has passed some statements are those of its start with the mode of the run
on top, and on top of these the assignments of the statements, one after another
(`Options.inForce`). This file says that an engine that keeps its session has these options each
time it reads a statement and when the inserts are submitted, and that it is left with them, however
the run ends (`Engine.KeepsSession.exists_runsInSession`, `run_options`).

The options at a call are seen by an engine that keeps a list of its exchanges, each with the
options that it had before (`Engine.watched`). What such a list holds follows from the exchanges
alone (`sightings`), since the options change by assignments only. A statement that is passed is
read once, with the options that the statements before it left (`passages_readings`). The statement
that ends a run is read once too and assigns nothing (`Closes.readings`,
`Closes.filterMap_setting?`).
-/

namespace SqlJob

/-- The options of a run that has passed the statements, when it started with the options `o`: the
mode of the run on top of them, and then the assignments of the statements, one after another. -/
def Options.inForce (o : Options) (mode : Mode) (passed : List String) : Options :=
  (o.set runtimeModeKey mode.optionValue).extend (passed.filterMap settingOf?)

/-- An option in force is the one assigned last, or else the mode of the run if it is the runtime
mode, or else that of the start. -/
theorem Options.get?_inForce (o : Options) (mode : Mode) (passed : List String) (key : String) :
    (o.inForce mode passed).get? key = ((passed.filterMap settingOf?).reverse.lookup key).or
      (if key = runtimeModeKey then some mode.optionValue else o.get? key) := by
  rw [inForce, get?_extend, get?_set]

/-- The value that was given to an option last: by the last of the statements that assigns it, or
else at the start. -/
def Options.latest? (o : Options) (statements : List String) (key : String) : Option String :=
  ((statements.filterMap settingOf?).reverse.lookup key).or (o.get? key)

/-- Of any option but the runtime mode, the value in force is the one that was given last. -/
theorem Options.get?_inForce_of_ne (o : Options) (mode : Mode) (passed : List String) {key : String}
    (h : key ≠ runtimeModeKey) : (o.inForce mode passed).get? key = o.latest? passed key := by
  rw [get?_inForce, if_neg h]
  rfl

/-- The last of two assignments stays, and a name without a value assigns nothing. -/
example : (Options.empty.inForce .batch ["SET 'a' = b", "SET a = \"c=d\"", "SET a"]).toList =
    [("a", "c=d"), (runtimeModeKey, "batch")] := by
  decide

/-! ## Watching an engine -/

/-- An exchange, and the options that the engine had before it. -/
structure Sighting where
  exchange : Exchange
  options : Options

/-- A statement that was read, as what, and the options that the engine had before. -/
structure Reading where
  statement : String
  answer : Except Failure Operation
  options : Options

namespace Reading

/-- The operation that a statement was read as. -/
def operation? (r : Reading) : Option Operation :=
  r.answer.toOption

/-- The insert that a statement was read as. -/
def insert? (r : Reading) : Option Insert :=
  r.operation?.bind Operation.insert?

end Reading

namespace Sighting

/-- The reading of a statement that was seen. -/
def reading? : Sighting → Option Reading
  | ⟨.parse statement answer, o⟩ => some ⟨statement, answer, o⟩
  | _ => none

/-- The options at a submission of inserts that was seen. -/
def submission? : Sighting → Option Options
  | ⟨.combined _ _, o⟩ => some o
  | _ => none

end Sighting

/-- The engine that does the same and keeps a list of what is seen of it. -/
def Engine.watched {σ : Type} (E : Engine σ) : Engine (σ × List Sighting) where
  parse r statement :=
    let (s, answer) := E.parse r.1 statement
    ((s, r.2 ++ [⟨.parse statement answer, E.options r.1⟩]), answer)
  executeImmediate r operation :=
    let (s, answer) := E.executeImmediate r.1 operation
    ((s, r.2 ++ [⟨.execute operation answer, E.options r.1⟩]), answer)
  executeCombined r inserts :=
    let (s, answer) := E.executeCombined r.1 inserts
    ((s, r.2 ++ [⟨.combined inserts answer, E.options r.1⟩]), answer)
  setOption r key value :=
    (E.setOption r.1 key value, r.2 ++ [⟨.setOption key value, E.options r.1⟩])
  options r := E.options r.1

/-- What is seen of exchanges, from the options `o` on, if only assignments change these. -/
def sightings (o : Options) : List Exchange → List Sighting
  | [] => []
  | x :: xs => ⟨x, o⟩ :: sightings (o.extend x.setting?.toList) xs

/-- What is seen of exchanges one after another: the later ones are seen with the assignments of the
earlier ones. -/
theorem sightings_append (o : Options) (xs ys : List Exchange) :
    sightings o (xs ++ ys) =
      sightings o xs ++ sightings (o.extend (xs.filterMap Exchange.setting?)) ys := by
  induction xs generalizing o with
  | nil => rfl
  | cons x xs ih =>
    rw [List.cons_append, sightings, sightings, ih, filterMap_cons_toList,
      Options.extend_append, List.cons_append]

/-- The operations that statements are seen to be read as are those of the exchanges. -/
theorem filterMap_operation?_sightings (o : Options) (xs : List Exchange) :
    ((sightings o xs).filterMap Sighting.reading?).filterMap Reading.operation? =
      xs.filterMap Exchange.operation? := by
  induction xs generalizing o with
  | nil => rfl
  | cons x xs ih =>
    have hhead : (Sighting.reading? ⟨x, o⟩).toList.filterMap Reading.operation? =
        x.operation?.toList := by
      cases x with
      | parse statement answer => cases answer <;> rfl
      | _ => rfl
    rw [sightings, filterMap_cons_toList, filterMap_cons_toList, List.filterMap_append, hhead, ih]

/-- The inserts that statements are seen to be read as are those of the exchanges. -/
theorem filterMap_insert?_sightings (o : Options) (xs : List Exchange) :
    ((sightings o xs).filterMap Sighting.reading?).filterMap Reading.insert? =
      xs.filterMap Exchange.insert? := by
  have hreadings : ∀ rs : List Reading, rs.filterMap Reading.insert? =
      (rs.filterMap Reading.operation?).filterMap Operation.insert? := fun rs =>
    List.filterMap_filterMap.symm
  rw [hreadings, filterMap_operation?_sightings, filterMap_insert?_exchanges]

section Engines

variable {σ : Type} {E : Engine σ} {s s' : σ} {xs : List Exchange}

/-- What is seen of an engine's exchanges and of others behind them, which it meets with the options
that it has then. -/
theorem sightings_append_of_converses (hE : E.KeepsSession) (h : E.Converses s xs s')
    (ys : List Exchange) :
    sightings (E.options s) (xs ++ ys) =
      sightings (E.options s) xs ++ sightings (E.options s') ys := by
  rw [sightings_append, options_converses hE h]

/-- The watched engine gives the same answers, and its list grows by the exchange. -/
theorem watched_answers {r : σ × List Sighting} {x : Exchange} (h : E.Answers r.1 x s') :
    E.watched.Answers r x (s', r.2 ++ [⟨x, E.options r.1⟩]) := by
  cases x with
  | setOption key value =>
    obtain rfl : E.setOption r.1 key value = s' := h
    rfl
  | _ =>
    simp only [Engine.Answers] at h
    simp [Engine.Answers, Engine.watched, h]

/-- The watched engine takes part in the same conversations, and what is seen of them follows from
the exchanges if the engine keeps its session. -/
theorem watched_converses (hE : E.KeepsSession) {r : σ × List Sighting}
    (h : E.Converses r.1 xs s') :
    E.watched.Converses r xs (s', r.2 ++ sightings (E.options r.1) xs) := by
  induction xs generalizing r with
  | nil =>
    obtain rfl : s' = r.1 := converses_nil_iff.mp h
    rw [sightings, List.append_nil]
    exact .nil r
  | cons x xs ih =>
    obtain ⟨s₁, hx, hxs⟩ := converses_cons_iff.mp h
    have htail := ih (r := (s₁, r.2 ++ [⟨x, E.options r.1⟩])) hxs
    refine converses_cons_iff.mpr ⟨_, watched_answers hx, ?_⟩
    rwa [options_answers hE hx, List.append_assoc] at htail

end Engines

/-! ## What is seen of a run -/

/-- The last exchanges of a run, where `rest` are the statements that it did not pass: if there are
none the inserts are flushed, and otherwise the first of them ends the run. -/
inductive Closes (inserts : List Insert) : List String → List Exchange → Outcome → Prop
  | flushes {last : List Exchange} {outcome : Outcome} (h : Flushes inserts last outcome) :
      Closes inserts [] last outcome
  | ends {statement : String} {last : List Exchange} {outcome : Outcome}
      (h : Ends statement last outcome) (rest : List String) :
      Closes inserts (statement :: rest) last outcome

/-- The course of a run is that statements are passed and the others close it. -/
theorem Course.exists_closes {pending : List Insert} {statements : List String}
    {xs : List Exchange} {outcome : Outcome} (h : Course pending statements xs outcome) :
    ∃ (passed : List Passage) (rest : List String) (last : List Exchange),
      statements = passed.map (·.statement) ++ rest ∧
      xs = passed.flatMap (·.exchanges) ++ last ∧
      Closes (pending ++ passed.flatMap (·.inserts)) rest last outcome := by
  cases h with
  | flushed passed h => exact ⟨passed, [], _, (List.append_nil _).symm, rfl, .flushes h⟩
  | ended passed h rest => exact ⟨passed, _, _, rfl, rfl, .ends h rest⟩

namespace Closes

variable {inserts : List Insert} {rest : List String} {last : List Exchange} {outcome : Outcome}
  (h : Closes inserts rest last outcome)
include h

/-- At the end of a run no option is assigned. -/
theorem filterMap_setting? : last.filterMap Exchange.setting? = [] := by
  cases h with
  | flushes h => cases h <;> rfl
  | ends h => cases h <;> rfl

/-- The statement that ends a run is the last one that is read, with the options that it meets. -/
theorem readings (o : Options) :
    ((sightings o last).filterMap Sighting.reading?).map (fun r => (r.statement, r.options)) =
      (rest.take 1).map fun statement => (statement, o) := by
  cases h with
  | flushes h => cases h <;> rfl
  | ends h => cases h <;> rfl

/-- Inserts are submitted once, with the options that are met, if all statements are passed and
there are inserts. -/
theorem submissions (o : Options) :
    (sightings o last).filterMap Sighting.submission? =
      if rest = [] ∧ inserts ≠ [] then [o] else [] := by
  cases h with
  | flushes h =>
    cases h with
    | nothing h =>
      rw [if_neg fun hsubmit => hsubmit.2 h]
      rfl
    | _ h =>
      rw [if_pos ⟨rfl, h⟩]
      rfl
  | ends h =>
    rw [if_neg fun hsubmit => List.cons_ne_nil _ _ hsubmit.1]
    cases h <;> rfl

/-- The statement that ends a run is not put off as an insert. -/
theorem filterMap_insert? : last.filterMap Exchange.insert? = [] := by
  cases h with
  | flushes h => exact h.filterMap_insert?
  | ends h =>
    cases h with
    | @failed operation himmediate e =>
      cases operation with
      | insert i => exact himmediate.elim
      | _ => rfl
    | _ => rfl

end Closes

/-- Only with inserts may the flush of a run end like one of its statements. -/
theorem Closes.inserts_ne_nil {inserts : List Insert} {statement : String} {rest : List String}
    {last last' : List Exchange} {outcome : Outcome} (hflushes : Closes inserts [] last outcome)
    (hends : Closes inserts (statement :: rest) last' outcome) : inserts ≠ [] := by
  obtain ⟨hflushes⟩ := hflushes
  obtain ⟨⟩ | ⟨hends, -⟩ := hends
  cases hflushes with
  | nothing h => cases hends
  | submitted h result => exact h
  | refused h e => exact h

section Runs

variable {σ : Type} {E : Engine σ} {s s' : σ} {xs : List Exchange} {statement : String}

/-- A statement that a run passes is read once, with the options that it meets. -/
theorem Passes.readings {new : List Insert} (h : Passes statement xs new) (o : Options) :
    ∃ operation, xs.filterMap Exchange.setting? = operation.assignment?.toList ∧
      (sightings o xs).filterMap Sighting.reading? = [⟨statement, .ok operation, o⟩] := by
  obtain ⟨operation, rest, rfl, hsetting⟩ := h.exists_operation
  refine ⟨operation, hsetting, ?_⟩
  cases h <;> rfl

/-- No inserts are submitted for a statement that a run passes. -/
theorem Passes.submissions {new : List Insert} (h : Passes statement xs new) (o : Options) :
    (sightings o xs).filterMap Sighting.submission? = [] := by
  cases h <;> rfl

/-- Statements that a run passes, and others behind them: the former are read in turn, each with the
assignments of those before it. -/
theorem passages_readings (hE : E.KeepsSession) {passed : List Passage} (others : List String)
    (h : E.Converses s (passed.flatMap (·.exchanges)) s') :
    ((sightings (E.options s) (passed.flatMap (·.exchanges))).filterMap Sighting.reading?).map
        (fun r => (r.statement, r.options)) =
      (passed.map (·.statement)).mapIdx fun i statement =>
        (statement, (E.options s).extend
          (((passed.map (·.statement) ++ others).take i).filterMap settingOf?)) := by
  induction passed generalizing s with
  | nil => rfl
  | cons p passed ih =>
    obtain ⟨s₁, hp, hpassed⟩ := converses_append_iff.mp h
    have hsetting := p.passes.filterMap_setting? hE hp
    obtain ⟨operation, -, hread⟩ := p.passes.readings (E.options s)
    have hoptions : (E.options s).extend (p.exchanges.filterMap Exchange.setting?) =
        E.options s₁ := (options_converses hE hp).symm
    -- The statements behind the first one are read with its assignment.
    have hnext : ∀ i, (E.options s).extend
          (((p.statement :: (passed.map (·.statement) ++ others)).take (i + 1)).filterMap
            settingOf?) =
        (E.options s₁).extend
          (((passed.map (·.statement) ++ others).take i).filterMap settingOf?) := by
      intro i
      rw [List.take_succ_cons, filterMap_cons_toList, Options.extend_append, ← hsetting, hoptions]
    rw [List.flatMap_cons, sightings_append, List.filterMap_append, hread, hoptions,
      List.map_append, ih hpassed]
    simp only [List.map_cons, List.cons_append, List.mapIdx_cons, hnext]
    rfl

/-- A statement that a run passes is understood as the assignment that its text says. -/
theorem passages_understood (hE : E.KeepsSession) {passed : List Passage}
    (h : E.Converses s (passed.flatMap (·.exchanges)) s') (o : Options) :
    ∀ r ∈ (sightings o (passed.flatMap (·.exchanges))).filterMap Sighting.reading?,
      ∃ operation, r.answer = .ok operation ∧ operation.assignment? = settingOf? r.statement := by
  induction passed generalizing s o with
  | nil => simp [sightings]
  | cons p passed ih =>
    obtain ⟨s₁, hp, hpassed⟩ := converses_append_iff.mp h
    have hsetting := p.passes.filterMap_setting? hE hp
    obtain ⟨operation, hoperation, hread⟩ := p.passes.readings o
    rw [List.flatMap_cons, sightings_append, List.filterMap_append, hread]
    intro r hr
    rcases List.mem_append.mp hr with hr | hr
    · obtain rfl := List.mem_singleton.mp hr
      have hsame := hoperation.symm.trans hsetting
      exact ⟨operation, rfl, by simpa using congrArg List.head? hsame⟩
    · exact ih hpassed _ r hr

/-- From the state `s` on, statements are read as `answer` says for the options that are met. -/
def Engine.ReadsInSession (E : Engine σ) (s : σ)
    (answer : Options → String → Except Failure Operation) : Prop :=
  ∀ xs s', E.Converses s xs s' → ∀ statement,
    (E.parse s' statement).2 = answer (E.options s') statement

/-- What a statement is read as follows from the options that are seen at its reading. -/
theorem answer_of_reading (hE : E.KeepsSession)
    {answer : Options → String → Except Failure Operation} (hreads : E.ReadsInSession s answer)
    (h : E.Converses s xs s') :
    ∀ r ∈ (sightings (E.options s) xs).filterMap Sighting.reading?,
      r.answer = answer r.options r.statement := by
  induction h with
  | nil s => simp [sightings]
  | @cons s s₁ s₂ x xs hx hxs ih =>
    intro r hr
    rw [sightings, filterMap_cons_toList, List.mem_append, ← options_answers hE hx] at hr
    rcases hr with hr | hr
    · cases x with
      | parse statement answered =>
        obtain rfl : r = ⟨statement, answered, E.options s⟩ := by
          simpa [Sighting.reading?] using hr
        have hparse : (E.parse s statement).2 = answered := congrArg Prod.snd hx
        rw [← hparse]
        exact hreads [] s (.nil s) statement
      | _ => simp [Sighting.reading?] at hr
    · exact ih (fun ys s' hys => hreads (x :: ys) s' (.cons hx hys)) r hr

/-- To apply a function to what is made of each element and its place. -/
theorem map_mapIdx {α β γ : Type} (g : β → γ) (f : Nat → α → β) (as : List α) :
    (as.mapIdx f).map g = as.mapIdx fun i a => g (f i a) := by
  rw [List.mapIdx_eq_zipIdx_map, List.mapIdx_eq_zipIdx_map, List.map_map]
  rfl

/-- Statements that a run passes are all read as operations, by what `answer` says for the
assignments of those before them. -/
theorem passages_answers (hE : E.KeepsSession)
    {answer : Options → String → Except Failure Operation} (hreads : E.ReadsInSession s answer)
    {passed : List Passage} (h : E.Converses s (passed.flatMap (·.exchanges)) s') :
    ((passed.map (·.statement)).mapIdx fun i statement => answer ((E.options s).extend
        (((passed.map (·.statement)).take i).filterMap settingOf?)) statement) =
      ((passed.flatMap (·.exchanges)).filterMap Exchange.operation?).map .ok := by
  let rs := (sightings (E.options s) (passed.flatMap (·.exchanges))).filterMap Sighting.reading?
  have hseen := passages_readings hE [] h
  have hunderstood : ∀ r ∈ rs, ∃ operation, r.answer = .ok operation := fun r hr =>
    (passages_understood hE h _ r hr).imp fun _ => And.left
  have hoperations : ∀ rs : List Reading, (∀ r ∈ rs, ∃ operation, r.answer = .ok operation) →
      rs.map (·.answer) = (rs.filterMap Reading.operation?).map .ok := by
    intro rs hrs
    induction rs with
    | nil => rfl
    | cons r rs ih =>
      obtain ⟨⟨operation, hr⟩, hrs⟩ := List.forall_mem_cons.mp hrs
      rw [filterMap_cons_toList, Reading.operation?, List.map_cons, ih hrs, hr]
      rfl
  calc ((passed.map (·.statement)).mapIdx fun i statement => answer ((E.options s).extend
          (((passed.map (·.statement)).take i).filterMap settingOf?)) statement)
      = (rs.map fun r => (r.statement, r.options)).map fun p => answer p.2 p.1 := by
        rw [hseen, map_mapIdx, List.append_nil]
    _ = rs.map (·.answer) := by
        rw [List.map_map]
        exact List.map_congr_left fun r hr => (answer_of_reading hE hreads h r hr).symm
    _ = (rs.filterMap Reading.operation?).map .ok := hoperations rs hunderstood
    _ = _ := by rw [filterMap_operation?_sightings]

/-- No inserts are submitted for statements that a run passes. -/
theorem passages_submissions (passed : List Passage) (o : Options) :
    (sightings o (passed.flatMap (·.exchanges))).filterMap Sighting.submission? = [] := by
  induction passed generalizing o with
  | nil => rfl
  | cons p passed ih =>
    rw [List.flatMap_cons, sightings_append, List.filterMap_append, p.passes.submissions, ih]
    rfl

end Runs

/-! ## The options of a run -/

section Sessions

variable {σ : Type} (E : Engine σ) (s : σ) (statements : List String) (mode : Mode)

/-- The statements that are read during a run. -/
def Engine.readings : List Reading :=
  (E.watched.run (s, []) statements mode).1.2.filterMap Sighting.reading?

/-- The options at the submissions of inserts during a run. -/
def Engine.submissions : List Options :=
  (E.watched.run (s, []) statements mode).1.2.filterMap Sighting.submission?

section Watched

variable {E s statements mode} {s' : σ} {passed : List Passage} {last : List Exchange} {o : Outcome}

/-- What is seen of a run: the readings of the statements that are passed, and the last exchanges
with the options that these statements left. -/
theorem watched_run (hE : E.KeepsSession) (others : List String)
    (hxs : E.Converses s (.setOption runtimeModeKey mode.optionValue ::
      (passed.flatMap (·.exchanges) ++ last)) s')
    (hcourse : Course [] statements (passed.flatMap (·.exchanges) ++ last) o) :
    let left := (E.options s).inForce mode (passed.map (·.statement))
    ∃ before : List Reading,
      E.readings s statements mode = before ++ (sightings left last).filterMap Sighting.reading? ∧
      before.map (fun r => (r.statement, r.options)) =
        (passed.map (·.statement)).mapIdx (fun i statement => (statement,
          (E.options s).inForce mode ((passed.map (·.statement) ++ others).take i))) ∧
      (∀ r ∈ before, ∃ operation, r.answer = .ok operation ∧
        operation.assignment? = settingOf? r.statement) ∧
      E.submissions s statements mode = (sightings left last).filterMap Sighting.submission? ∧
      E.options s' = left.extend (last.filterMap Exchange.setting?) ∧
      ((E.watched.run (s, []) statements mode).1.1, (E.watched.run (s, []) statements mode).2) =
        (s', o) := by
  have hwatched := run_eq_iff.mpr
    ⟨_, watched_converses hE (r := (s, [])) hxs, _, rfl, hcourse⟩
  obtain ⟨s₁, hset, hys⟩ := converses_cons_iff.mp hxs
  obtain ⟨s₂, hpassed, hlast⟩ := converses_append_iff.mp hys
  have hstart : E.options s₁ = (E.options s).set runtimeModeKey mode.optionValue := by
    rw [← hset, hE.options_setOption]
  have hforce : ∀ passed, (E.options s).inForce mode passed =
      (E.options s₁).extend (passed.filterMap settingOf?) := by
    intro passed
    rw [Options.inForce, hstart]
  have hleft : (E.options s).inForce mode (passed.map (·.statement)) = E.options s₂ := by
    rw [hforce, options_passages hE hpassed]
  -- The call that sets the mode is the first, and no statement is read with it.
  have hseen : sightings (E.options s) (.setOption runtimeModeKey mode.optionValue ::
      (passed.flatMap (·.exchanges) ++ last)) =
      ⟨.setOption runtimeModeKey mode.optionValue, E.options s⟩ ::
        (sightings (E.options s₁) (passed.flatMap (·.exchanges)) ++
          sightings (E.options s₂) last) := by
    rw [← sightings_append_of_converses hE hpassed, hstart]
    rfl
  rw [hseen, List.nil_append] at hwatched
  simp only [hleft, hforce, Engine.readings, Engine.submissions, hwatched]
  refine ⟨_, ?_, passages_readings hE others hpassed, passages_understood hE hpassed _, ?_,
    options_converses hE hlast, trivial⟩
  · rw [List.filterMap_cons, List.filterMap_append]
    rfl
  · rw [List.filterMap_cons, List.filterMap_append, passages_submissions]
    rfl

/-- The statements that are read during a run are those that are seen to be read in its
conversation. -/
theorem readings_eq_of_converses (hE : E.KeepsSession) {xs : List Exchange}
    (hxs : E.Converses s xs s') (hconversation : Conversation mode statements xs o) :
    E.readings s statements mode = (sightings (E.options s) xs).filterMap Sighting.reading? := by
  unfold Engine.readings
  rw [run_eq_iff.mpr ⟨xs, watched_converses hE (r := (s, [])) hxs, hconversation⟩]
  rfl

/-- The inserts that a run puts off are those that its statements were read as. -/
theorem filterMap_insert?_readings (hE : E.KeepsSession) {inserts : List Insert}
    {rest : List String}
    (hxs : E.Converses s (.setOption runtimeModeKey mode.optionValue ::
      (passed.flatMap (·.exchanges) ++ last)) s')
    (hcourse : Course [] statements (passed.flatMap (·.exchanges) ++ last) o)
    (hcloses : Closes inserts rest last o) :
    (E.readings s statements mode).filterMap Reading.insert? = passed.flatMap (·.inserts) := by
  rw [readings_eq_of_converses hE hxs ⟨_, rfl, hcourse⟩, filterMap_insert?_sightings,
    List.filterMap_cons_none rfl, List.filterMap_append, passages_inserts,
    hcloses.filterMap_insert?, List.append_nil]

end Watched

/-- What a run has to do with the options, where `passed` are the statements before the one that
ends it, and `rest` are that one and those behind it. -/
structure Engine.RunsInSession (passed rest : List String) : Prop where
  /-- These are all statements, in their order. -/
  append_eq : passed ++ rest = statements
  /-- If there is no statement left, the inserts are submitted with the options that the statements
  left, unless there are none; otherwise the next statement ends the run, and none are submitted. -/
  closing : ∃ inserts last, Closes inserts rest last (E.run s statements mode).2 ∧
    E.submissions s statements mode =
      if rest = [] ∧ inserts ≠ [] then [(E.options s).inForce mode passed] else []
  /-- A run that is watched is the run. -/
  watched_eq : ((E.watched.run (s, []) statements mode).1.1,
    (E.watched.run (s, []) statements mode).2) = E.run s statements mode
  /-- The statements up to the one that ends the run are read, each with the options that those
  before it left. -/
  readings_eq : (E.readings s statements mode).map (fun r => (r.statement, r.options)) =
    (passed ++ rest.take 1).mapIdx fun i statement =>
      (statement, (E.options s).inForce mode (statements.take i))
  /-- The statements that are passed are understood, and those that are assignments of a key and a
  value are those whose texts say so. -/
  understood : ∀ r ∈ (E.readings s statements mode).take passed.length,
    ∃ operation, r.answer = .ok operation ∧ operation.assignment? = settingOf? r.statement
  /-- The run leaves the options that the statements before its end left. -/
  options_eq : E.options (E.run s statements mode).1 = (E.options s).inForce mode passed
  /-- So every option is the one assigned last, or else the mode of the run if it is the runtime
  mode, or else as it was at the start. -/
  get?_eq : ∀ key, (E.options (E.run s statements mode).1).get? key =
    ((passed.filterMap settingOf?).reverse.lookup key).or
      (if key = runtimeModeKey then some mode.optionValue else (E.options s).get? key)

variable {E}

/-- A run of an engine that keeps its session, where `passed` are the statements that it passes and
`rest` are the others: it meets the options of the session. -/
theorem Engine.KeepsSession.runsInSession_of_closes (hE : E.KeepsSession) {s' : σ}
    {passed : List Passage} {rest : List String} {last : List Exchange} {o : Outcome}
    (hxs : E.Converses s (.setOption runtimeModeKey mode.optionValue ::
      (passed.flatMap (·.exchanges) ++ last)) s')
    (hcourse : Course [] (passed.map (·.statement) ++ rest)
      (passed.flatMap (·.exchanges) ++ last) o)
    (hcloses : Closes (passed.flatMap (·.inserts)) rest last o) :
    E.RunsInSession s (passed.map (·.statement) ++ rest) mode (passed.map (·.statement)) rest := by
  have hrun : E.run s (passed.map (·.statement) ++ rest) mode = (s', o) :=
    run_eq_iff.mpr ⟨_, hxs, _, rfl, hcourse⟩
  obtain ⟨before, hreadings, hbefore, hunderstood, hsubmissions, hoptions, hwatched⟩ :=
    watched_run hE rest hxs hcourse
  rw [hcloses.filterMap_setting?] at hoptions
  rw [hcloses.submissions] at hsubmissions
  have hlength : before.length = (passed.map (·.statement)).length := by
    simpa using congrArg List.length hbefore
  exact {
    append_eq := rfl
    closing := by
      rw [hrun]
      exact ⟨_, last, hcloses, hsubmissions⟩
    watched_eq := by rw [hwatched, hrun]
    readings_eq := by
      rw [hreadings, List.map_append, hbefore, hcloses.readings, List.mapIdx_append]
      -- At most one statement is read behind those that are passed.
      cases rest with
      | nil => rfl
      | cons statement rest => simp
    understood := by
      intro r hr
      rw [hreadings, List.take_left' hlength] at hr
      exact hunderstood r hr
    options_eq := by
      rw [hrun]
      exact hoptions
    get?_eq := fun key => by
      rw [hrun, hoptions]
      exact Options.get?_inForce _ _ _ key }

/-- What is left of a run is the run of the statements that it did not pass, in a state that an
exchange with the engine led to, with the inserts that were read put off. -/
theorem Engine.KeepsSession.exists_runFrom (hE : E.KeepsSession) :
    let inserts := (E.readings s statements mode).filterMap Reading.insert?
    ∃ passed rest xs last s₁, E.RunsInSession s statements mode passed rest ∧
      E.Converses s xs s₁ ∧ E.options s₁ = (E.options s).inForce mode passed ∧
      E.run s statements mode = E.runFrom s₁ ⟨inserts⟩ rest ∧
      E.Converses s₁ last (E.run s statements mode).1 ∧
      Closes inserts rest last (E.run s statements mode).2 ∧
      E.submissions s statements mode = if rest = [] ∧ inserts ≠ [] then [E.options s₁] else [] := by
  rcases hrun : E.run s statements mode with ⟨s', outcome⟩
  obtain ⟨xs, hxs, ys, rfl, hcourse⟩ := run_eq_iff.mp hrun
  obtain ⟨passed, rest, last, rfl, rfl, hcloses⟩ := hcourse.exists_closes
  obtain ⟨s₁, hset, hys⟩ := converses_cons_iff.mp hxs
  obtain ⟨s₂, hpassed, hlast⟩ := converses_append_iff.mp hys
  obtain rfl : E.setOption s runtimeModeKey mode.optionValue = s₁ := hset
  have hconverses : E.Converses s
      (.setOption runtimeModeKey mode.optionValue :: passed.flatMap (·.exchanges)) s₂ :=
    .cons rfl hpassed
  have hoptions : E.options s₂ = (E.options s).inForce mode (passed.map (·.statement)) := by
    rw [options_passages hE hpassed, hE.options_setOption, Options.inForce]
  have hinserts := filterMap_insert?_readings hE hxs hcourse hcloses
  obtain ⟨-, -, -, -, hsubmissions, -⟩ := watched_run hE rest hxs hcourse
  refine ⟨_, rest, _, last, s₂, hE.runsInSession_of_closes s mode hxs hcourse hcloses, hconverses,
    hoptions, ?_, hlast, ?_, ?_⟩
  · rw [hinserts, ← hrun, Engine.run, runFrom_passages hpassed, List.nil_append]
  · rw [hinserts]
    exact hcloses
  · rw [hinserts, hoptions, hsubmissions]
    exact hcloses.submissions _

/-- The statements of a run up to the one that ends it are read as `answer` says for the options
that those before them left. -/
theorem Engine.RunsInSession.answers_eq (hE : E.KeepsSession)
    {answer : Options → String → Except Failure Operation} (hreads : E.ReadsInSession s answer)
    {passed rest : List String} (h : E.RunsInSession s statements mode passed rest) :
    (E.readings s statements mode).map (fun r => (r.statement, r.answer)) =
      (passed ++ rest.take 1).mapIdx fun i statement =>
        (statement, answer ((E.options s).inForce mode (statements.take i)) statement) := by
  have hanswer : ∀ r ∈ E.readings s statements mode, r.answer = answer r.options r.statement := by
    rcases hrun : E.run s statements mode with ⟨s', outcome⟩
    obtain ⟨xs, hxs, hconversation⟩ := run_eq_iff.mp hrun
    rw [readings_eq_of_converses hE hxs hconversation]
    exact answer_of_reading hE hreads hxs
  calc (E.readings s statements mode).map (fun r => (r.statement, r.answer))
      = ((E.readings s statements mode).map fun r => (r.statement, r.options)).map fun p =>
          (p.1, answer p.2 p.1) := by
        rw [List.map_map]
        refine List.map_congr_left fun r hr => ?_
        rw [hanswer r hr]
        rfl
    _ = _ := by
        rw [h.readings_eq, map_mapIdx]

/-- A run of an engine that keeps its session meets the options of the session, however it ends. -/
theorem Engine.KeepsSession.exists_runsInSession (hE : E.KeepsSession) :
    ∃ passed rest, E.RunsInSession s statements mode passed rest := by
  obtain ⟨passed, rest, -, -, -, hsession, -⟩ := hE.exists_runFrom s statements mode
  exact ⟨passed, rest, hsession⟩

end Sessions

/-- The options during a run and after it, on the mock engine and on a database. -/
theorem run_options :
    (∀ (m : MockEngine) (statements : List String) (mode : Mode),
      ∃ passed rest, MockEngine.engine.RunsInSession m statements mode passed rest) ∧
    ∀ {δ : Type} (B : Backend δ) (e : ConnectedEngine δ) (statements : List String) (mode : Mode),
      ∃ passed rest, (ConnectedEngine.engine B).RunsInSession e statements mode passed rest :=
  ⟨fun m statements mode => MockEngine.keepsSession.exists_runsInSession m statements mode,
    fun B e statements mode =>
      (ConnectedEngine.keepsSession B).exists_runsInSession e statements mode⟩

end SqlJob
