import SqlJob.Proofs.Engine.Transaction
import SqlJob.Proofs.Text.Pieces
import SqlJob.Run.Report

/-!
# Reports of failures

A run that is aborted reports the lines of the text that failed, each behind its number. The report
can be read back: `readReport?` takes the numbers off, provided that each line has its own, and
joins the lines. It accepts the reports of failures and no other text (`readReport?_eq_some_iff`),
whatever the lines hold, since a number is taken off as often as one was put on
(`unnumberFrom_eq_some_iff`).

When the submission of the inserts fails, the text that failed is that of all inserts that the
statements of the run were read as (`aborted_at_flush_iff`), so each line of the report is a line of
one of them.
-/

namespace SqlJob

open Text

/-! ## Numbered lines -/

/-- What stands in front of a line in a report: its number, a colon and a space. -/
def lineNumber (n : Nat) : List Char := (toString n).toList ++ [':', ' ']

/-- Takes its number, from `n` on, off each line; a line without its number is refused. -/
def unnumberFrom (n : Nat) : List (List Char) → Option (List (List Char))
  | [] => some []
  | line :: rest =>
    ((lineNumber n).isPrefixOf? line).bind fun text => (unnumberFrom (n + 1) rest).map (text :: ·)

/-- The text that a report is of: all its lines end with a line feed and have their numbers. -/
def readReport? (report : String) : Option String :=
  let pieces := splitOn '\n' report.toList
  if pieces.getLast? = some [] ∧ pieces.dropLast ≠ [] then
    (unnumberFrom 1 pieces.dropLast).map fun lines => .ofList (joinWith '\n' lines)
  else none

/-- A line feed is neither a digit nor anything else in front of a line. -/
theorem newline_notMem_lineNumber (n : Nat) : '\n' ∉ lineNumber n := by
  intro h
  have hdigits : '\n' ∉ Nat.toDigits 10 n := fun hmem =>
    absurd (Nat.isDigit_of_mem_toDigits (by decide) (by decide) hmem) (by decide)
  simp [lineNumber, hdigits] at h

namespace StatementFailure

/-- The first line has the number that is counted from. -/
@[simp] theorem map_toList_numberFrom_cons (n : Nat) (line : List Char) (lines : List (List Char)) :
    (numberFrom n (line :: lines)).map String.toList =
      (lineNumber n ++ line) :: (numberFrom (n + 1) lines).map String.toList := by
  simp [numberFrom, lineNumber]

/-- Lines are numbered by their places. -/
theorem map_toList_numberFrom (n : Nat) (lines : List (List Char)) :
    (numberFrom n lines).map String.toList =
      lines.mapIdx fun i line => lineNumber (n + i) ++ line := by
  induction lines generalizing n with
  | nil => rfl
  | cons line lines ih =>
    rw [map_toList_numberFrom_cons, ih, List.mapIdx_cons]
    simp [Nat.add_assoc, Nat.add_comm 1]

/-- There is a line feed in a numbered line exactly if there is one in the line. -/
theorem newline_notMem_numberFrom_iff (n : Nat) (lines : List (List Char)) :
    (∀ line ∈ (numberFrom n lines).map String.toList, '\n' ∉ line) ↔
      ∀ line ∈ lines, '\n' ∉ line := by
  induction lines generalizing n with
  | nil => simp [numberFrom]
  | cons line lines ih =>
    rw [map_toList_numberFrom_cons, List.forall_mem_cons, List.forall_mem_cons, ih,
      List.mem_append, not_or, and_iff_right (newline_notMem_lineNumber n)]

end StatementFailure

/-- Lines from which the numbers are taken off are the numbered ones. -/
theorem unnumberFrom_eq_some_iff {n : Nat} {lines texts : List (List Char)} :
    unnumberFrom n lines = some texts ↔
      lines = (StatementFailure.numberFrom n texts).map String.toList := by
  induction lines generalizing n texts with
  | nil =>
    cases texts with
    | nil => simp [unnumberFrom, StatementFailure.numberFrom]
    | cons text texts => simp [unnumberFrom]
  | cons line lines ih =>
    simp only [unnumberFrom, Option.bind_eq_some_iff, Option.map_eq_some_iff, ih,
      List.isPrefixOf?_eq_some_iff_append_eq]
    constructor
    · rintro ⟨text, rfl, others, rfl, rfl⟩
      exact (StatementFailure.map_toList_numberFrom_cons n text others).symm
    · intro h
      cases texts with
      | nil => simp [StatementFailure.numberFrom] at h
      | cons text others =>
        rw [StatementFailure.map_toList_numberFrom_cons, List.cons_eq_cons] at h
        exact ⟨text, h.1.symm, others, h.2, rfl⟩

/-! ## Reports -/

/-- The report of a failure is its numbered lines with a line feed behind each. -/
theorem splitOn_report (format : OutputFormat) (f : StatementFailure) :
    splitOn '\n' (report format (.aborted f)).toList =
      f.numberedLines.map String.toList ++ [[]] := by
  have hreport : (report format (.aborted f)).toList =
      (f.numberedLines.map String.toList).flatMap (· ++ ['\n']) :=
    toList_join_map f.numberedLines "\n"
  have hlines : ∀ line ∈ f.numberedLines.map String.toList, '\n' ∉ line :=
    (StatementFailure.newline_notMem_numberFrom_iff 1 _).mpr fun line => notMem_of_mem_splitOn
  rw [hreport, splitOn_flatMap_append_sep hlines]

/-- A text is read as the report of a text that failed exactly if it is the report of it. -/
theorem readReport?_eq_some_iff {format : OutputFormat} {f : StatementFailure} {text : String} :
    readReport? text = some f.statement ↔ text = report format (.aborted f) := by
  unfold readReport?
  constructor
  · intro h
    simp only [] at h
    split_ifs at h with hpieces
    obtain ⟨lines, hlines, hjoin⟩ := Option.map_eq_some_iff.mp h
    have hnumbered := unnumberFrom_eq_some_iff.mp hlines
    have hsplit : splitOn '\n' text.toList =
        (StatementFailure.numberFrom 1 lines).map String.toList ++ [[]] := by
      rw [← hnumbered]
      exact (List.dropLast_append_getLast? _ hpieces.1).symm
    -- The lines are pieces of the report without their numbers, so no line feed is left in them.
    have hpieces' : ∀ line ∈ (StatementFailure.numberFrom 1 lines).map String.toList,
        '\n' ∉ line := fun line hline =>
      notMem_of_mem_splitOn (hsplit ▸ List.mem_append_left _ hline)
    have hne : lines ≠ [] := by
      rintro rfl
      exact hpieces.2 hnumbered
    have hlines' : splitOn '\n' f.statement.toList = lines := by
      rw [← hjoin, String.toList_ofList]
      exact splitOn_joinWith hne ((StatementFailure.newline_notMem_numberFrom_iff 1 _).mp hpieces')
    have hreport : splitOn '\n' text.toList =
        splitOn '\n' (report format (.aborted f)).toList := by
      rw [splitOn_report, hsplit, StatementFailure.numberedLines, hlines']
    exact String.toList_inj.mp (splitOn_inj.mp hreport)
  · rintro rfl
    have hne : f.numberedLines.map String.toList ≠ [] := by
      obtain ⟨p, ps, hp⟩ := exists_splitOn_eq_cons '\n' f.statement.toList
      simp [StatementFailure.numberedLines, hp, StatementFailure.numberFrom]
    have hread : unnumberFrom 1 (f.numberedLines.map String.toList) =
        some (splitOn '\n' f.statement.toList) := unnumberFrom_eq_some_iff.mpr rfl
    simp [splitOn_report, hne, hread, joinWith_splitOn]

/-! ## Submissions that fail -/

/-- A text is that of inserts: each of them has a semicolon behind it, and a line feed between
neighbours. -/
structure IsTextOf (text : String) (inserts : List Insert) : Prop where
  /-- With a line feed at its end, the text is the inserts with a semicolon and a line feed behind
  each. -/
  toList_append : text.toList ++ ['\n'] = inserts.flatMap fun i => i.sql.toList ++ [';', '\n']
  /-- The lines of the text are those of the inserts. -/
  splitOn_eq : splitOn '\n' text.toList =
    inserts.flatMap fun i => splitOn '\n' (i.sql.toList ++ [';'])

/-- The text of inserts is that of a submission of them. -/
theorem isTextOf_iff {text : String} {inserts : List Insert} (hne : inserts ≠ []) :
    IsTextOf text inserts ↔ text = String.intercalate "\n" (inserts.map (·.sql ++ ";")) := by
  have hpieces : (String.intercalate "\n" (inserts.map (·.sql ++ ";"))).toList =
      joinWith '\n' (inserts.map fun i => i.sql.toList ++ [';']) := by
    rw [toList_intercalate_lines, List.map_map]
    congr 1
    exact List.map_congr_left fun i _ => String.toList_append
  have hne' : (inserts.map fun i => i.sql.toList ++ [';']) ≠ [] := by simpa using hne
  have happend : joinWith '\n' _ ++ ['\n'] = _ := joinWith_append_sep hne'
  rw [← hpieces, List.flatMap_map] at happend
  simp only [List.append_assoc, List.cons_append, List.nil_append] at happend
  constructor
  · intro h
    exact String.toList_inj.mp (List.append_cancel_right (h.toList_append.trans happend.symm))
  · rintro rfl
    refine ⟨happend, ?_⟩
    rw [hpieces, splitOn_joinWith_eq_flatMap hne', List.flatMap_map]

section Runs

variable {σ : Type} {E : Engine σ} {s s' : σ} {statements : List String} {mode : Mode}
  {xs : List Exchange} {statement : String}

/-- Nothing is submitted for a statement that a run passes. -/
theorem Passes.combined_notMem {new : List Insert} (h : Passes statement xs new)
    (inserts : List Insert) : Call.combined inserts ∉ xs.map Exchange.call := by
  cases h <;> simp [Exchange.call]

/-- Nothing is submitted while a run passes statements. -/
theorem passages_combined_notMem (passed : List Passage) (inserts : List Insert) :
    Call.combined inserts ∉ (passed.flatMap (·.exchanges)).map Exchange.call := by
  intro hmem
  rw [List.map_flatMap, List.mem_flatMap] at hmem
  obtain ⟨p, -, hp⟩ := hmem
  exact p.passes.combined_notMem inserts hp

/-- Nothing is submitted for a statement that ends a run. -/
theorem Ends.combined_notMem {o : Outcome} (h : Ends statement xs o) (inserts : List Insert) :
    Call.combined inserts ∉ xs.map Exchange.call := by
  cases h <;> simp [Exchange.call]

/-- A run passes statements and comes to the state `s₁`, where the submission of the inserts that
the statements were read as is refused. -/
structure Engine.RefusesInserts (E : Engine σ) (s s₁ s' : σ) (mode : Mode) (passed : List Passage)
    (f : StatementFailure) : Prop where
  /-- The run sets its mode and passes the statements. -/
  converses : E.Converses s
    (.setOption runtimeModeKey mode.optionValue :: passed.flatMap (·.exchanges)) s₁
  /-- Some statement was read as an insert. -/
  ne_nil : (passed.flatMap (·.exchanges)).filterMap Exchange.insert? ≠ []
  /-- All these inserts are submitted together, which fails. -/
  refused : E.executeCombined s₁ ((passed.flatMap (·.exchanges)).filterMap Exchange.insert?) =
    (s', .error f.failure)
  /-- The text that failed is that of all these inserts. -/
  isTextOf : IsTextOf f.statement ((passed.flatMap (·.exchanges)).filterMap Exchange.insert?)

/-- A run is aborted after a submission exactly if it passes all statements, and the submission of
the inserts among them is refused. -/
theorem aborted_at_flush_iff {f : StatementFailure} :
    (E.run s statements mode = (s', .aborted f) ∧
      ∃ inserts, .combined inserts ∈ (E.recorded.run ⟨s, []⟩ statements mode).1.calls) ↔
    ∃ (passed : List Passage) (s₁ : σ), passed.map (·.statement) = statements ∧
      E.RefusesInserts s s₁ s' mode passed f := by
  constructor
  · rintro ⟨hrun, inserts, hmem⟩
    obtain ⟨xs, hcalls, hxs, ys, rfl, hcourse⟩ :=
      (run_calls_iff E s s' statements mode _ _).mp ⟨hrun, rfl⟩
    rw [← hcalls] at hmem
    obtain ⟨s₁, hset, hys⟩ := converses_cons_iff.mp hxs
    -- Only at the end of a run are inserts submitted, so it is not a statement that ended it.
    cases hcourse with
    | flushed passed hflush =>
      obtain ⟨s₂, hpassed, hlast⟩ := converses_append_iff.mp hys
      cases hflush with
      | refused hne e =>
        rw [List.nil_append, ← passages_inserts] at hne hlast ⊢
        exact ⟨passed, s₂, rfl, .cons hset hpassed, hne, converses_singleton_iff.mp hlast,
          (isTextOf_iff hne).mpr rfl⟩
    | @ended passed statement last _ hend rest =>
      simp only [List.map_cons, List.map_append, List.mem_cons, List.mem_append] at hmem
      rcases hmem with hmem | hmem | hmem
      · cases hmem
      · exact absurd hmem (passages_combined_notMem passed inserts)
      · exact absurd hmem (hend.combined_notMem inserts)
  · rintro ⟨passed, s₁, rfl, hpassed, hne, hrefused, htext⟩
    rw [passages_inserts] at hne hrefused htext
    obtain ⟨text, e⟩ := f
    obtain rfl : text = _ := (isTextOf_iff hne).mp htext
    obtain ⟨s₂, hset, hpassed⟩ := converses_cons_iff.mp hpassed
    have hlast : E.Converses s₁ [.combined (passed.flatMap (·.inserts)) (.error e)] s' :=
      converses_singleton_iff.mpr hrefused
    have hcourse : Course [] _ _ _ := .flushed passed (.refused hne e)
    have hxs := Engine.Converses.cons hset (converses_append_iff.mpr ⟨s₁, hpassed, hlast⟩)
    obtain ⟨hrun, hcalls⟩ :=
      (run_calls_iff E s s' _ mode _ _).mpr ⟨_, rfl, hxs, _, rfl, hcourse⟩
    refine ⟨hrun, passed.flatMap (·.inserts), ?_⟩
    rw [hcalls]
    simp [Exchange.call]

end Runs

/-- **A report of a failure can be read back.** Its lines are those of the text that failed, each
behind its number; it is read as that text, no other text is, and the reports of two texts are never
the same. If inserts are submitted and the run is aborted, the text is that of all inserts that the
statements of the run were read as, in their order. -/
theorem report_aborted_readsBack :
    (∀ (format : OutputFormat) (f : StatementFailure),
      splitOn '\n' (report format (.aborted f)).toList =
        ((splitOn '\n' f.statement.toList).mapIdx fun i line =>
          (toString (i + 1)).toList ++ [':', ' '] ++ line) ++ [[]]) ∧
    (∀ (format : OutputFormat) (f : StatementFailure) (text : String),
      readReport? text = some f.statement ↔ text = report format (.aborted f)) ∧
    (∀ (format format' : OutputFormat) (f g : StatementFailure),
      report format (.aborted f) = report format' (.aborted g) ↔ f.statement = g.statement) ∧
    ∀ {σ : Type} (E : Engine σ) (s s' : σ) (statements : List String) (mode : Mode)
        (f : StatementFailure),
      (E.run s statements mode = (s', .aborted f) ∧
        ∃ inserts, .combined inserts ∈ (E.recorded.run ⟨s, []⟩ statements mode).1.calls) ↔
      ∃ (passed : List Passage) (s₁ : σ), passed.map (·.statement) = statements ∧
        E.RefusesInserts s s₁ s' mode passed f := by
  refine ⟨fun format f => ?_, fun format f text => readReport?_eq_some_iff,
    fun format format' f g => ?_, fun E s s' statements mode f => aborted_at_flush_iff⟩
  · rw [splitOn_report, StatementFailure.numberedLines, StatementFailure.map_toList_numberFrom]
    simp only [lineNumber, Nat.add_comm 1]
  · constructor
    · intro h
      have hf : readReport? (report format (.aborted f)) = some f.statement :=
        readReport?_eq_some_iff.mpr rfl
      have hg : readReport? (report format (.aborted f)) = some g.statement :=
        readReport?_eq_some_iff.mpr h
      exact Option.some.inj (hf.symm.trans hg)
    · intro h
      cases f; cases g
      obtain rfl := h
      rfl

end SqlJob
