import SqlJob.Proofs.Operation.SetGrammar
import SqlJob.Proofs.Run.Options
import SqlJob.Proofs.Script.Layout

/-!
# What a script sets is stored

A key and a value may be written in a line of a script as an assignment, each bare or between quotes
(`AssignmentLine`). This file follows such a line from the text of the script to the options of the
engine. The line is a statement of its own if nothing in front of it is open
(`statements_of_assignmentLine`). In key and value there may be anything that does not end the line,
the statement or what stands before a comment (`IsWritable`), quotes and equals signs among it. The
statement is read as the assignment that was written (`settingOf?_of_assigns`), and a run that comes
to it stores the value (`run_assignmentLine`).

For the run it matters only that it comes to the line: it goes on after each statement in front of
it (`Engine.RunsThrough`). Such a run goes on with the statements that follow as if it started there
(`Engine.RunsThrough.runFrom_append`), and how it ends changes no option.
-/

namespace SqlJob

namespace Script

open Text ModeSwitch SetSyntax

/-! ## A line that assigns an option -/

/-- The text can be written in a line of a script: it is plain, and nothing in it ends the line or
the statement. -/
structure IsWritable (s : List Char) : Prop extends IsPlain s where
  one_line : '\n' ∉ s
  no_semicolon : ';' ∉ s

/-- The line assigns the value to the key and ends with a semicolon. White space stands between the
words as one likes. -/
inductive AssignmentLine (key value : List Char) : List Char → Prop
  | intro {text d : List Char} (htext : Assigns key value text) (hd : IsSpace d)
      (hline : '\n' ∉ text ++ d) : AssignmentLine key value (text ++ (d ++ [';']))

/-- What a plain text is written as is plain. -/
theorem isPlain_of_peels {s inner : List Char} (h : Peels s inner) (hinner : IsPlain inner) :
    IsPlain s where
  ne_nil := h.ne_nil hinner.ne_nil
  isTrimmed := (isTrimmed_of_peels h hinner.isTrimmed).1
  no_comment := by
    cases h with
    | @quoted q _ hq hs =>
      have hne : q ≠ '-' := by
        rintro rfl
        exact absurd hq (by decide)
      have hstart := comment_infix_append_cons hne (s := []) (t := inner ++ [q])
      rw [List.nil_append] at hstart
      rw [hs, hstart, comment_infix_append_cons hne]
      simpa using hinner.no_comment
    | bare => exact hinner.no_comment

/-- An assignment of plain parts is plain. -/
theorem isPlain_of_assigns {key value text : List Char} (h : Assigns key value text)
    (hkey : IsPlain key) (hvalue : IsPlain value) : IsPlain text := by
  cases h with
  | @intro w a k b c v hw ha hne hk hb hc hv =>
    have hbare : IsBare w := hw.isBare (by decide)
    have hkplain := isPlain_of_peels hk hkey
    have hvplain := isPlain_of_peels hv hvalue
    refine ⟨by simp, ⟨fun x hx => ?_, fun x hx => ?_⟩, ?_⟩
    · rw [List.head?_append_of_ne_nil _ hbare.ne_nil] at hx
      exact hbare.isBlank x (List.mem_of_mem_head? hx)
    · have hlast : w ++ (a ++ (k ++ (b ++ '=' :: (c ++ v)))) =
          (w ++ (a ++ (k ++ (b ++ '=' :: c)))) ++ v := by simp
      rw [hlast, List.getLast?_append_of_ne_nil _ hvplain.ne_nil] at hx
      exact hvplain.isTrimmed.last x hx
    · -- A comment would start in the key or in the value, since no other hyphen is in the text.
      have hspells : '-' ∉ w := fun hmem =>
        absurd (hw.mem_of_mem hmem (by decide) (by decide)) (by decide)
      have hspace : ∀ s : List Char, IsSpace s → '-' ∉ s := fun s hs => hs.notMem (by decide)
      have hfront : '-' ∉ w ++ a := by simp [hspells, hspace a ha]
      have hmiddle : '-' ∉ b ++ '=' :: c := by simp [hspace b hb, hspace c hc]
      have htext : w ++ (a ++ (k ++ (b ++ '=' :: (c ++ v)))) =
          [] ++ ((w ++ a) ++ (k ++ ((b ++ '=' :: c) ++ v))) := by simp
      rw [htext, comment_infix_append hfront (by simp [hne]),
        comment_infix_append hmiddle (by simp)]
      simp [hkplain.no_comment, hvplain.no_comment]

/-- A line that assigns an option, with white space behind it, has the assignment as its
statement. -/
theorem statements_of_assignmentLine {key value line after : List Char}
    (h : AssignmentLine key value line) (hkey : IsWritable key) (hvalue : IsWritable value)
    (hafter : IsSpace after) :
    ∃ text, Assigns key value text ∧ IsTrimmed text ∧ statements (line ++ after) = [text] := by
  cases h with
  | @intro text d htext hd hline =>
    have hplain := isPlain_of_assigns htext hkey.toIsPlain hvalue.toIsPlain
    refine ⟨text, htext, hplain.isTrimmed, ?_⟩
    have hone : '\n' ∉ (text ++ d) ++ [';'] := by simpa using hline
    have hsemi : ';' ∉ text ++ d := by
      have htextsemi := htext.notMem (by decide) (by decide) (by decide) (by decide)
        hkey.no_semicolon hvalue.no_semicolon
      have hdsemi : ';' ∉ d := hd.notMem (by decide)
      simp [htextsemi, hdsemi]
    have hwhole : (text ++ d).takeWhile (· != ';') = text ++ d :=
      List.takeWhile_eq_self_iff.mpr fun c hc => by
        simpa using ne_of_mem_of_not_mem hc hsemi
    have hclosed : IsPlain ((text ++ d) ++ [';']) := by
      rw [List.append_assoc]
      exact hplain.append_space_semicolon hd
    have hrole : role ((text ++ d) ++ [';']) = .closes text := by
      rw [role_append_semicolon hclosed, hwhole, trim_append_right hd, hplain.isTrimmed.trim_eq]
    rw [statements_eq_of_contributions_eq (contributions_append_right hafter _), statements,
      ← List.append_assoc, splitOn_of_notMem hone, statementsFrom, hrole]
    simp [pieceOf, hplain.ne_nil, closeStatement, joinWith, statementsFrom]

end Script

open Text Script SetSyntax

/-! ## Statements that a run passes -/

section Runs

variable {σ : Type} {E : Engine σ} {s s' : σ} {pending pending' : PendingInserts}
  {statements : List String}

/-- From the state `s` on, the run goes on after each of the statements, and is in the state `s'`
then. The inserts put off before and after are part of this. -/
inductive Engine.RunsThrough (E : Engine σ) :
    σ → PendingInserts → List String → σ → PendingInserts → Prop
  | nil (s : σ) (pending : PendingInserts) : RunsThrough E s pending [] s pending
  | cons {s s₁ s' : σ} {pending pending₁ pending' : PendingInserts} {statement : String}
      {rest : List String} (head : E.step s pending statement = (s₁, .next pending₁))
      (tail : RunsThrough E s₁ pending₁ rest s' pending') :
      RunsThrough E s pending (statement :: rest) s' pending'

/-- A run goes through statements if it passes them one after another. -/
theorem Engine.RunsThrough.exists_passages (h : E.RunsThrough s pending statements s' pending') :
    ∃ passed : List Passage, passed.map (·.statement) = statements ∧
      E.Converses s (passed.flatMap (·.exchanges)) s' ∧
      pending' = ⟨pending.inserts ++ passed.flatMap (·.inserts)⟩ := by
  induction h with
  | nil s pending => exact ⟨[], rfl, .nil s, by simp⟩
  | @cons s s₁ s' pending pending₁ pending' statement rest head tail ih =>
    obtain ⟨xs, hxs, new, hpasses, rfl⟩ := step_eq_iff.mp head
    obtain ⟨passed, rfl, hpassed, rfl⟩ := ih
    exact ⟨⟨statement, xs, new, hpasses⟩ :: passed, rfl,
      converses_append_iff.mpr ⟨s₁, hxs, hpassed⟩, by simp⟩

/-- A run that goes through statements goes on with those behind them. -/
theorem Engine.RunsThrough.runFrom_append (h : E.RunsThrough s pending statements s' pending')
    (rest : List String) :
    E.runFrom s pending (statements ++ rest) = E.runFrom s' pending' rest := by
  obtain ⟨passed, rfl, hpassed, rfl⟩ := h.exists_passages
  exact runFrom_passages hpassed pending rest

/-- A run that goes through statements leaves the options with their assignments on top. -/
theorem Engine.RunsThrough.options_eq (hE : E.KeepsSession)
    (h : E.RunsThrough s pending statements s' pending') :
    E.options s' = (E.options s).extend (statements.filterMap settingOf?) := by
  obtain ⟨passed, rfl, hpassed, -⟩ := h.exists_passages
  exact options_passages hE hpassed

/-- To submit the inserts at the end of a run leaves the options as they are. -/
theorem options_flush (hE : E.KeepsSession) (s : σ) (pending : PendingInserts) :
    E.options (E.flush s pending).1 = E.options s := by
  rcases hflush : E.flush s pending with ⟨s', outcome⟩
  obtain ⟨xs, hxs, h⟩ := flush_eq_iff.mp hflush
  rw [options_converses hE hxs, (Closes.flushes h).filterMap_setting?]
  rfl

end Runs

/-- A run of the mock engine goes on after a statement that assigns an option, and stores the
value. -/
theorem MockEngine.step_of_settingOf? {statement key value : String}
    (h : settingOf? statement = some (key, value)) (m : MockEngine) (pending : PendingInserts) :
    engine.step m pending statement = (engine.setOption m key value, .next pending) := by
  obtain ⟨c, hread, hassigns⟩ := (exists_read_eq_setOption_iff .default).mpr h
  have hparse : engine.parse m statement = (m, .ok (.setOption c)) := by rw [← hread]; rfl
  rw [Engine.step, hparse]
  simp only [Engine.stepOperation, hassigns]

/-- A run of the mock engine that comes to a line that assigns an option stores the value exactly as
it was written: the script ends with the line, nothing in front of the line is open, and the run
goes on after each of the statements there. No other option is changed by the line. -/
theorem run_assignmentLine {m m' : MockEngine} {mode : Mode} {pending : PendingInserts}
    {before line after key value : String} (hkey : IsWritable key.toList)
    (hequal : '=' ∉ key.toList) (hvalue : IsWritable value.toList)
    (hline : AssignmentLine key.toList value.toList line.toList) (hafter : IsSpace after.toList)
    (hstart : StartsLine before.toList)
    (hidle : ∀ line ∈ splitOn '\n' (openText before.toList), IsIdle line)
    (hruns : MockEngine.engine.RunsThrough
      (MockEngine.engine.setOption m runtimeModeKey mode.optionValue) {}
      (splitScript before).statements m' pending) :
    let script := splitScript (before ++ line ++ after)
    let final := (MockEngine.engine.run m script.statements mode).1
    final.options.get? key = some value ∧
      final.options = (m.options.inForce mode (splitScript before).statements).set key value := by
  intro script final
  obtain ⟨text, htext, htrimmed, hstatement⟩ :=
    statements_of_assignmentLine hline hkey hvalue hafter
  have hstatements : script.statements =
      (splitScript before).statements ++ [String.ofList text] := by
    simp only [script, splitScript, String.toList_append, List.append_assoc]
    rw [statements_append_of_startsLine hstart hidle, hstatement, List.map_append]
    rfl
  have hsetting : settingOf? (String.ofList text) = some (key, value) := by
    refine settingOf?_of_assigns ?_ ?_ hkey.isTrimmed hequal ?_ hvalue.isTrimmed
    · rwa [String.toList_ofList, htrimmed.trim_eq]
    · simpa using hkey.ne_nil
    · simpa using hvalue.ne_nil
  have hfinal : final.options = m'.options.set key value := by
    simp only [final, Engine.run]
    rw [hstatements, hruns.runFrom_append, Engine.runFrom, MockEngine.step_of_settingOf? hsetting]
    exact options_flush MockEngine.keepsSession _ _
  have hoptions : m'.options = m.options.inForce mode (splitScript before).statements :=
    hruns.options_eq MockEngine.keepsSession
  rw [hfinal, hoptions]
  exact ⟨by simp, rfl⟩

/-- Behind an insert and a comment, a value with a quote and an equals sign in it is stored. -/
theorem run_assignmentLine_quoted :
    let before := "INSERT INTO t SELECT 1;\n-- name\n"
    let line := "SET 'pipeline.name'= \"it's a=b\" ;"
    let script := splitScript (before ++ line ++ "\r\n")
    script.statements = ["INSERT INTO t SELECT 1", "SET 'pipeline.name'= \"it's a=b\""] ∧
      (MockEngine.engine.run {} script.statements .streaming).1.options.get? "pipeline.name" =
        some "it's a=b" := by
  intro before line
  have hkey : IsWritable "pipeline.name".toList := ⟨by decide, by decide, by decide⟩
  have hvalue : IsWritable "it's a=b".toList := ⟨by decide, by decide, by decide⟩
  have hline : AssignmentLine "pipeline.name".toList "it's a=b".toList line.toList := by
    have htext : line.toList =
        ("SET".toList ++ ([' '] ++ (('\'' :: ("pipeline.name".toList ++ ['\''])) ++
          ([] ++ '=' :: ([' '] ++ ('"' :: ("it's a=b".toList ++ ['"']))))))) ++
        ([' '] ++ [';']) := by
      decide
    have hblank : IsSpace [' '] := by simp [IsSpace, isBlank]
    rw [htext]
    refine .intro (.intro ?_ hblank (by decide) (.quoted (.inl rfl) rfl) (by simp [IsSpace]) hblank
      (.quoted (.inr rfl) rfl)) hblank (by decide)
    exact .cons (by decide) (.cons (by decide) (.cons (by decide) .nil))
  have hreturn : IsSpace "\r\n".toList := by simp [IsSpace, isBlank]
  have hidle : ∀ line ∈ splitOn '\n' (openText before.toList), IsIdle line := by
    have hopen : splitOn '\n' (openText before.toList) = ["-- name".toList, []] := by decide
    have hcomment : IsIdle "-- name".toList := .inr ⟨[], " name".toList, by simp [IsSpace], rfl⟩
    have hblank : IsIdle [] := .inl (by simp [IsSpace])
    rw [hopen]
    exact List.forall_mem_cons.mpr ⟨hcomment, List.forall_mem_singleton.mpr hblank⟩
  have hstep : ∀ m : MockEngine, MockEngine.engine.step m {} "INSERT INTO t SELECT 1" =
      (m, .next ⟨[⟨"INSERT INTO t SELECT 1", "t"⟩]⟩) := by
    intro m
    have hparse : MockEngine.engine.parse m "INSERT INTO t SELECT 1" =
        (m, .ok (.insert ⟨"INSERT INTO t SELECT 1", "t"⟩)) := by
      rw [← read_insert]
      rfl
    rw [Engine.step, hparse]
    rfl
  have hruns := Engine.RunsThrough.cons
    (hstep (MockEngine.engine.setOption {} runtimeModeKey Mode.streaming.optionValue)) (.nil _ _)
  have hstatements : (splitScript before).statements = ["INSERT INTO t SELECT 1"] := by decide
  rw [← hstatements] at hruns
  have hstart : StartsLine before.toList := .inr ⟨before.toList.dropLast, by decide⟩
  obtain ⟨hstored, -⟩ :=
    run_assignmentLine hkey (by decide) hvalue hline hreturn hstart hidle hruns
  exact ⟨by decide, hstored⟩

end SqlJob
