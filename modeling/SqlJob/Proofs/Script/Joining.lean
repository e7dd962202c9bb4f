import SqlJob.Proofs.Script.Grouping
import SqlJob.Source
import Mathlib.Data.List.DropRight

/-!
# Scripts in two parts

A script may come in two texts, of which the second is put behind the first with a line feed
between. The statements of both together are those of the first text and then those of the second
one with what the first leaves open in front of it (`Script.statements_append_newline`). What a text
leaves open is what stands behind its last terminating line (`Script.openText`). So the second text
changes nothing about the statements of the first, and if the first leaves nothing open but blank
lines and comments, the statements of the whole are those of the two texts on their own
(`splitScript_append`).

In terms of groups of lines, what the first text leaves open is the rest behind its groups
(`Script.Grouping.rtakeWhile_eq`), and the lines of the second text join it.
-/

namespace SqlJob

namespace Script

open Text

/-! ## What a text leaves open -/

/-- What a text leaves open: what stands behind its last terminating line, or all of it if it has
none. -/
def openText (s : List Char) : List Char :=
  joinWith '\n' ((splitOn '\n' s).rtakeWhile fun l => ¬IsTerminating l)

/-- Behind the last terminating line there is the rest that follows the groups. -/
theorem Grouping.rtakeWhile_eq {ls rest : List (List Char)} {groups : List (List (List Char))}
    (h : Grouping ls groups rest) : (ls.rtakeWhile fun l => ¬IsTerminating l) = rest := by
  have hrest : ∀ l ∈ rest.reverse, decide (¬IsTerminating l) = true :=
    fun l hl => decide_eq_true (h.rest_open l (List.mem_reverse.mp hl))
  obtain ⟨rfl, hgroups, -⟩ := h
  rw [List.rtakeWhile, List.reverse_append, List.takeWhile_append_of_pos hrest]
  -- What stands in front of the rest is nothing, or it ends with the terminating line of a group.
  rcases groups.eq_nil_or_concat with rfl | ⟨before, g, rfl⟩
  · simp
  · obtain ⟨first, last, rfl, -, hlast⟩ := hgroups g (by simp)
    simp [hlast]

/-- Lines put together and cut again make the same statements. -/
theorem statementsFrom_splitOn_joinWith {ls : List (List Char)} (h : ∀ l ∈ ls, '\n' ∉ l)
    (others : List (List Char)) :
    statementsFrom [] (splitOn '\n' (joinWith '\n' ls) ++ others) =
      statementsFrom [] (ls ++ others) := by
  cases ls with
  | nil => rfl
  | cons l ls => rw [splitOn_joinWith (List.cons_ne_nil l ls) h]

/-- The statements of a text with another one behind it: those of the first, and those of the second
behind what the first leaves open. -/
theorem statements_append_newline (first second : List Char) :
    statements (first ++ '\n' :: second) =
      statements first ++ statements (openText first ++ '\n' :: second) := by
  obtain ⟨groups, rest, h⟩ := exists_grouping (splitOn '\n' first)
  have hopen : openText first = joinWith '\n' rest := by rw [openText, h.rtakeWhile_eq]
  have hrest : ∀ l ∈ rest, '\n' ∉ l := fun l hl =>
    notMem_of_mem_splitOn (h.join_eq ▸ List.mem_append_right groups.flatten hl)
  -- On both sides there are the groups of the first text, and then its rest with the second text.
  simp only [statements, splitOn_append_sep]
  rw [h.statementsFrom_append, ← h.statementsFrom_eq, hopen, statementsFrom_splitOn_joinWith hrest]

/-! ## Blank lines and comments -/

/-- There is nothing on the line but white space and a comment. -/
def IsIdle (line : List Char) : Prop :=
  IsSpace line ∨ ∃ space comment, IsSpace space ∧ line = space ++ '-' :: '-' :: comment

/-- A character that is no hyphen starts no comment. -/
theorem beforeComment_cons_of_ne {c : Char} (h : c ≠ '-') (s : List Char) :
    beforeComment (c :: s) = c :: beforeComment s := by
  cases s <;> simp [beforeComment, h]

/-- Behind white space a comment is cut off. -/
theorem beforeComment_append_comment {space : List Char} (h : IsSpace space)
    (comment : List Char) : beforeComment (space ++ '-' :: '-' :: comment) = space := by
  induction space with
  | nil => simp [beforeComment]
  | cons c space ih =>
    obtain ⟨hc, hspace⟩ := List.forall_mem_cons.mp h
    have hne : c ≠ '-' := by
      rintro rfl
      exact absurd hc (by decide)
    rw [List.cons_append, beforeComment_cons_of_ne hne, ih hspace]

/-- A line with nothing on it but white space and a comment contributes nothing. -/
theorem IsIdle.content_eq {line : List Char} (h : IsIdle line) : content line = [] := by
  rcases h with hspace | ⟨space, comment, hspace, rfl⟩
  · have hcontent := content_append_right hspace []
    rwa [List.nil_append] at hcontent
  · have hcut := trim_append_right hspace []
    rwa [List.nil_append, ← beforeComment_append_comment hspace comment] at hcut

/-- Lines with nothing on them but white space and comments leave no trace. -/
theorem statementsFrom_append_of_isIdle {ls : List (List Char)} (h : ∀ l ∈ ls, IsIdle l)
    (others : List (List Char)) :
    statementsFrom [] (ls ++ others) = statementsFrom [] others := by
  induction ls with
  | nil => rfl
  | cons l ls ih =>
    obtain ⟨hl, hls⟩ := List.forall_mem_cons.mp h
    rw [List.cons_append, statementsFrom, role, hl.content_eq]
    exact ih hls

/-- If a text leaves nothing open but blank lines and comments, it may be read on its own. -/
theorem statements_append_of_isIdle {first : List Char}
    (h : ∀ line ∈ splitOn '\n' (openText first), IsIdle line) (second : List Char) :
    statements (first ++ '\n' :: second) = statements first ++ statements second := by
  rw [statements_append_newline]
  simp only [statements, splitOn_append_sep]
  rw [statementsFrom_append_of_isIdle h]

end Script

open Text Script

/-- Statements one behind another ask for batch mode exactly if the ones or the others do. -/
theorem inferMode_append_eq_batch_iff (first second : List String) :
    inferMode (first ++ second) = .batch ↔
      inferMode first = .batch ∨ inferMode second = .batch := by
  simp only [inferMode, List.any_append]
  cases first.any isBatchSwitch <;> simp

/-- The statements of a script in two parts are those of the first part, and then those of the
second behind what the first leaves open. So those of the first part come first, whatever the second
is. If the first part leaves nothing open but blank lines and comments, each part is read as if it
stood on its own, and the script asks for batch mode exactly if one of them does. -/
theorem splitScript_append (ddl dml : String) :
    (splitScript (ddl ++ "\n" ++ dml)).statements =
        (splitScript ddl).statements ++
          (splitScript (String.ofList (openText ddl.toList) ++ "\n" ++ dml)).statements ∧
      (splitScript ddl).statements <+: (splitScript (ddl ++ "\n" ++ dml)).statements ∧
      ((∀ line ∈ splitOn '\n' (openText ddl.toList), IsIdle line) →
        (splitScript (ddl ++ "\n" ++ dml)).statements =
            (splitScript ddl).statements ++ (splitScript dml).statements ∧
          ((splitScript (ddl ++ "\n" ++ dml)).mode = .batch ↔
            (splitScript ddl).mode = .batch ∨ (splitScript dml).mode = .batch)) ∧
      ∀ (t : FileTree) (first second : ScriptSource),
        first.read t = .ok ddl → second.read t = .ok dml →
          (ScriptSources.split first second).read t = .ok (ddl ++ "\n" ++ dml) := by
  have htext : ∀ a b : String, (a ++ "\n" ++ b).toList = a.toList ++ '\n' :: b.toList := by
    intro a b
    simp
  have hstatements : (splitScript (ddl ++ "\n" ++ dml)).statements =
      (splitScript ddl).statements ++
        (splitScript (String.ofList (openText ddl.toList) ++ "\n" ++ dml)).statements := by
    simp only [splitScript, htext, String.toList_ofList]
    rw [statements_append_newline, List.map_append]
  refine ⟨hstatements, ⟨_, hstatements.symm⟩, fun hidle => ?_, fun t first second hddl hdml => ?_⟩
  · have happend : (splitScript (ddl ++ "\n" ++ dml)).statements =
        (splitScript ddl).statements ++ (splitScript dml).statements := by
      simp only [splitScript, htext]
      rw [statements_append_of_isIdle hidle, List.map_append]
    have hmode : (splitScript (ddl ++ "\n" ++ dml)).mode =
        inferMode (splitScript (ddl ++ "\n" ++ dml)).statements := rfl
    refine ⟨happend, ?_⟩
    rw [hmode, happend]
    exact inferMode_append_eq_batch_iff _ _
  · simp only [ScriptSources.read, hddl, hdml]

/-- A first part that ends with a blank line and a comment leaves the second one as it is. -/
theorem splitScript_append_comment :
    let ddl := "SET execution.runtime-mode = batch;\r\n\r\n  -- tables"
    let dml := "INSERT INTO t\nSELECT 1;"
    (∀ line ∈ splitOn '\n' (openText ddl.toList), IsIdle line) ∧
      (splitScript (ddl ++ "\n" ++ dml)).statements =
        ["SET execution.runtime-mode = batch", "INSERT INTO t\nSELECT 1"] ∧
      (splitScript (ddl ++ "\n" ++ dml)).mode = .batch := by
  intro ddl dml
  have hopen : splitOn '\n' (openText ddl.toList) = [['\r'], "  -- tables".toList] := by decide
  have hblank : IsIdle ['\r'] := .inl (by simp [IsSpace, isBlank])
  have hcomment : IsIdle "  -- tables".toList :=
    .inr ⟨[' ', ' '], " tables".toList, by simp [IsSpace, isBlank], rfl⟩
  have hidle : ∀ line ∈ splitOn '\n' (openText ddl.toList), IsIdle line := by
    rw [hopen]
    exact List.forall_mem_cons.mpr ⟨hblank, List.forall_mem_singleton.mpr hcomment⟩
  obtain ⟨hstatements, hmode⟩ := (splitScript_append ddl dml).2.2.1 hidle
  exact ⟨hidle, hstatements.trans (by decide), hmode.mpr (.inl (by decide))⟩

end SqlJob
