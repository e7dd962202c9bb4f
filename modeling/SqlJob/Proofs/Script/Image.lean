import SqlJob.Proofs.Script.Rejoining

/-!
# What scripts are cut into

The statements of a script are texts of a certain form: each line of them is plain and does not end
with a semicolon (`IsCut`). This file says that there is no other restriction. Every list of such
texts is the list of the statements of some script (`exists_statements_eq_iff`).

The script that shows it closes each statement with a semicolon on a line of its own
(`closedApart`). Such a line adds nothing to the statement, so that its last line is kept whole,
also if there is a semicolon in it (`statements_append_closed`). A semicolon right behind the last
line would cut that line, which is why the texts that survive being written with `toScript` are
fewer.
-/

namespace SqlJob

namespace Script

open Text

/-- A text that a script may be cut into: it is not empty, its lines are plain, and none of them
ends with a semicolon. -/
structure IsCut (statement : String) : Prop where
  ne_empty : statement ≠ ""
  plain : ∀ line ∈ splitOn '\n' statement.toList, IsPlain line
  lines_open : ∀ line ∈ splitOn '\n' statement.toList, line.getLast? ≠ some ';'

/-- A text may be cut from a script if its lines are pieces. -/
theorem isCut_iff {statement : String} : IsCut statement ↔ IsStatement statement.toList := by
  constructor
  · intro h line hline
    exact ⟨h.plain line hline, h.lines_open line hline, notMem_of_mem_splitOn hline⟩
  · intro h
    refine ⟨?_, fun line hline => (h line hline).toIsPlain,
      fun line hline => (h line hline).leaves_open⟩
    -- The only line of the empty text is empty, which no piece is.
    rintro rfl
    exact (h [] (by simp [splitOn])).ne_nil rfl

/-- A semicolon on a line of its own closes a statement without adding to it. -/
theorem role_semicolon : role [';'] = .closes [] := by decide

/-- A text whose lines are pieces, closed by a semicolon on a line of its own, is read on its own
and kept whole. -/
theorem statements_append_closed {s : List Char} (hs : IsStatement s) (rest : List Char) :
    statements (s ++ ['\n', ';', '\n'] ++ rest) = s :: statements rest := by
  have hclosed : closeStatement (splitOn '\n' s ++ pieceOf []) = [s] := by
    simp [closeStatement, pieceOf, splitOn_ne_nil, joinWith_splitOn]
  have hlines : splitOn '\n' (s ++ ['\n', ';', '\n'] ++ rest) =
      splitOn '\n' s ++ [';'] :: splitOn '\n' rest := by
    have htext : s ++ ['\n', ';', '\n'] ++ rest = s ++ '\n' :: ([';'] ++ '\n' :: rest) := by simp
    rw [htext, splitOn_append_sep, splitOn_append_sep, splitOn_of_notMem (s := [';']) (by decide)]
    rfl
  calc statements (s ++ ['\n', ';', '\n'] ++ rest)
      = statementsFrom (splitOn '\n' s) ([';'] :: splitOn '\n' rest) := by
        rw [statements, hlines, statementsFrom_append [] _ hs, List.nil_append]
    _ = s :: statements rest := by
        rw [statementsFrom, role_semicolon]
        dsimp only
        rw [hclosed]
        rfl

/-- Texts whose lines are pieces, closed by semicolons on lines of their own, are read back. -/
theorem statements_flatMap_closed {l : List (List Char)} (h : ∀ s ∈ l, IsStatement s) :
    statements (l.flatMap (· ++ ['\n', ';', '\n'])) = l := by
  induction l with
  | nil => rfl
  | cons s l ih =>
    obtain ⟨hs, hl⟩ := List.forall_mem_cons.mp h
    rw [List.flatMap_cons, statements_append_closed hs, ih hl]

/-- Texts as a script in which each is closed by a semicolon on a line of its own. -/
def closedApart (texts : List String) : String :=
  String.join (texts.map (· ++ "\n;\n"))

/-- The characters of texts that are closed by semicolons on lines of their own. -/
theorem toList_closedApart (texts : List String) :
    (closedApart texts).toList = (texts.map String.toList).flatMap (· ++ ['\n', ';', '\n']) :=
  toList_join_map texts "\n;\n"

/-- Texts that a script may be cut into are the statements of the script that closes each of them
by a semicolon on a line of its own. -/
theorem statements_closedApart {texts : List String} (h : ∀ t ∈ texts, IsCut t) :
    (splitScript (closedApart texts)).statements = texts := by
  have hchars : ∀ s ∈ texts.map String.toList, IsStatement s := by
    intro s hs
    obtain ⟨t, ht, rfl⟩ := List.mem_map.mp hs
    exact isCut_iff.mp (h t ht)
  simp [splitScript, toList_closedApart, statements_flatMap_closed hchars]

end Script

open Script

/-- The lists of texts that scripts are cut into are those of texts that are not empty and have only
plain lines that do not end with a semicolon. -/
theorem exists_statements_eq_iff (texts : List String) :
    (∃ script, (splitScript script).statements = texts) ↔ ∀ t ∈ texts, IsCut t := by
  constructor
  · rintro ⟨script, rfl⟩ t ht
    exact isCut_iff.mpr (isStatement_of_mem_splitScript ht)
  · intro h
    exact ⟨closedApart texts, statements_closedApart h⟩

/-- A semicolon may stand in any line, if it is not the end of it. -/
example : (splitScript (closedApart ["a; b\n;c", "d ;; e"])).statements =
    ["a; b\n;c", "d ;; e"] := by
  decide

end SqlJob
