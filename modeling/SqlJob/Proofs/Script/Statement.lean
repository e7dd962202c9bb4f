import SqlJob.Proofs.Script.Line
import SqlJob.Proofs.Text.Pieces

/-!
# Statements of a script

Every statement that a script is cut into consists of lines that are pieces in the sense of
`IsPiece`: `isStatement_of_mem_statements`. The invariant of the reading is that the pieces of the
open statement are such lines. Reading lines that are pieces adds them to the open statement
(`statementsFrom_append`), and pieces that are put together to a statement are its lines
(`splitOn_of_mem_closeStatement`).
-/

namespace SqlJob.Script

open Text

/-- A text all of whose lines are pieces. -/
def IsStatement (s : List Char) : Prop := ∀ p ∈ splitOn '\n' s, IsPiece p

/-- A text all of whose lines are pieces starts with a piece and ends with one. So it is not empty,
and no white space stands at its ends. -/
theorem IsStatement.isTrimmed {s : List Char} (h : IsStatement s) : s ≠ [] ∧ IsTrimmed s := by
  obtain ⟨p, ps, hfirst⟩ := exists_splitOn_eq_cons '\n' s
  obtain ⟨qs, q, hlast⟩ := exists_splitOn_eq_append '\n' s
  have hp : IsPiece p := h p (by rw [hfirst]; exact List.mem_cons_self)
  have hq : IsPiece q := h q (by rw [hlast]; simp)
  obtain ⟨t, ht⟩ : p <+: s := by
    rw [← joinWith_splitOn '\n' s, hfirst]
    exact prefix_joinWith_cons p ps
  obtain ⟨u, hu⟩ : q <:+ s := by
    rw [← joinWith_splitOn '\n' s, hlast]
    exact suffix_joinWith_append qs q
  refine ⟨?_, ?_, ?_⟩
  · rintro rfl
    exact hp.ne_nil (List.append_eq_nil_iff.mp ht).1
  · intro c hc
    rw [← ht, List.head?_append_of_ne_nil _ hp.ne_nil] at hc
    exact hp.isTrimmed.head c hc
  · intro c hc
    rw [← hu, List.getLast?_append_of_ne_nil _ hq.ne_nil] at hc
    exact hq.isTrimmed.last c hc

/-- A text that is a piece is one if there is any. -/
theorem mem_pieceOf {text p : List Char} : p ∈ pieceOf text ↔ p = text ∧ text ≠ [] := by
  unfold pieceOf
  split_ifs with h
  · simp [h]
  · simp [h]

/-- At most one statement comes of the pieces of an open one. -/
theorem length_closeStatement_le (pieces : List (List Char)) :
    (closeStatement pieces).length ≤ 1 := by
  unfold closeStatement
  split_ifs <;> simp

/-- The lines of a statement are the pieces that it was put together from. -/
theorem splitOn_of_mem_closeStatement {pieces : List (List Char)} {s : List Char}
    (hp : ∀ p ∈ pieces, '\n' ∉ p) (h : s ∈ closeStatement pieces) :
    splitOn '\n' s = pieces := by
  unfold closeStatement at h
  split_ifs at h with hne
  · simp at h
  · rw [List.mem_singleton.mp h]
    exact splitOn_joinWith hne hp

/-- Lines that are pieces are added to the open statement. -/
theorem statementsFrom_append (pending : List (List Char)) {ps : List (List Char)}
    (rest : List (List Char)) (h : ∀ p ∈ ps, IsPiece p) :
    statementsFrom pending (ps ++ rest) = statementsFrom (pending ++ ps) rest := by
  induction ps generalizing pending with
  | nil => simp
  | cons p ps ih =>
    obtain ⟨hp, hps⟩ := List.forall_mem_cons.mp h
    rw [List.cons_append, statementsFrom, role_of_isPiece hp]
    dsimp only
    rw [ih (pending ++ [p]) hps, List.append_assoc]
    rfl

/-- If the open statement consists of pieces, all statements that come of it and the lines that
follow do. -/
theorem isStatement_of_mem_statementsFrom {pending lines : List (List Char)} {s : List Char}
    (hl : ∀ line ∈ lines, '\n' ∉ line) (hp : ∀ p ∈ pending, IsPiece p)
    (h : s ∈ statementsFrom pending lines) : IsStatement s := by
  -- Each line keeps the pieces of the open statement what they are, or starts a new one.
  induction lines generalizing pending with
  | nil => simp [statementsFrom] at h
  | cons line lines ih =>
    obtain ⟨hline, hlines⟩ := List.forall_mem_cons.mp hl
    rw [statementsFrom] at h
    cases hr : role line with
    | blank =>
      rw [hr] at h
      exact ih hlines hp h
    | continues text =>
      rw [hr] at h
      have hp' : ∀ p ∈ pending ++ [text], IsPiece p := by
        intro p hmem
        rcases List.mem_append.mp hmem with hmem | hmem
        · exact hp p hmem
        · rw [List.mem_singleton.mp hmem]
          exact isPiece_of_continues hline hr
      exact ih hlines hp' h
    | closes head =>
      rw [hr] at h
      rcases List.mem_append.mp h with h | h
      · have hp' : ∀ p ∈ pending ++ pieceOf head, IsPiece p := by
          intro p hmem
          rcases List.mem_append.mp hmem with hmem | hmem
          · exact hp p hmem
          · obtain ⟨rfl, hne⟩ := mem_pieceOf.mp hmem
            exact isPiece_of_closes hline hr hne
        intro p hmem
        rw [splitOn_of_mem_closeStatement (fun q hq => (hp' q hq).one_line) h] at hmem
        exact hp' p hmem
      · exact ih hlines (by simp) h

/-- All lines of the statements that a script is cut into are pieces. -/
theorem isStatement_of_mem_statements {script s : List Char} (h : s ∈ statements script) :
    IsStatement s :=
  isStatement_of_mem_statementsFrom (fun _ hl => notMem_of_mem_splitOn hl) (by simp) h

end SqlJob.Script
