import SqlJob.Proofs.Script.Statement

/-!
# Writing statements down and reading them again

Statements are written as a script by putting a semicolon and a line feed behind each of them. This
file says when reading gives them back.

A statement whose lines are pieces is read on its own, whatever follows (`statements_append`). Its
lines but the last one leave it open, and the last one closes it with the text before its first
semicolon. So such a statement is read back exactly if there is no semicolon in its last line
(`reread_eq_self_iff`), and if there is one, it is cut or lost. What is lost with one statement
cannot come back with another, since each gives at most one (`flatMap_eq_self_iff`).

Both main results follow. The lists of texts that are read back are those of texts that
`Survives` describes (`statements_toScript_eq_iff`). And since cutting a script into statements
gives texts whose lines are pieces, splitting what was split and joined changes nothing exactly if
no statement has a semicolon in its last line (`splitScript_toScript_eq_iff`). There are scripts for
which this fails: a semicolon inside a line stays in the statement if the statement is closed by a
semicolon on a line of its own, and ends the statement early when it is read again
(`splitScript_toScript_ne`).
-/

namespace SqlJob.Script

open Text

/-- The last line of a text. -/
def lastLine (s : List Char) : List Char := (splitOn '\n' s).getLastD []

/-- The lines of a text before the last one. -/
def firstLines (s : List Char) : List (List Char) := (splitOn '\n' s).dropLast

/-- The lines of a text are those before the last one, and the last one. -/
theorem splitOn_eq_append (s : List Char) : splitOn '\n' s = firstLines s ++ [lastLine s] := by
  obtain ⟨ps, p, h⟩ := exists_splitOn_eq_append '\n' s
  simp [firstLines, lastLine, h]

/-- The lines of a text are pieces if those before the last one and the last one are. -/
theorem isStatement_iff {s : List Char} :
    IsStatement s ↔ (∀ p ∈ firstLines s, IsPiece p) ∧ IsPiece (lastLine s) := by
  unfold IsStatement
  rw [splitOn_eq_append, List.forall_mem_append, List.forall_mem_singleton]

/-- What reading makes of a text with a semicolon behind it, if its lines are pieces. -/
def reread (s : List Char) : List (List Char) :=
  closeStatement (firstLines s ++ pieceOf (trim ((lastLine s).takeWhile (· != ';'))))

/-- A text whose lines are pieces, written as a statement, is read on its own. -/
theorem statements_append {s : List Char} (hs : IsStatement s) (rest : List Char) :
    statements (s ++ [';', '\n'] ++ rest) = reread s ++ statements rest := by
  obtain ⟨hfirst, hlast⟩ := isStatement_iff.mp hs
  have hclosed : splitOn '\n' (s ++ [';']) = firstLines s ++ [lastLine s ++ [';']] :=
    splitOn_append_of_notMem (by decide) (splitOn_eq_append s)
  calc statements (s ++ [';', '\n'] ++ rest)
      = statementsFrom [] (splitOn '\n' ((s ++ [';']) ++ '\n' :: rest)) := by simp [statements]
    _ = statementsFrom (firstLines s) ([lastLine s ++ [';']] ++ splitOn '\n' rest) := by
        rw [splitOn_append_sep, hclosed, List.append_assoc, statementsFrom_append _ _ hfirst]
        rfl
    _ = reread s ++ statements rest := by
        rw [List.singleton_append, statementsFrom, role_append_semicolon hlast.append_semicolon]
        rfl

/-- Texts whose lines are pieces, written as statements, are read one by one. -/
theorem statements_flatMap {l : List (List Char)} (h : ∀ s ∈ l, IsStatement s) :
    statements (l.flatMap (· ++ [';', '\n'])) = l.flatMap reread := by
  induction l with
  | nil => rfl
  | cons s l ih =>
    obtain ⟨hs, hl⟩ := List.forall_mem_cons.mp h
    rw [List.flatMap_cons, List.flatMap_cons, statements_append hs, ih hl]

/-- The lines of what is read are those before the last one, and what is left of the last one. -/
theorem splitOn_of_mem_reread {s t : List Char} (hs : IsStatement s) (h : t ∈ reread s) :
    splitOn '\n' t = firstLines s ++ pieceOf (trim ((lastLine s).takeWhile (· != ';'))) := by
  obtain ⟨hfirst, hlast⟩ := isStatement_iff.mp hs
  refine splitOn_of_mem_closeStatement (fun p hp => ?_) h
  rcases List.mem_append.mp hp with hp | hp
  · exact (hfirst p hp).one_line
  · obtain ⟨rfl, -⟩ := mem_pieceOf.mp hp
    intro hn
    exact hlast.one_line ((List.takeWhile_prefix _).subset ((trim_infix_self _).subset hn))

/-- A text whose lines are pieces is read back exactly if there is no semicolon in its last line. -/
theorem reread_eq_self_iff {s : List Char} (hs : IsStatement s) :
    reread s = [s] ↔ ';' ∉ lastLine s := by
  have hlast : IsPiece (lastLine s) := (isStatement_iff.mp hs).2
  constructor
  · -- The lines of what was read back are `s`'s own, and the last one was cut at a semicolon.
    intro h hsemi
    have hsame := splitOn_of_mem_reread hs (t := s) (by simp [h])
    rw [splitOn_eq_append, List.append_cancel_left_eq] at hsame
    have hmem : lastLine s ∈ pieceOf (trim ((lastLine s).takeWhile (· != ';'))) := by
      rw [← hsame]
      exact List.mem_singleton_self _
    obtain ⟨hcut, -⟩ := mem_pieceOf.mp hmem
    rw [hcut] at hsemi
    exact notMem_takeWhile_semicolon _ ((trim_infix_self _).subset hsemi)
  · intro hsemi
    have hwhole : (lastLine s).takeWhile (· != ';') = lastLine s := by
      rw [List.takeWhile_eq_self_iff]
      intro c hc
      have hne : c ≠ ';' := ne_of_mem_of_not_mem hc hsemi
      simpa using hne
    unfold reread closeStatement pieceOf
    rw [hwhole, hlast.isTrimmed.trim_eq, if_neg hlast.ne_nil, if_neg (by simp),
      ← splitOn_eq_append, joinWith_splitOn]

/-- If each element gives at most one, no more are given back than there were. -/
theorem length_flatMap_le {α : Type} {f : α → List α} (h : ∀ a, (f a).length ≤ 1) (l : List α) :
    (l.flatMap f).length ≤ l.length := by
  induction l with
  | nil => simp
  | cons a l ih =>
    have ha := h a
    simp only [List.flatMap_cons, List.length_append, List.length_cons]
    omega

/-- If each element gives at most one, all of them are given back exactly if each is. -/
theorem flatMap_eq_self_iff {α : Type} {f : α → List α} {l : List α}
    (h : ∀ a, (f a).length ≤ 1) : l.flatMap f = l ↔ ∀ a ∈ l, f a = [a] := by
  induction l with
  | nil => simp
  | cons a l ih =>
    rw [List.flatMap_cons, List.forall_mem_cons]
    constructor
    · intro heq
      have hlen := congrArg List.length heq
      have ha := h a
      have hl := length_flatMap_le h l
      simp only [List.length_append, List.length_cons] at hlen
      obtain ⟨b, hb⟩ := List.length_eq_one_iff.mp (show (f a).length = 1 by omega)
      rw [hb, List.singleton_append, List.cons.injEq] at heq
      exact ⟨by rw [hb, heq.1], ih.mp heq.2⟩
    · rintro ⟨ha, hl⟩
      rw [ha, ih.mpr hl]
      rfl

/-- Texts whose lines are pieces are read back exactly if none has a semicolon in its last line. -/
theorem statements_flatMap_eq_self_iff {l : List (List Char)} (h : ∀ s ∈ l, IsStatement s) :
    statements (l.flatMap (· ++ [';', '\n'])) = l ↔ ∀ s ∈ l, ';' ∉ lastLine s := by
  have hle : ∀ s, (reread s).length ≤ 1 := fun _ => length_closeStatement_le _
  rw [statements_flatMap h, flatMap_eq_self_iff hle]
  exact forall₂_congr fun s hs => reread_eq_self_iff (h s hs)

/-- A text that comes through being written as a statement and read again: it is not empty, its
lines are plain, no line but the last one ends with a semicolon, and the last one holds none. -/
structure Survives (statement : String) : Prop where
  ne_empty : statement ≠ ""
  plain : ∀ line ∈ splitOn '\n' statement.toList, IsPlain line
  first_open : ∀ line ∈ firstLines statement.toList, line.getLast? ≠ some ';'
  last_whole : ';' ∉ lastLine statement.toList

/-- A text survives if its lines are pieces and there is no semicolon in the last one. -/
theorem survives_iff {statement : String} :
    Survives statement ↔ IsStatement statement.toList ∧ ';' ∉ lastLine statement.toList := by
  have hlines := splitOn_eq_append statement.toList
  constructor
  · intro h
    refine ⟨fun p hp => ?_, h.last_whole⟩
    have hopen : p.getLast? ≠ some ';' := by
      rw [hlines, List.mem_append, List.mem_singleton] at hp
      rcases hp with hp | rfl
      · exact h.first_open p hp
      · exact fun hl => h.last_whole (List.mem_of_getLast? hl)
    exact ⟨h.plain p hp, hopen, notMem_of_mem_splitOn hp⟩
  · rintro ⟨h, hlast⟩
    obtain ⟨hfirst, -⟩ := isStatement_iff.mp h
    refine ⟨?_, fun p hp => (h p hp).toIsPlain, fun p hp => (hfirst p hp).leaves_open, hlast⟩
    rintro rfl
    exact (h [] (by simp [splitOn])).ne_nil rfl

end Script

open Script

/-- The statements of a script are texts whose lines are pieces. -/
theorem isStatement_of_mem_splitScript {script s : String}
    (h : s ∈ (splitScript script).statements) : IsStatement s.toList := by
  obtain ⟨t, ht, rfl⟩ := List.mem_map.mp h
  rw [String.toList_ofList]
  exact isStatement_of_mem_statements ht

/-- Trimming leaves the statements of a script as they are. -/
theorem trimmed_of_mem_splitScript {script s : String}
    (h : s ∈ (splitScript script).statements) : Text.trimmed s = s := by
  rw [Text.trimmed, (isStatement_of_mem_splitScript h).isTrimmed.2.trim_eq, String.ofList_toList]

/-- No statement of a script is empty. -/
theorem ne_empty_of_mem_splitScript {script s : String}
    (h : s ∈ (splitScript script).statements) : s ≠ "" := by
  rintro rfl
  exact (isStatement_of_mem_splitScript h).isTrimmed.1 rfl

/-- Scripts of the same statements are split in the same way: the mode is inferred from the
statements alone. -/
theorem splitScript_eq_of_statements_eq {s t : String}
    (h : (splitScript s).statements = (splitScript t).statements) :
    splitScript s = splitScript t :=
  calc splitScript s
      = ⟨(splitScript s).statements, inferMode (splitScript s).statements⟩ := rfl
    _ = ⟨(splitScript t).statements, inferMode (splitScript t).statements⟩ := by rw [h]
    _ = splitScript t := rfl

/-- The characters of statements that are written as a script. -/
theorem SplitScript.toList_toScript (s : SplitScript) :
    s.toScript.toList = (s.statements.map String.toList).flatMap (· ++ [';', '\n']) :=
  Text.toList_join_map s.statements ";\n"

/-- Texts whose lines are pieces, written as a script, are the statements of that script exactly if
none has a semicolon in its last line. -/
theorem statements_toScript_eq_self_iff {s : SplitScript}
    (h : ∀ t ∈ s.statements, IsStatement t.toList) :
    (splitScript s.toScript).statements = s.statements ↔
      ∀ t ∈ s.statements, ';' ∉ lastLine t.toList := by
  have hmap : ∀ t ∈ s.statements.map String.toList, IsStatement t := by
    simpa using h
  have hchars : (splitScript s.toScript).statements = s.statements ↔
      Script.statements s.toScript.toList = s.statements.map String.toList := by
    constructor
    · intro heq
      rw [← heq]
      simp [splitScript]
    · intro heq
      simp [splitScript, heq]
  rw [hchars, SplitScript.toList_toScript, statements_flatMap_eq_self_iff hmap]
  simp

/-- Texts that are written as a script are the statements of that script exactly if each of them
survives. -/
theorem statements_toScript_eq_iff (texts : List String) (mode : Mode) :
    (splitScript (SplitScript.toScript ⟨texts, mode⟩)).statements = texts ↔
      ∀ t ∈ texts, Survives t := by
  constructor
  · intro h t ht
    have hs : ∀ t ∈ texts, IsStatement t.toList := by
      intro t ht
      rw [← h] at ht
      exact isStatement_of_mem_splitScript ht
    exact survives_iff.mpr ⟨hs t ht, (statements_toScript_eq_self_iff hs).mp h t ht⟩
  · intro h
    have hs : ∀ t ∈ texts, IsStatement t.toList := fun t ht => (survives_iff.mp (h t ht)).1
    exact (statements_toScript_eq_self_iff hs).mpr fun t ht => (survives_iff.mp (h t ht)).2

/-- A script is split in the same way again when its statements are joined exactly if no statement
has a semicolon in its last line. -/
theorem splitScript_toScript_eq_iff (script : String) :
    splitScript (splitScript script).toScript = splitScript script ↔
      ∀ t ∈ (splitScript script).statements, ';' ∉ lastLine t.toList := by
  rw [← statements_toScript_eq_self_iff (s := splitScript script)
    (fun t => isStatement_of_mem_splitScript)]
  constructor
  · intro h
    rw [h]
  · exact splitScript_eq_of_statements_eq

/-- A semicolon inside a line ends the statement early when it is read again. -/
theorem splitScript_toScript_ne :
    splitScript (splitScript "a; b\n;\n").toScript ≠ splitScript "a; b\n;\n" := by
  decide

/-- The mode of the script may change too. -/
example :
    (splitScript "SET execution.runtime-mode = batch; x\n;\n").mode = .streaming ∧
      (splitScript (splitScript "SET execution.runtime-mode = batch; x\n;\n").toScript).mode =
        .batch := by
  decide

end SqlJob
