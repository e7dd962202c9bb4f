import SqlJob.Proofs.Script.Statement

/-!
# The statements of a script as groups of lines

A line is terminating if what it contributes ends with a semicolon. The lines of a script fall into
groups, each of which ends with its only terminating line, and lines behind the last such line
(`Grouping`); there is one way to group them (`exists_grouping`, `Grouping.unique`). What a line
adds to a statement is what it contributes, and of a terminating line the part before its first
semicolon (`addition`).

The main statement, `statements_eq_groups`, is that the statements of a script are the groups that
add something, one for each, in their order. So no text that is added up to the last terminating
line is lost, doubled or moved, and what follows that line leaves no trace.

The lines here are those of the text as it is usually read, where a carriage return may stand before
the line feed and a text that ends with a line feed has no empty line behind it. The splitter takes
the pieces between the line feeds instead. It is the same to it, since a carriage return is white
space at the end of the line (`statements_eq_statementsFrom_lines`).
-/

namespace SqlJob

namespace Script

open Text

/-! ## Lines -/

/-- The line without the carriage return at its end, if there is one. -/
def dropReturn (line : List Char) : List Char :=
  if line.getLast? = some '\r' then line.dropLast else line

/-- The lines of a text. Each ends at a line feed, and a carriage return right before that belongs
to the end of the line; what follows the last line feed is a line unless it is empty. -/
def lines (s : List Char) : List (List Char) :=
  (splitOn '\n' s).dropLast.map dropReturn ++ pieceOf ((splitOn '\n' s).getLastD [])

/-- The carriage return at the end of a line contributes nothing. -/
theorem content_dropReturn (line : List Char) : content (dropReturn line) = content line := by
  unfold dropReturn
  split_ifs with h
  · obtain ⟨init, rfl⟩ := List.getLast?_eq_some_iff.mp h
    have hreturn : IsSpace ['\r'] := by simp [IsSpace, isBlank]
    rw [List.dropLast_concat, content_append_right hreturn]
  · rfl

/-- The role of a line is a matter of what it contributes. -/
theorem role_congr {a b : List Char} (h : content a = content b) : role a = role b := by
  unfold role
  rw [h]

/-- Lines of the same roles make the same statements. -/
theorem statementsFrom_map_append {f : List Char → List Char} (hf : ∀ l, role (f l) = role l)
    (pending ls rest : List (List Char)) :
    statementsFrom pending (ls.map f ++ rest) = statementsFrom pending (ls ++ rest) := by
  induction ls generalizing pending with
  | nil => rfl
  | cons l ls ih =>
    rw [List.map_cons, List.cons_append, List.cons_append, statementsFrom, statementsFrom, hf]
    cases role l with
    | blank => exact ih pending
    | continues text => exact ih (pending ++ [text])
    | closes head =>
      dsimp only
      rw [ih []]

/-- An empty line makes no statement, be it there or not. -/
theorem statementsFrom_append_pieceOf (pending ls : List (List Char)) (l : List Char) :
    statementsFrom pending (ls ++ pieceOf l) = statementsFrom pending (ls ++ [l]) := by
  induction ls generalizing pending with
  | nil =>
    cases l with
    | nil => rfl
    | cons c l => rfl
  | cons l' ls ih =>
    rw [List.cons_append, List.cons_append, statementsFrom, statementsFrom]
    cases role l' with
    | blank => exact ih pending
    | continues text => exact ih (pending ++ [text])
    | closes head =>
      dsimp only
      rw [ih []]

/-- The statements of a script are those of its lines. -/
theorem statements_eq_statementsFrom_lines (script : List Char) :
    statements script = statementsFrom [] (lines script) := by
  obtain ⟨ps, p, h⟩ := exists_splitOn_eq_append '\n' script
  unfold statements lines
  rw [h, List.dropLast_concat, List.getLastD_concat,
    statementsFrom_map_append fun l => role_congr (content_dropReturn l),
    statementsFrom_append_pieceOf]

/-! ## What a line adds -/

/-- What the line contributes ends with a semicolon. -/
def IsTerminating (line : List Char) : Prop := (content line).getLast? = some ';'

instance : DecidablePred IsTerminating :=
  fun line => inferInstanceAs (Decidable ((content line).getLast? = some ';'))

/-- Of texts, those that are not empty: the first one if it is, and those of the others. -/
theorem filter_ne_nil_cons (p : List Char) (ps : List (List Char)) :
    (p :: ps).filter (· ≠ []) = pieceOf p ++ ps.filter (· ≠ []) := by
  unfold pieceOf
  rw [List.filter_cons]
  by_cases h : p = [] <;> simp [h]

/-- What a line adds to a statement: what it contributes, and of a terminating line what stands
before its first semicolon. -/
def addition (line : List Char) : List Char :=
  if IsTerminating line then trim ((content line).takeWhile (· != ';')) else content line

/-- What lines add to a statement, without those that add nothing. -/
def additions (ls : List (List Char)) : List (List Char) :=
  (ls.map addition).filter (· ≠ [])

@[simp] theorem additions_nil : additions [] = [] := rfl

/-- What lines add is what the first of them adds, if it adds anything, and what the others add. -/
theorem additions_cons (l : List Char) (ls : List (List Char)) :
    additions (l :: ls) = pieceOf (addition l) ++ additions ls := by
  unfold additions
  rw [List.map_cons, filter_ne_nil_cons]

theorem additions_append (ls ms : List (List Char)) :
    additions (ls ++ ms) = additions ls ++ additions ms := by
  simp [additions]

/-- A line that is not terminating adds what it contributes to the open statement. -/
theorem statementsFrom_cons_of_not {l : List Char} (h : ¬ IsTerminating l)
    (pending ls : List (List Char)) :
    statementsFrom pending (l :: ls) = statementsFrom (pending ++ pieceOf (addition l)) ls := by
  have hlast : ¬ (content l).getLast? = some ';' := h
  rw [statementsFrom, role, addition, if_neg h, pieceOf]
  split_ifs with hempty
  · simp
  · rfl

/-- A terminating line closes the open statement with what it adds. -/
theorem statementsFrom_cons_of {l : List Char} (h : IsTerminating l)
    (pending ls : List (List Char)) :
    statementsFrom pending (l :: ls) =
      closeStatement (pending ++ pieceOf (addition l)) ++ statementsFrom [] ls := by
  have hlast : (content l).getLast? = some ';' := h
  have hne : content l ≠ [] := by
    rintro hnil
    simp [hnil] at hlast
  rw [statementsFrom, role, addition, if_pos h, if_neg hne, if_pos hlast]

/-- Lines that are not terminating add to the open statement. -/
theorem statementsFrom_append_of_not {ls : List (List Char)} (h : ∀ l ∈ ls, ¬ IsTerminating l)
    (pending rest : List (List Char)) :
    statementsFrom pending (ls ++ rest) = statementsFrom (pending ++ additions ls) rest := by
  induction ls generalizing pending with
  | nil => simp
  | cons l ls ih =>
    obtain ⟨hl, hls⟩ := List.forall_mem_cons.mp h
    rw [List.cons_append, statementsFrom_cons_of_not hl, ih hls, additions_cons, List.append_assoc]

/-! ## Groups -/

/-- The last line is terminating and no line before it is. -/
def IsGroup (group : List (List Char)) : Prop :=
  ∃ first last, group = first ++ [last] ∧ (∀ l ∈ first, ¬ IsTerminating l) ∧ IsTerminating last

/-- Lines as groups and what follows the last group. -/
structure Grouping (ls : List (List Char)) (groups : List (List (List Char)))
    (rest : List (List Char)) : Prop where
  join_eq : groups.flatten ++ rest = ls
  isGroup : ∀ g ∈ groups, IsGroup g
  rest_open : ∀ l ∈ rest, ¬ IsTerminating l

/-- All lines can be grouped. -/
theorem exists_grouping (ls : List (List Char)) : ∃ groups rest, Grouping ls groups rest := by
  induction ls with
  | nil => exact ⟨[], [], rfl, by simp, by simp⟩
  | cons l ls ih =>
    obtain ⟨groups, rest, rfl, hgroups, hrest⟩ := ih
    by_cases hl : IsTerminating l
    · -- The line is a group of its own.
      have hgroup : IsGroup [l] := ⟨[], l, rfl, by simp, hl⟩
      exact ⟨[l] :: groups, rest, by simp, List.forall_mem_cons.mpr ⟨hgroup, hgroups⟩, hrest⟩
    · -- The line belongs to the first group, or to the rest if there is no group.
      cases groups with
      | nil => exact ⟨[], l :: rest, by simp, by simp, List.forall_mem_cons.mpr ⟨hl, hrest⟩⟩
      | cons g groups =>
        obtain ⟨hg, hothers⟩ := List.forall_mem_cons.mp hgroups
        obtain ⟨first, last, rfl, hfirst, hlast⟩ := hg
        have hgroup : IsGroup (l :: (first ++ [last])) :=
          ⟨l :: first, last, rfl, List.forall_mem_cons.mpr ⟨hl, hfirst⟩, hlast⟩
        exact ⟨(l :: (first ++ [last])) :: groups, rest, by simp,
          List.forall_mem_cons.mpr ⟨hgroup, hothers⟩, hrest⟩

/-- The lines before the first terminating one are the same in whatever way lines are written. -/
theorem first_unique {first first' after after' : List (List Char)} {last last' : List Char}
    (hfirst : ∀ l ∈ first, ¬ IsTerminating l) (hlast : IsTerminating last)
    (hfirst' : ∀ l ∈ first', ¬ IsTerminating l) (hlast' : IsTerminating last')
    (h : first ++ last :: after = first' ++ last' :: after') :
    first = first' ∧ last = last' ∧ after = after' := by
  induction first generalizing first' with
  | nil =>
    cases first' with
    | nil => simpa using h
    | cons l first' =>
      obtain ⟨rfl, -⟩ := List.cons_eq_cons.mp h
      exact absurd hlast (hfirst' _ List.mem_cons_self)
  | cons l first ih =>
    obtain ⟨hl, hfirst⟩ := List.forall_mem_cons.mp hfirst
    cases first' with
    | nil =>
      obtain ⟨rfl, -⟩ := List.cons_eq_cons.mp h
      exact absurd hlast' hl
    | cons l' first' =>
      obtain ⟨rfl, htail⟩ := List.cons_eq_cons.mp h
      obtain ⟨rfl, hrest⟩ := ih hfirst (List.forall_mem_cons.mp hfirst').2 htail
      exact ⟨rfl, hrest⟩

/-- Behind a group there is a terminating line, which is not among lines of the rest. -/
theorem Grouping.not_rest_eq {groups : List (List (List Char))} {g rest rest' : List (List Char)}
    (hg : IsGroup g) (hrest : ∀ l ∈ rest, ¬ IsTerminating l) :
    rest ≠ (g :: groups).flatten ++ rest' := by
  rintro rfl
  obtain ⟨first, last, rfl, -, hlast⟩ := hg
  exact hrest last (by simp) hlast

/-- Lines can be grouped in one way only. -/
theorem Grouping.unique {ls rest rest' : List (List Char)}
    {groups groups' : List (List (List Char))}
    (h : Grouping ls groups rest) (h' : Grouping ls groups' rest') :
    groups = groups' ∧ rest = rest' := by
  induction groups generalizing ls groups' with
  | nil =>
    cases groups' with
    | nil =>
      have heq : rest = rest' := by simpa using h.join_eq.trans h'.join_eq.symm
      exact ⟨rfl, heq⟩
    | cons g' groups' =>
      have heq : rest = (g' :: groups').flatten ++ rest' := h.join_eq.trans h'.join_eq.symm
      exact absurd heq (Grouping.not_rest_eq (h'.isGroup g' List.mem_cons_self) h.rest_open)
  | cons g groups ih =>
    obtain ⟨hg, hgroups⟩ := List.forall_mem_cons.mp h.isGroup
    cases groups' with
    | nil =>
      have heq : rest' = (g :: groups).flatten ++ rest := h'.join_eq.trans h.join_eq.symm
      exact absurd heq (Grouping.not_rest_eq hg h'.rest_open)
    | cons g' groups' =>
      obtain ⟨hg', hgroups'⟩ := List.forall_mem_cons.mp h'.isGroup
      obtain ⟨first, last, rfl, hfirst, hlast⟩ := hg
      obtain ⟨first', last', rfl, hfirst', hlast'⟩ := hg'
      have heq := h.join_eq.trans h'.join_eq.symm
      simp only [List.flatten_cons, List.append_assoc, List.singleton_append] at heq
      obtain ⟨rfl, rfl, hafter⟩ := first_unique hfirst hlast hfirst' hlast' heq
      obtain ⟨rfl, rfl⟩ := ih ⟨hafter, hgroups, h.rest_open⟩ ⟨rfl, hgroups', h'.rest_open⟩
      exact ⟨rfl, rfl⟩

/-- Behind grouped lines there may be others: each group closes what its lines add, and the others
are read with the rest before them. -/
theorem Grouping.statementsFrom_append {ls rest : List (List Char)}
    {groups : List (List (List Char))} (h : Grouping ls groups rest) (others : List (List Char)) :
    statementsFrom [] (ls ++ others) =
      (groups.map additions).flatMap closeStatement ++ statementsFrom [] (rest ++ others) := by
  obtain ⟨rfl, hgroups, -⟩ := h
  induction groups with
  | nil => rfl
  | cons g groups ih =>
    obtain ⟨hg, hothers⟩ := List.forall_mem_cons.mp hgroups
    obtain ⟨first, last, rfl, hfirst, hlast⟩ := hg
    have hadd : additions (first ++ [last]) = additions first ++ pieceOf (addition last) := by
      rw [additions_append, additions_cons, additions_nil, List.append_nil]
    rw [List.flatten_cons, List.append_assoc, List.append_assoc, List.append_assoc,
      List.singleton_append, statementsFrom_append_of_not hfirst, statementsFrom_cons_of hlast,
      ← List.append_assoc groups.flatten, ih hothers, List.nil_append, List.map_cons,
      List.flatMap_cons, hadd, List.append_assoc]

/-- The statements of grouped lines: each group closes what its lines add, and the rest makes no
statement. -/
theorem Grouping.statementsFrom_eq {ls rest : List (List Char)} {groups : List (List (List Char))}
    (h : Grouping ls groups rest) :
    statementsFrom [] ls = (groups.map additions).flatMap closeStatement := by
  have hrest : statementsFrom [] (rest ++ []) = [] :=
    statementsFrom_append_of_not h.rest_open [] []
  rw [← List.append_nil ls, h.statementsFrom_append, hrest, List.append_nil]

/-- Closing statements one by one joins the pieces of those that have any. -/
theorem flatMap_closeStatement (ps : List (List (List Char))) :
    ps.flatMap closeStatement = (ps.filter (· ≠ [])).map (joinWith '\n') := by
  induction ps with
  | nil => rfl
  | cons p ps ih =>
    rw [List.flatMap_cons, ih, List.filter_cons, closeStatement]
    by_cases hp : p = []
    · simp [hp]
    · simp [hp]

/-- What a line without a line feed adds has none either. -/
theorem notMem_addition {line : List Char} (h : '\n' ∉ line) : '\n' ∉ addition line := by
  have hcontent : '\n' ∉ content line := fun hn => h ((content_infix_self line).subset hn)
  unfold addition
  split_ifs with hl
  · intro hn
    exact hcontent ((List.takeWhile_prefix _).subset ((trim_infix_self _).subset hn))
  · exact hcontent

/-- There is no line feed in a line. -/
theorem notMem_of_mem_lines {s line : List Char} (h : line ∈ lines s) : '\n' ∉ line := by
  obtain ⟨ps, p, hs⟩ := exists_splitOn_eq_append '\n' s
  have hpieces : ∀ q ∈ ps ++ [p], '\n' ∉ q := by
    rw [← hs]
    exact fun q hq => notMem_of_mem_splitOn hq
  obtain ⟨hps, hp⟩ := List.forall_mem_append.mp hpieces
  unfold lines at h
  rw [hs, List.dropLast_concat, List.getLastD_concat, List.mem_append] at h
  rcases h with h | h
  · obtain ⟨q, hq, rfl⟩ := List.mem_map.mp h
    have hsub : dropReturn q ⊆ q := by
      unfold dropReturn
      split_ifs
      · exact List.dropLast_subset q
      · exact List.Subset.refl q
    exact fun hn => hps q hq (hsub hn)
  · obtain ⟨rfl, -⟩ := mem_pieceOf.mp h
    exact hp _ (List.mem_singleton_self _)

/-- Grouped lines have no line feed in them if no line has. -/
theorem Grouping.notMem_of_mem_additions {ls rest : List (List Char)}
    {groups : List (List (List Char))} (h : Grouping ls groups rest)
    (hls : ∀ l ∈ ls, '\n' ∉ l) {pieces : List (List Char)} (hp : pieces ∈ groups.map additions) :
    ∀ p ∈ pieces, '\n' ∉ p := by
  obtain ⟨g, hg, rfl⟩ := List.mem_map.mp hp
  intro p hmem
  obtain ⟨l, hl, rfl⟩ := List.mem_map.mp (List.mem_filter.mp hmem).1
  have hl' : l ∈ ls := by
    rw [← h.join_eq]
    exact List.mem_append_left rest (List.mem_flatten_of_mem hg hl)
  exact notMem_addition (hls l hl')

/-- What grouped lines add is what they add group by group. -/
theorem flatten_map_additions (groups : List (List (List Char))) :
    (groups.map additions).flatten = additions groups.flatten := by
  induction groups with
  | nil => rfl
  | cons g groups ih =>
    rw [List.map_cons, List.flatten_cons, List.flatten_cons, additions_append, ih]

end Script

open Text Script

/-- The statements of a script are its groups of lines that add something, in their order: each is
what the lines of its group add, with line feeds between. So the lines of the statements are what
the lines up to the last terminating one add. -/
theorem statements_eq_groups (script : String) :
    ∃ groups rest, Grouping (lines script.toList) groups rest ∧
      (∀ groups' rest', Grouping (lines script.toList) groups' rest' →
        groups' = groups ∧ rest' = rest) ∧
      (splitScript script).statements =
        ((groups.map additions).filter (· ≠ [])).map (String.ofList <| joinWith '\n' ·) ∧
      (splitScript script).statements.map (splitOn '\n' ·.toList) =
        (groups.map additions).filter (· ≠ []) ∧
      (splitScript script).statements.flatMap (splitOn '\n' ·.toList) =
        additions groups.flatten := by
  obtain ⟨groups, rest, h⟩ := exists_grouping (lines script.toList)
  have hstatements : (splitScript script).statements =
      ((groups.map additions).filter (· ≠ [])).map (String.ofList <| joinWith '\n' ·) := by
    unfold splitScript
    rw [statements_eq_statementsFrom_lines, h.statementsFrom_eq, flatMap_closeStatement,
      List.map_map]
    rfl
  have hlines : (splitScript script).statements.map (splitOn '\n' ·.toList) =
      (groups.map additions).filter (· ≠ []) := by
    have hwritten : ∀ pieces ∈ (groups.map additions).filter (· ≠ []),
        splitOn '\n' (String.ofList (joinWith '\n' pieces)).toList = pieces := by
      intro pieces hp
      obtain ⟨hmem, hne⟩ := List.mem_filter.mp hp
      rw [String.toList_ofList]
      exact splitOn_joinWith (by simpa using hne)
        (h.notMem_of_mem_additions (fun _ => notMem_of_mem_lines) hmem)
    rw [hstatements, List.map_map]
    exact (List.map_congr_left hwritten).trans (List.map_id' _)
  refine ⟨groups, rest, h, fun _ _ h' => h'.unique h, hstatements, hlines, ?_⟩
  calc (splitScript script).statements.flatMap (splitOn '\n' ·.toList)
      = ((groups.map additions).filter (· ≠ [])).flatten := by
        rw [← hlines, List.flatMap_def]
    _ = (groups.map additions).flatten := List.flatten_filter_ne_nil
    _ = additions groups.flatten := flatten_map_additions groups

/-- Blank lines, comments and carriage returns leave no trace, nor does what is not terminated. -/
example : (splitScript "SELECT a, -- one\r\n\r\n b;\r\n;\r\nSELECT 1; x;\nSELECT 2").statements =
    ["SELECT a,\nb", "SELECT 1"] := by
  decide

end SqlJob
