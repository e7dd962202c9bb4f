import SqlJob.Text.Lines
import Mathlib.Data.List.Basic
import Mathlib.Data.List.TakeWhile

/-!
# The pieces of a text

`joinWith_splitOn` says that a text is its pieces glued together. The converse holds for pieces that
do not contain the separator, if there is at least one of them (`splitOn_joinWith`); other pieces
are cut further, each on its own (`splitOn_joinWith_eq_flatMap`). The rest of this file says what
cutting makes of a longer text: behind a separator it starts anew (`splitOn_append_sep`), and a text
without separators lengthens the last piece only (`splitOn_append_of_notMem`). The first piece is
what a text starts with, and the last one what it ends with. A cut at the first separator alone is
described by `cutAt_eq_some_iff`.
-/

namespace SqlJob.Text

variable {sep : Char}

/-- A separator at the start of a text makes a first piece that is empty. -/
@[simp] theorem splitOn_cons_sep (s : List Char) :
    splitOn sep (sep :: s) = [] :: splitOn sep s := by
  simp [splitOn]

/-- Any other character at the start of a text belongs to its first piece. -/
theorem splitOn_cons_of_ne {c : Char} (h : c ≠ sep) {s p : List Char} {ps : List (List Char)}
    (hs : splitOn sep s = p :: ps) : splitOn sep (c :: s) = (c :: p) :: ps := by
  rw [splitOn, if_neg h, hs]

/-- The pieces of a text as a first one and the others. -/
theorem exists_splitOn_eq_cons (sep : Char) (s : List Char) :
    ∃ p ps, splitOn sep s = p :: ps :=
  List.exists_cons_of_ne_nil (splitOn_ne_nil sep s)

/-- The pieces of a text as the others and a last one. -/
theorem exists_splitOn_eq_append (sep : Char) (s : List Char) :
    ∃ ps p, splitOn sep s = ps ++ [p] :=
  ⟨_, _, (List.dropLast_append_getLast (splitOn_ne_nil sep s)).symm⟩

/-- No piece contains the separator. -/
theorem notMem_of_mem_splitOn {s p : List Char} (h : p ∈ splitOn sep s) : sep ∉ p := by
  induction s generalizing p with
  | nil =>
    rw [splitOn, List.mem_singleton] at h
    simp [h]
  | cons c s ih =>
    obtain ⟨q, qs, hq⟩ := exists_splitOn_eq_cons sep s
    rw [hq] at ih
    rcases eq_or_ne c sep with rfl | hc
    · rw [splitOn_cons_sep, hq, List.mem_cons] at h
      rcases h with rfl | h
      · simp
      · exact ih h
    · rw [splitOn_cons_of_ne hc hq, List.mem_cons] at h
      rcases h with rfl | h
      · have hq' : sep ∉ q := ih List.mem_cons_self
        simp [hq', hc.symm]
      · exact ih (List.mem_cons_of_mem q h)

/-- Texts with the same pieces are the same. -/
theorem splitOn_inj {s t : List Char} : splitOn sep s = splitOn sep t ↔ s = t := by
  refine ⟨fun h => ?_, congrArg (splitOn sep)⟩
  rw [← joinWith_splitOn sep s, h, joinWith_splitOn]

/-- A text without separators is its only piece. -/
theorem splitOn_of_notMem {s : List Char} (h : sep ∉ s) : splitOn sep s = [s] := by
  induction s with
  | nil => rfl
  | cons c s ih =>
    rw [List.mem_cons, not_or] at h
    exact splitOn_cons_of_ne (Ne.symm h.1) (ih h.2)

/-- What stands behind a separator is cut on its own. -/
theorem splitOn_append_sep (s t : List Char) :
    splitOn sep (s ++ sep :: t) = splitOn sep s ++ splitOn sep t := by
  induction s with
  | nil => simp [splitOn]
  | cons c s ih =>
    obtain ⟨q, qs, hq⟩ := exists_splitOn_eq_cons sep s
    rw [hq] at ih
    rcases eq_or_ne c sep with rfl | hc
    · rw [List.cons_append, splitOn_cons_sep, splitOn_cons_sep, ih, hq]
      rfl
    · rw [List.cons_append, splitOn_cons_of_ne hc ih, splitOn_cons_of_ne hc hq]
      rfl

/-- A text without separators behind another one lengthens its last piece. -/
theorem splitOn_append_of_notMem {s t p : List Char} {ps : List (List Char)} (ht : sep ∉ t)
    (hs : splitOn sep s = ps ++ [p]) : splitOn sep (s ++ t) = ps ++ [p ++ t] := by
  induction s generalizing ps p with
  | nil =>
    rw [splitOn] at hs
    obtain ⟨rfl, rfl⟩ : ps = [] ∧ p = [] := by
      cases ps with
      | nil => exact ⟨rfl, by simpa using hs.symm⟩
      | cons q qs => simp at hs
    rw [List.nil_append, splitOn_of_notMem ht]
    rfl
  | cons c s ih =>
    obtain ⟨q, qs, hq⟩ := exists_splitOn_eq_cons sep s
    rcases eq_or_ne c sep with rfl | hc
    · rw [splitOn_cons_sep] at hs
      cases ps with
      | nil => rw [hq] at hs; simp at hs
      | cons a as =>
        obtain ⟨rfl, hs'⟩ := List.cons_eq_cons.mp hs
        rw [List.cons_append, splitOn_cons_sep, ih hs']
        rfl
    · rw [splitOn_cons_of_ne hc hq] at hs
      cases ps with
      | nil =>
        -- There is one piece only, and the character is the first of it.
        obtain ⟨rfl, rfl⟩ : (c :: q) = p ∧ qs = [] := by simpa using hs
        exact splitOn_cons_of_ne hc (ih (show splitOn sep s = [] ++ [q] from hq))
      | cons a as =>
        obtain ⟨rfl, rfl⟩ := List.cons_eq_cons.mp hs
        exact splitOn_cons_of_ne hc (ih (show splitOn sep s = (q :: as) ++ [p] from hq))

/-- Pieces are put together from the first of them on. -/
theorem joinWith_cons_of_ne_nil (p : List Char) {ps : List (List Char)} (h : ps ≠ []) :
    joinWith sep (p :: ps) = p ++ sep :: joinWith sep ps := by
  cases ps with
  | nil => exact absurd rfl h
  | cons q qs => rfl

/-- A text is cut between the pieces that it is put together from, and within each of them. -/
theorem splitOn_joinWith_eq_flatMap {ps : List (List Char)} (hne : ps ≠ []) :
    splitOn sep (joinWith sep ps) = ps.flatMap (splitOn sep) := by
  induction ps with
  | nil => exact absurd rfl hne
  | cons p ps ih =>
    rcases eq_or_ne ps [] with rfl | hps
    · simp [joinWith]
    · rw [joinWith_cons_of_ne_nil p hps, splitOn_append_sep, ih hps, List.flatMap_cons]

/-- Pieces that do not contain the separator are the pieces of the text they make. -/
theorem splitOn_joinWith {ps : List (List Char)} (hne : ps ≠ []) (h : ∀ p ∈ ps, sep ∉ p) :
    splitOn sep (joinWith sep ps) = ps := by
  rw [splitOn_joinWith_eq_flatMap hne, List.flatMap_congr fun p hp => splitOn_of_notMem (h p hp)]
  exact List.flatMap_singleton' ps

/-- A text with a separator behind it is its pieces with one behind each of them. -/
theorem joinWith_append_sep {ps : List (List Char)} (hne : ps ≠ []) :
    joinWith sep ps ++ [sep] = ps.flatMap (· ++ [sep]) := by
  induction ps with
  | nil => exact absurd rfl hne
  | cons p ps ih =>
    rcases eq_or_ne ps [] with rfl | hps
    · simp [joinWith]
    · rw [joinWith_cons_of_ne_nil p hps, List.append_assoc, List.cons_append, ih hps,
        List.flatMap_cons, List.append_assoc]
      rfl

/-- Lines with a separator behind each of them are cut into the lines and an empty piece. -/
theorem splitOn_flatMap_append_sep {ps : List (List Char)} (h : ∀ p ∈ ps, sep ∉ p) :
    splitOn sep (ps.flatMap (· ++ [sep])) = ps ++ [[]] := by
  induction ps with
  | nil => rfl
  | cons p ps ih =>
    obtain ⟨hp, hps⟩ := List.forall_mem_cons.mp h
    rw [List.flatMap_cons, List.append_assoc, List.cons_append, List.nil_append,
      splitOn_append_sep, splitOn_of_notMem hp, ih hps]
    rfl

/-- Texts that are joined by line feeds are put together with the line feed between them. -/
theorem toList_intercalate_lines (texts : List String) :
    (String.intercalate "\n" texts).toList = joinWith '\n' (texts.map String.toList) := by
  have hjoin : ∀ ps : List (List Char), ['\n'].intercalate ps = joinWith '\n' ps := by
    intro ps
    induction ps with
    | nil => rfl
    | cons p ps ih =>
      rcases eq_or_ne ps [] with rfl | hps
      · simp [joinWith, List.intercalate]
      · obtain ⟨q, qs, rfl⟩ := List.exists_cons_of_ne_nil hps
        simp [joinWith, List.intercalate, ← ih]
  rw [String.toList_intercalate]
  exact hjoin _

/-- The characters of texts that are written one after another, each with the same ending. -/
theorem toList_join_map (texts : List String) (ending : String) :
    (String.join (texts.map (· ++ ending))).toList =
      (texts.map String.toList).flatMap (· ++ ending.toList) := by
  rw [String.toList_join, List.flatMap_map, List.flatMap_map]
  exact List.flatMap_congr fun t _ => String.toList_append

/-- A text starts with the first of the pieces that it is put together from. -/
theorem prefix_joinWith_cons (p : List Char) (ps : List (List Char)) :
    p <+: joinWith sep (p :: ps) := by
  cases ps with
  | nil => exact List.prefix_rfl
  | cons q qs => exact List.prefix_append p _

/-- A text ends with the last of the pieces that it is put together from. -/
theorem suffix_joinWith_append (ps : List (List Char)) (p : List Char) :
    p <:+ joinWith sep (ps ++ [p]) := by
  induction ps with
  | nil => exact List.suffix_rfl
  | cons q ps ih =>
    rw [List.cons_append, joinWith_cons_of_ne_nil q (by simp)]
    exact ih.trans ((List.suffix_cons sep _).trans (List.suffix_append q _))

/-- Cutting at the first separator gives what stands before it and behind it. -/
theorem cutAt_eq_some_iff {s a b : List Char} :
    cutAt sep s = some (a, b) ↔ s = a ++ sep :: b ∧ sep ∉ a := by
  unfold cutAt
  constructor
  · intro h
    split_ifs at h with hmem
    obtain ⟨rfl, rfl⟩ : s.takeWhile (· != sep) = a ∧ (s.dropWhile (· != sep)).drop 1 = b := by
      simpa using h
    have hbefore : sep ∉ s.takeWhile (· != sep) := fun hs => by
      simpa using List.mem_takeWhile_imp hs
    refine ⟨?_, hbefore⟩
    -- What is not taken starts with the separator, since the separator is not among what is.
    have hrest : s.dropWhile (· != sep) = sep :: (s.dropWhile (· != sep)).drop 1 := by
      cases hd : s.dropWhile (· != sep) with
      | nil =>
        have hall := List.dropWhile_eq_nil_iff.mp hd sep (by simpa using hmem)
        simp at hall
      | cons c rest =>
        have hc := List.head?_dropWhile_not (· != sep) s
        rw [hd] at hc
        obtain rfl : c = sep := by simpa using hc
        rfl
    rw [← hrest, List.takeWhile_append_dropWhile]
  · rintro ⟨rfl, ha⟩
    have hne : ∀ c ∈ a, (c != sep) = true := fun c hc => by
      simpa using ne_of_mem_of_not_mem hc ha
    rw [if_pos (by simp), List.takeWhile_append_of_pos hne, List.dropWhile_append_of_pos hne]
    simp

end SqlJob.Text
