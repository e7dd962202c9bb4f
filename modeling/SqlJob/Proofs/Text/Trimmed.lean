import SqlJob.Text.Blank
import Mathlib.Data.List.Infix
import Mathlib.Data.List.TakeWhile
import Mathlib.Tactic.SplitIfs

/-!
# Trimmed texts

A text is trimmed when white space stands at neither of its ends. Trimming gives such a text
(`isTrimmed_trim`) and leaves every such text as it is (`trim_eq_self_iff`), so trimming twice is
trimming once. What is left is a part of the text in one piece (`trim_infix_self`), with nothing but
white space around it (`exists_eq_append_trimStart`, `exists_eq_append_trimEnd`, `trim_append`).
-/

namespace SqlJob.Text

/-- White space stands at neither end of the text. -/
structure IsTrimmed (s : List Char) : Prop where
  /-- The first character, if there is one, is not white space. -/
  head : ∀ c ∈ s.head?, isBlank c = false
  /-- The last character, if there is one, is not white space. -/
  last : ∀ c ∈ s.getLast?, isBlank c = false

/-- What is left of a text without the white space at its start does not start with white space. -/
theorem head?_trimStart (s : List Char) : ∀ c ∈ (trimStart s).head?, isBlank c = false := by
  intro c hc
  have h := List.head?_dropWhile_not isBlank s
  unfold trimStart at hc
  rw [Option.mem_def.mp hc] at h
  simpa using h

/-- A text that does not start with white space has none to cut off there. -/
theorem trimStart_of_head? {s : List Char} (h : ∀ c ∈ s.head?, isBlank c = false) :
    trimStart s = s := by
  cases s with
  | nil => rfl
  | cons c s => exact List.dropWhile_cons_of_neg (by simp [h c rfl])

/-- Cutting at the end is cutting at the start of the text read backwards. -/
theorem trimEnd_eq_reverse (s : List Char) : trimEnd s = (trimStart s.reverse).reverse := rfl

/-- What is left of a text without the white space at its end is what the text starts with. -/
theorem trimEnd_prefix_self (s : List Char) : trimEnd s <+: s := by
  rw [trimEnd_eq_reverse, ← List.reverse_suffix, List.reverse_reverse]
  exact List.dropWhile_suffix isBlank

/-- What is left of a text without the white space at its end does not end with white space. -/
theorem getLast?_trimEnd (s : List Char) : ∀ c ∈ (trimEnd s).getLast?, isBlank c = false := by
  intro c hc
  rw [trimEnd_eq_reverse, List.getLast?_reverse] at hc
  exact head?_trimStart _ c hc

/-- What is left of a text without the white space at its ends is a part of it. -/
theorem trim_infix_self (s : List Char) : trim s <:+: s :=
  (trimEnd_prefix_self _).isInfix.trans (List.dropWhile_suffix isBlank).isInfix

/-- What is left of a text without the white space at its ends is trimmed. -/
theorem isTrimmed_trim (s : List Char) : IsTrimmed (trim s) where
  head := by
    intro c hc
    obtain ⟨t, ht⟩ := trimEnd_prefix_self (trimStart s)
    have hs : c ∈ (trimStart s).head? := by
      rw [← ht, List.head?_append, show (trimEnd (trimStart s)).head? = some c from hc]
      rfl
    exact head?_trimStart s c hs
  last := getLast?_trimEnd (trimStart s)

/-- A text is left as it is by trimming exactly if it is trimmed. -/
theorem trim_eq_self_iff {s : List Char} : trim s = s ↔ IsTrimmed s := by
  constructor
  · intro h
    rw [← h]
    exact isTrimmed_trim s
  · intro h
    have hlast : ∀ c ∈ s.reverse.head?, isBlank c = false := by
      rw [List.head?_reverse]
      exact h.last
    unfold trim
    rw [trimStart_of_head? h.head, trimEnd_eq_reverse, trimStart_of_head? hlast,
      List.reverse_reverse]

/-- Trimming a trimmed text changes nothing. -/
theorem IsTrimmed.trim_eq {s : List Char} (h : IsTrimmed s) : trim s = s :=
  trim_eq_self_iff.mpr h

/-- At the end of a text that does not end with white space nothing is cut off. -/
theorem trim_of_getLast? {s : List Char} (h : ∀ c ∈ s.getLast?, isBlank c = false) :
    trim s = trimStart s := by
  have hlast : ∀ c ∈ (trimStart s).reverse.head?, isBlank c = false := by
    intro c hc
    rw [List.head?_reverse] at hc
    obtain ⟨t, ht⟩ := List.dropWhile_suffix isBlank (l := s)
    refine h c ?_
    rw [← ht, List.getLast?_append, show (s.dropWhile isBlank).getLast? = some c from hc]
    rfl
  unfold trim
  rw [trimEnd_eq_reverse, trimStart_of_head? hlast, List.reverse_reverse]

/-! ## White space around a text -/

/-- All characters of the text are white space. -/
def IsSpace (s : List Char) : Prop := ∀ c ∈ s, isBlank c = true

/-- Nothing but white space is in white space. -/
theorem IsSpace.notMem {s : List Char} (h : IsSpace s) {c : Char} (hc : isBlank c = false) :
    c ∉ s := by
  intro hmem
  rw [h c hmem] at hc
  exact Bool.noConfusion hc

/-- White space at the start of a text is skipped. -/
theorem trimStart_append_left {a : List Char} (ha : IsSpace a) (s : List Char) :
    trimStart (a ++ s) = trimStart s :=
  List.dropWhile_append_of_pos ha

/-- White space at the start of a text is cut off. -/
theorem trim_append_left {a : List Char} (ha : IsSpace a) (s : List Char) :
    trim (a ++ s) = trim s := by
  unfold trim
  rw [trimStart_append_left ha]

/-- White space at the end of a text is cut off. -/
theorem trim_append_right {b : List Char} (hb : IsSpace b) (s : List Char) :
    trim (s ++ b) = trim s := by
  have hrev : IsSpace b.reverse := fun c hc => hb c (List.mem_reverse.mp hc)
  have hend : ∀ t, trimEnd (t ++ b) = trimEnd t := by
    intro t
    rw [trimEnd_eq_reverse, trimEnd_eq_reverse, List.reverse_append, trimStart_append_left hrev]
  unfold trim trimStart
  rw [List.dropWhile_append]
  split_ifs with hall
  · have hblank : List.dropWhile isBlank b = [] := List.dropWhile_eq_nil_iff.mpr hb
    rw [List.isEmpty_iff.mp hall, hblank]
  · exact hend _

/-- White space around a trimmed text is all that is cut off. -/
theorem trim_append {a s b : List Char} (ha : IsSpace a) (hs : IsTrimmed s) (hb : IsSpace b) :
    trim (a ++ s ++ b) = s := by
  rw [trim_append_right hb, trim_append_left ha, hs.trim_eq]

/-- What is cut off at the start of a text is white space. -/
theorem exists_eq_append_trimStart (s : List Char) : ∃ a, IsSpace a ∧ s = a ++ trimStart s :=
  ⟨s.takeWhile isBlank, fun _ hc => List.mem_takeWhile_imp hc,
    List.takeWhile_append_dropWhile.symm⟩

/-- What is cut off at the end of a text is white space. -/
theorem exists_eq_append_trimEnd (s : List Char) : ∃ b, IsSpace b ∧ s = trimEnd s ++ b := by
  obtain ⟨a, ha, hs⟩ := exists_eq_append_trimStart s.reverse
  refine ⟨a.reverse, fun c hc => ha c (List.mem_reverse.mp hc), ?_⟩
  calc s = s.reverse.reverse := s.reverse_reverse.symm
    _ = (trimStart s.reverse).reverse ++ a.reverse := by rw [hs, List.reverse_append, ← hs]
    _ = trimEnd s ++ a.reverse := by rw [trimEnd_eq_reverse]

end SqlJob.Text
