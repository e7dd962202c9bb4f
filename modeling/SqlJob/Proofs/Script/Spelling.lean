import SqlJob.Proofs.Text.Trimmed
import SqlJob.Script.ModeSwitch
import Mathlib.Data.List.Forall2

/-!
# Words in any case and quotes around them

A text spells a word if it is the word in any case (`Spells`). The words that commands are made of
are bare: no white space, quote or equals sign is in them, nor is any in what spells them
(`Spells.isBare`). So there is one way to read such a word. Skipping it gives what follows
(`afterWord_eq_some_iff`), and a quote in front of it or behind it is no part of it.

`IsLoose` describes the word with a quote that may stand in front of it and another that may stand
behind it, whether they match or not. Reading past a quote, the word and a quote is reading past
such a text (`exists_isLoose`, `IsLoose.afterWord_append`).
-/

namespace SqlJob.ModeSwitch

open Text

/-! ## Spelling -/

/-- The text is the word in any case. -/
def Spells (word text : List Char) : Prop :=
  List.Forall₂ (fun letter c => foldsTo letter c = true) word text

/-- What follows a word is what follows a text that spells it. -/
theorem afterWord_eq_some_iff {word s t : List Char} :
    afterWord word s = some t ↔ ∃ w, Spells word w ∧ s = w ++ t := by
  induction word generalizing s with
  | nil => simp [afterWord, Spells]
  | cons letter word ih =>
    cases s with
    | nil => simp [afterWord, Spells]
    | cons c s =>
      rw [afterWord]
      split_ifs with hc
      · rw [ih]
        constructor
        · rintro ⟨w, hw, rfl⟩
          exact ⟨c :: w, .cons hc hw, rfl⟩
        · rintro ⟨_, _ | ⟨hc', hw⟩, heq⟩
          obtain ⟨rfl, rfl⟩ := List.cons_eq_cons.mp heq
          exact ⟨_, hw, rfl⟩
      · constructor
        · intro h
          simp at h
        · rintro ⟨_, _ | ⟨hc', hw⟩, heq⟩
          obtain ⟨rfl, rfl⟩ := List.cons_eq_cons.mp heq
          exact absurd hc' hc

/-- Skipping a word that is spelled out gives what follows. -/
theorem Spells.afterWord_append {word w : List Char} (h : Spells word w) (t : List Char) :
    afterWord word (w ++ t) = some t :=
  afterWord_eq_some_iff.mpr ⟨w, h, rfl⟩

/-- A character that has no other case folds to itself alone. -/
theorem eq_of_foldsTo {letter c : Char} (h : foldsTo letter c = true) (hc : c.toLower = c)
    (hs : c ≠ 'ſ') : letter = c := by
  simp only [foldsTo, hc, Bool.or_eq_true, Bool.and_eq_true, beq_iff_eq] at h
  rcases h with h | ⟨-, h⟩
  · exact h.symm
  · exact absurd h hs

/-- Only the upper-case letters of ASCII have another character as their lower case. -/
theorem toLower_of_isUpper_eq_false {c : Char} (h : c.isUpper = false) : c.toLower = c := by
  unfold Char.toLower
  split_ifs with hc
  · exact absurd hc (of_decide_eq_false h)
  · rfl

/-- White space has no other case. -/
theorem toLower_of_isBlank {c : Char} (h : isBlank c = true) : c.toLower = c := by
  refine toLower_of_isUpper_eq_false (Bool.eq_false_iff.mpr fun hupper => ?_)
  obtain ⟨hlow, hhigh⟩ := of_decide_eq_true hupper
  have hA : 65 ≤ c.toNat := UInt32.le_iff_toNat_le.mp hlow
  have hZ : c.toNat ≤ 90 := UInt32.le_iff_toNat_le.mp hhigh
  simp only [isBlank, Bool.or_eq_true, Bool.and_eq_true, decide_eq_true_eq, beq_iff_eq] at h
  omega

/-! ## Bare words -/

/-- The quotes that may stand around a part of a command. -/
def IsQuote (c : Char) : Prop := c = '\'' ∨ c = '"'

instance : DecidablePred IsQuote := fun c => inferInstanceAs (Decidable (c = '\'' ∨ c = '"'))

/-- No white space, no quote and no equals sign is in the text, and the text is not empty. -/
structure IsBare (s : List Char) : Prop where
  ne_nil : s ≠ []
  isBlank : ∀ c ∈ s, isBlank c = false
  isQuote : ∀ c ∈ s, ¬ IsQuote c
  no_equals : '=' ∉ s

/-- A text is bare if each of its characters may stand in such a text. -/
theorem isBare_iff {s : List Char} :
    IsBare s ↔ s ≠ [] ∧ s.all fun c => !Text.isBlank c && !decide (IsQuote c) && c != '=' := by
  constructor
  · intro h
    refine ⟨h.ne_nil, List.all_eq_true.mpr fun c hc => ?_⟩
    have hne : c ≠ '=' := ne_of_mem_of_not_mem hc h.no_equals
    simp [h.isBlank c hc, h.isQuote c hc, hne]
  · rintro ⟨hne, hall⟩
    have hchar : ∀ c ∈ s, (Text.isBlank c = false ∧ ¬ IsQuote c) ∧ c ≠ '=' := by simpa using hall
    exact ⟨hne, fun c hc => (hchar c hc).1.1, fun c hc => (hchar c hc).1.2,
      fun hc => (hchar '=' hc).2 rfl⟩

instance : DecidablePred IsBare := fun _ => decidable_of_iff _ isBare_iff.symm

/-- What spells a word has only characters that fold to those of the word. -/
theorem Spells.exists_foldsTo {word w : List Char} (h : Spells word w) {c : Char} (hc : c ∈ w) :
    ∃ letter ∈ word, foldsTo letter c = true := by
  induction h with
  | nil => simp at hc
  | @cons letter d word w hd hw ih =>
    rcases List.mem_cons.mp hc with rfl | hc
    · exact ⟨letter, List.mem_cons_self, hd⟩
    · obtain ⟨l, hl, hlc⟩ := ih hc
      exact ⟨l, List.mem_cons_of_mem letter hl, hlc⟩

/-- A character that has no other case is in what spells a word only if it is in the word. -/
theorem Spells.mem_of_mem {word w : List Char} (h : Spells word w) {c : Char} (hc : c ∈ w)
    (hlower : c.toLower = c) (hs : c ≠ 'ſ') : c ∈ word := by
  obtain ⟨letter, hl, hfold⟩ := h.exists_foldsTo hc
  rwa [← eq_of_foldsTo hfold hlower hs]

/-- What spells a bare word is bare. -/
theorem Spells.isBare {word w : List Char} (h : Spells word w) (hword : IsBare word) :
    IsBare w where
  ne_nil := by
    rintro rfl
    cases h
    exact hword.ne_nil rfl
  isBlank := by
    intro c hc
    by_contra hblank
    rw [Bool.not_eq_false] at hblank
    have hs : c ≠ 'ſ' := by
      rintro rfl
      exact absurd hblank (by decide)
    have hmem := h.mem_of_mem hc (toLower_of_isBlank hblank) hs
    simp [hword.isBlank c hmem] at hblank
  isQuote := by
    intro c hc hquote
    have hself : c.toLower = c ∧ c ≠ 'ſ' := by
      rcases hquote with rfl | rfl <;> decide
    exact hword.isQuote c (h.mem_of_mem hc hself.1 hself.2) hquote
  no_equals := fun hc => hword.no_equals (h.mem_of_mem hc (by decide) (by decide))

/-- A bare word is trimmed. -/
theorem IsBare.isTrimmed {s : List Char} (h : IsBare s) : IsTrimmed s where
  head c hc := h.isBlank c (List.mem_of_mem_head? hc)
  last c hc := h.isBlank c (List.mem_of_getLast? hc)

/-- A word without the letter `s` is spelled by the texts that are that word in lower case. -/
theorem spells_iff_map_toLower {word w : List Char} (hs : 's' ∉ word) :
    Spells word w ↔ w.map Char.toLower = word := by
  induction word generalizing w with
  | nil => simp [Spells]
  | cons letter word ih =>
    obtain ⟨hletter, hword⟩ : letter ≠ 's' ∧ 's' ∉ word := by
      simpa [List.mem_cons, eq_comm] using hs
    cases w with
    | nil => simp [Spells]
    | cons c w =>
      have hfold : foldsTo letter c = true ↔ c.toLower = letter := by simp [foldsTo, hletter]
      rw [Spells, List.forall₂_cons, List.map_cons, List.cons_eq_cons, hfold]
      exact and_congr_right fun _ => ih hword

/-! ## Quotes that need not match -/

/-- A quote, or nothing. -/
def IsOptQuote (q : List Char) : Prop := q = [] ∨ ∃ c, IsQuote c ∧ q = [c]

/-- What is dropped from the start of a text is a quote or nothing. -/
theorem exists_eq_append_dropQuote (s : List Char) : ∃ q, IsOptQuote q ∧ s = q ++ dropQuote s := by
  cases s with
  | nil => exact ⟨[], .inl rfl, rfl⟩
  | cons c s =>
    rw [dropQuote]
    split_ifs with hc
    · have hquote : IsQuote c := by simpa [IsQuote] using hc
      exact ⟨[c], .inr ⟨c, hquote, rfl⟩, rfl⟩
    · exact ⟨[], .inl rfl, rfl⟩

/-- A quote at the start of a text is dropped, and no more than that. -/
theorem dropQuote_append {q s : List Char} (hq : IsOptQuote q) (hs : ∀ c ∈ s.head?, ¬ IsQuote c) :
    dropQuote (q ++ s) = s := by
  rcases hq with rfl | ⟨c, hc, rfl⟩
  · cases s with
    | nil => rfl
    | cons c s =>
      have hne : ¬ (c == '\'' || c == '"') = true := by simpa [IsQuote] using hs c rfl
      exact if_neg hne
  · have heq : (c == '\'' || c == '"') = true := by simpa [IsQuote] using hc
    exact if_pos heq

/-- The word in any case, with a quote that may stand in front of it and one that may stand behind
it. -/
def IsLoose (word s : List Char) : Prop :=
  ∃ q w q', IsOptQuote q ∧ Spells word w ∧ IsOptQuote q' ∧ s = q ++ w ++ q'

/-- What is read past with a quote, a word and a quote. -/
theorem exists_isLoose {word s t : List Char} (h : afterWord word (dropQuote s) = some t) :
    ∃ p, IsLoose word p ∧ s = p ++ dropQuote t := by
  obtain ⟨q, hq, hs⟩ := exists_eq_append_dropQuote s
  obtain ⟨w, hw, hdrop⟩ := afterWord_eq_some_iff.mp h
  obtain ⟨q', hq', ht⟩ := exists_eq_append_dropQuote t
  refine ⟨q ++ w ++ q', ⟨q, w, q', hq, hw, hq', rfl⟩, ?_⟩
  calc s = q ++ (w ++ t) := by rw [← hdrop, ← hs]
    _ = q ++ (w ++ (q' ++ dropQuote t)) := by rw [← ht]
    _ = q ++ w ++ q' ++ dropQuote t := by simp

/-- A word between quotes is read past, if no quote follows. -/
theorem IsLoose.afterWord_append {word p : List Char} (h : IsLoose word p) (hword : IsBare word)
    {t : List Char} (ht : ∀ c ∈ t.head?, ¬ IsQuote c) :
    ∃ s, afterWord word (dropQuote (p ++ t)) = some s ∧ dropQuote s = t := by
  obtain ⟨q, w, q', hq, hw, hq', rfl⟩ := h
  have hhead : ∀ c ∈ (w ++ (q' ++ t)).head?, ¬ IsQuote c := by
    intro c hc
    rw [List.head?_append_of_ne_nil _ (hw.isBare hword).ne_nil] at hc
    exact (hw.isBare hword).isQuote c (List.mem_of_mem_head? hc)
  refine ⟨q' ++ t, ?_, dropQuote_append hq' ht⟩
  rw [List.append_assoc, List.append_assoc, dropQuote_append hq hhead]
  exact hw.afterWord_append _

/-- A quote is no white space and no equals sign. -/
theorem IsOptQuote.isBlank {q : List Char} (h : IsOptQuote q) {c : Char} (hc : c ∈ q) :
    Text.isBlank c = false ∧ c ≠ '=' := by
  rcases h with rfl | ⟨d, hd, rfl⟩
  · simp at hc
  · obtain rfl := List.mem_singleton.mp hc
    rcases hd with rfl | rfl <;> decide

/-- No white space and no equals sign is in a bare word with quotes. -/
theorem IsLoose.isBlank {word s : List Char} (h : IsLoose word s) (hword : IsBare word) {c : Char}
    (hc : c ∈ s) : Text.isBlank c = false ∧ c ≠ '=' := by
  obtain ⟨q, w, q', hq, hw, hq', rfl⟩ := h
  rcases List.mem_append.mp hc with hc | hc
  · rcases List.mem_append.mp hc with hc | hc
    · exact hq.isBlank hc
    · exact ⟨(hw.isBare hword).isBlank c hc,
        fun heq => (hw.isBare hword).no_equals (heq ▸ hc)⟩
  · exact hq'.isBlank hc

/-- A bare word with quotes is trimmed. -/
theorem IsLoose.isTrimmed {word s : List Char} (h : IsLoose word s) (hword : IsBare word) :
    IsTrimmed s where
  head _ hc := (h.isBlank hword (List.mem_of_mem_head? hc)).1
  last _ hc := (h.isBlank hword (List.mem_of_getLast? hc)).1

/-- There is something in a bare word with quotes. -/
theorem IsLoose.ne_nil {word s : List Char} (h : IsLoose word s) (hword : IsBare word) :
    s ≠ [] := by
  obtain ⟨q, w, q', hq, hw, hq', rfl⟩ := h
  simp [(hw.isBare hword).ne_nil]

end SqlJob.ModeSwitch
