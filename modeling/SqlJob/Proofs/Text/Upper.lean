import SqlJob.Proofs.Text.Trimmed
import SqlJob.Text.Case

/-!
# Texts with upper-case letters of ASCII as their upper case

Upper case is taken character by character, and every character has one (`toUpper_append`,
`toUpper_eq_nil_iff`). The upper case of a keyword consists of capital letters of ASCII. There are
few characters beyond ASCII whose upper case does, such as the long s (`foldedCodes`), and they are
letters as well (`isAlphanumeric_of_upperChar`).
-/

namespace SqlJob.Text

/-- Upper case is taken character by character. -/
theorem toUpper_append (s t : List Char) : toUpper (s ++ t) = toUpper s ++ toUpper t :=
  List.flatMap_append

/-- Where the upper case of a code point is found, it is that of a run, or an expansion, or there is
none and the code point stays. -/
theorem mapCase_cases (runs : List CaseRun) (expansions : List (Nat × List Nat)) (n : Nat) :
    (∃ r ∈ runs, ∃ m, r.image? n = some m ∧ mapCase runs expansions n = [m]) ∨
      (∃ e ∈ expansions, e.1 = n ∧ mapCase runs expansions n = e.2) ∨
      mapCase runs expansions n = [n] := by
  unfold mapCase
  cases hrun : runs.findSome? (·.image? n) with
  | some m =>
    obtain ⟨r, hr, hm⟩ := List.exists_of_findSome?_eq_some hrun
    exact .inl ⟨r, hr, m, hm, rfl⟩
  | none =>
    right
    cases hlookup : expansions.lookup n with
    | some e =>
      obtain ⟨l₁, l₂, hl, -⟩ := List.lookup_eq_some_iff.mp hlookup
      exact .inl ⟨(n, e), by simp [hl], rfl, rfl⟩
    | none => exact .inr rfl

/-- Every character has an upper case. -/
theorem upperChar_ne_nil (c : Char) : upperChar c ≠ [] := by
  have hexpansions : upperExpansions.all (fun e => !e.2.isEmpty) = true := by decide +kernel
  unfold upperChar
  split_ifs
  · exact List.cons_ne_nil _ _
  · rw [ne_eq, List.map_eq_nil_iff]
    rcases mapCase_cases upperRuns upperExpansions c.toNat with
      ⟨r, -, m, -, heq⟩ | ⟨e, he, -, heq⟩ | heq
    · simp [heq]
    · have hne := List.all_eq_true.mp hexpansions e he
      simpa [heq] using hne
    · simp [heq]

/-- Only the empty text has an empty upper case. -/
theorem toUpper_eq_nil_iff {s : List Char} : toUpper s = [] ↔ s = [] := by
  cases s with
  | nil => simp [toUpper]
  | cons c s => simp [toUpper, upperChar_ne_nil c]

/-- The code points beyond ASCII whose upper case lies in ASCII. -/
def foldedCodes : List Nat :=
  [0x131, 0x17F, 0xDF, 0xFB00, 0xFB01, 0xFB02, 0xFB03, 0xFB04, 0xFB05, 0xFB06]

/-- A code point beyond ASCII whose upper case lies in ASCII is one of those that are listed. -/
theorem mem_foldedCodes {n : Nat} (hn : 0x80 ≤ n)
    (h : ∀ m ∈ mapCase upperRuns upperExpansions n, m < 0x80) : n ∈ foldedCodes := by
  have hruns : upperRuns.all (fun r => decide (0x80 ≤ (r.first : Int) + r.shift) ||
      (r.first == r.last && foldedCodes.contains r.first)) = true := by
    decide +kernel
  have hexpansions : upperExpansions.all (fun e => e.2.any (0x80 ≤ ·) ||
      foldedCodes.contains e.1) = true := by
    decide +kernel
  rcases mapCase_cases upperRuns upperExpansions n with
    ⟨r, hr, m, hm, heq⟩ | ⟨e, he, rfl, heq⟩ | heq
  · have hrun := List.all_eq_true.mp hruns r hr
    have hlow : m < 0x80 := h m (by simp [heq])
    unfold CaseRun.image? at hm
    split_ifs at hm with hrange
    simp only [Bool.and_eq_true, decide_eq_true_eq] at hrange
    simp only [Bool.or_eq_true, Bool.and_eq_true, decide_eq_true_eq, beq_iff_eq,
      List.contains_iff_mem] at hrun
    have hshift : ((n : Int) + r.shift).toNat = m := Option.some.inj hm
    rcases hrun with hhigh | ⟨hone, hmem⟩
    · omega
    · have hfirst : n = r.first := by omega
      rwa [hfirst]
  · have hexpansion := List.all_eq_true.mp hexpansions e he
    simp only [Bool.or_eq_true, List.any_eq_true, decide_eq_true_eq,
      List.contains_iff_mem] at hexpansion
    rcases hexpansion with ⟨m, hm, hhigh⟩ | hmem
    · have hlow := h m (by rwa [heq])
      omega
    · exact hmem
  · have hlow := h n (by simp [heq])
    omega

/-- The capital letters of ASCII by their codes. -/
theorem isUpper_iff {c : Char} : c.isUpper = true ↔ 0x41 ≤ c.toNat ∧ c.toNat ≤ 0x5A :=
  decide_eq_true_iff

/-- The small letters of ASCII by their codes. -/
theorem isLower_iff {c : Char} : c.isLower = true ↔ 0x61 ≤ c.toNat ∧ c.toNat ≤ 0x7A :=
  (Bool.and_eq_true_iff).trans (and_congr decide_eq_true_iff decide_eq_true_iff)

/-- A letter of ASCII is a capital or a small one. -/
theorem isAlpha_iff {c : Char} : c.isAlpha = true ↔ c.isUpper = true ∨ c.isLower = true :=
  Bool.or_eq_true_iff

/-- A code point that stands for a capital letter of ASCII lies in ASCII. -/
theorem lt_of_isUpper_ofNat {n : Nat} (h : (Char.ofNat n).isUpper = true) : n < 0x80 := by
  by_cases hvalid : n.isValidChar
  · have hcode : (Char.ofNat n).toNat = n := by
      rw [Char.ofNat, dif_pos hvalid]
      rfl
    rw [isUpper_iff, hcode] at h
    omega
  · have hnull : Char.ofNat n = Char.ofNat 0 := by
      rw [Char.ofNat, dif_neg hvalid]
      rfl
    rw [hnull] at h
    exact absurd h (by decide)

/-- A letter of ASCII is no white space. -/
theorem isBlank_of_isAlpha {c : Char} (h : c.isAlpha = true) : isBlank c = false := by
  refine Bool.eq_false_iff.mpr fun hblank => ?_
  simp only [isBlank, Bool.or_eq_true, Bool.and_eq_true, decide_eq_true_eq, beq_iff_eq] at hblank
  rw [isAlpha_iff, isUpper_iff, isLower_iff] at h
  omega

/-- A character whose upper case consists of capital letters of ASCII is a letter itself. -/
theorem isAlphanumeric_of_upperChar {c : Char} (h : ∀ m ∈ upperChar c, m.isUpper = true) :
    isAlphanumeric c = true ∧ isBlank c = false := by
  unfold upperChar at h
  split_ifs at h with hascii
  · have hupper : c.toUpper.isUpper = true := h _ List.mem_cons_self
    have halpha : c.isAlpha = true := by
      by_cases hlower : c.isLower = true
      · exact isAlpha_iff.mpr (.inr hlower)
      · have hrange : ¬ ('a'.val ≤ c.val ∧ c.val ≤ 'z'.val) := fun h => hlower (isLower_iff.mpr h)
        have hsame : c.toUpper = c := dif_neg hrange
        rw [hsame] at hupper
        exact isAlpha_iff.mpr (.inl hupper)
    exact ⟨by simp [isAlphanumeric, isAlphabetic_of_isAlpha halpha], isBlank_of_isAlpha halpha⟩
  · have hfolded : foldedCodes.all (fun n => isAlphanumeric (.ofNat n) && !isBlank (.ofNat n)) =
        true := by
      decide +kernel
    have hmem : c.toNat ∈ foldedCodes := by
      refine mem_foldedCodes (Nat.le_of_not_lt hascii) fun m hm => ?_
      exact lt_of_isUpper_ofNat (h _ (List.mem_map_of_mem hm))
    have hletter := List.all_eq_true.mp hfolded _ hmem
    rw [Char.ofNat_toNat] at hletter
    simpa using hletter

end SqlJob.Text
