import SqlJob.Json.Reader
import Mathlib.Data.List.DropRight
import Mathlib.Tactic.SplitIfs

/-!
# Reading the words of a JSON text

White space is skipped, however much of it there is. A string that is written with quotes is read
back (`readString_quote`): every character that is written as an escape is read as itself. A whole
number that is written with digits is read back if nothing behind it could belong to a number
(`readNumber_natural`, `readNumber_negative`). Both need that the reader keeps all digits, which it
does for every number that fits 64 bits (`readDigits_append`).
-/

namespace SqlJob.Json

/-! ## White space -/

/-- A text of white space alone. -/
def IsSpace (w : List Char) : Prop :=
  ∀ c ∈ w, c = ' ' ∨ c = '\n' ∨ c = '\t' ∨ c = '\r'

/-- White space in front is skipped. -/
theorem skipSpace_append {w : List Char} (hw : IsSpace w) (s : List Char) :
    skipSpace (w ++ s) = skipSpace s := by
  unfold skipSpace
  refine List.dropWhile_append_of_pos fun c hc => ?_
  simpa [or_assoc] using hw c hc

/-- Behind skipped white space there is none left. -/
theorem skipSpace_skipSpace (s : List Char) : skipSpace (skipSpace s) = skipSpace s :=
  List.dropWhile_idempotent _ _

/-- No white space is in front of any other character. -/
theorem skipSpace_cons {c : Char} (hc : ¬IsSpace [c]) (s : List Char) :
    skipSpace (c :: s) = c :: s := by
  have hne : ¬(c = ' ' ∨ c = '\n' ∨ c = '\t' ∨ c = '\r') := by
    simpa [IsSpace] using hc
  simp only [not_or] at hne
  simp [skipSpace, hne]

/-! ## Strings -/

/-- A hexadecimal digit is read back. -/
theorem hexValue?_hexDigit : ∀ n < 16, hexValue? (hexDigit n) = some n := by
  decide

/-- A control character is read back from its code. -/
theorem readUnicodeEscape_control {c : Char} (hc : c.toNat < 0x20) (s : List Char) :
    readUnicodeEscape ('0' :: '0' :: hexDigit (c.toNat / 16) :: hexDigit (c.toNat % 16) :: s) =
      some (some c, s) := by
  have hhigh := hexValue?_hexDigit (c.toNat / 16) (by omega)
  have hlow := hexValue?_hexDigit (c.toNat % 16) (by omega)
  have hzero : hexValue? '0' = some 0 := rfl
  have hvalue : c.toNat / 16 * 16 + c.toNat % 16 = c.toNat := by omega
  have hnotLow : isLowSurrogate c.toNat = false := by
    simp [isLowSurrogate]
    omega
  have hnotHigh : isHighSurrogate c.toNat = false := by
    simp [isHighSurrogate]
    omega
  simp [readUnicodeEscape, readHex4, hhigh, hlow, hzero, hvalue, hnotLow, hnotHigh]

/-- A character behind the one that was read. -/
def consText (c : Char) (p : Option (List Char) × List Char) : Option (List Char) × List Char :=
  (p.1.map (c :: ·), p.2)

/-- A backslash and a letter are read as the character that they stand for. -/
theorem readStringTail_simple {e c : Char} (h : simpleEscape? e = some c) (fuel : Nat)
    (s : List Char) :
    readStringTail (fuel + 1) ('\\' :: e :: s) = (readStringTail fuel s).map (consText c) := by
  -- The letter of a code is none of these.
  have hu : e ≠ 'u' := by
    rintro rfl
    simp [simpleEscape?] at h
  cases hs : readStringTail fuel s <;> simp [readStringTail, h, hs, consText]

/-- A control character in its general form is read as itself. -/
theorem readStringTail_control {c : Char} (hc : c.toNat < 0x20) (fuel : Nat) (s : List Char) :
    readStringTail (fuel + 1) ('\\' :: 'u' :: '0' :: '0' :: hexDigit (c.toNat / 16) ::
      hexDigit (c.toNat % 16) :: s) = (readStringTail fuel s).map (consText c) := by
  simp only [readStringTail, readUnicodeEscape_control hc]
  rcases hs : readStringTail fuel s with _ | ⟨_ | text, rest⟩ <;> simp [hs, consText]

/-- Any other character stands for itself. -/
theorem readStringTail_cons {c : Char} (hquote : c ≠ '"') (hbackslash : c ≠ '\\')
    (hc : ¬c.toNat < 0x20) (fuel : Nat) (s : List Char) :
    readStringTail (fuel + 1) (c :: s) = (readStringTail fuel s).map (consText c) := by
  rcases hs : readStringTail fuel s with _ | ⟨text, rest⟩ <;>
    simp [readStringTail, hbackslash, hc, hs, consText]

/-- A character is read back in the way it is written in a string. -/
theorem readStringTail_escapeChar (fuel : Nat) (c : Char) (s : List Char) :
    readStringTail (fuel + 1) (escapeChar c ++ s) = (readStringTail fuel s).map (consText c) := by
  unfold escapeChar
  split_ifs with hquote hbackslash hn hr ht hb hf hcontrol
  · exact readStringTail_simple (by rw [hquote]; rfl) fuel s
  · exact readStringTail_simple (by rw [hbackslash]; rfl) fuel s
  · exact readStringTail_simple (by rw [hn]; rfl) fuel s
  · exact readStringTail_simple (by rw [hr]; rfl) fuel s
  · exact readStringTail_simple (by rw [ht]; rfl) fuel s
  · refine readStringTail_simple ?_ fuel s
    rw [← Char.ofNat_toNat c, hb]
    rfl
  · refine readStringTail_simple ?_ fuel s
    rw [← Char.ofNat_toNat c, hf]
    rfl
  · exact readStringTail_control hcontrol fuel s
  · exact readStringTail_cons hquote hbackslash hcontrol fuel s

/-- A text is read back up to the quote behind it. -/
theorem readStringTail_flatMap (text s : List Char) {fuel : Nat} (hfuel : text.length < fuel) :
    readStringTail fuel (text.flatMap escapeChar ++ '"' :: s) = some (some text, s) := by
  obtain ⟨k, rfl⟩ : ∃ k, fuel = k + 1 := ⟨fuel - 1, by omega⟩
  induction text generalizing k with
  | nil => rfl
  | cons c text ih =>
    rw [List.length_cons] at hfuel
    obtain ⟨k, rfl⟩ : ∃ l, k = l + 1 := ⟨k - 1, by omega⟩
    rw [List.flatMap_cons, List.append_assoc, readStringTail_escapeChar, ih k (by omega)]
    rfl

/-- A character is written with at least one character. -/
theorem length_escapeChar_pos (c : Char) : 0 < (escapeChar c).length := by
  unfold escapeChar
  split_ifs <;> simp

/-- A text is written with at least as many characters as it has. -/
theorem length_le_length_flatMap (text : List Char) :
    text.length ≤ (text.flatMap escapeChar).length := by
  induction text with
  | nil => simp
  | cons c text ih =>
    have hpos := length_escapeChar_pos c
    rw [List.flatMap_cons, List.length_append, List.length_cons]
    omega

/-- A string is read back. -/
theorem readString_quote (t : String) (s : List Char) :
    ∃ tail, quote t ++ s = '"' :: tail ∧ readString tail = some (some t.toList, s) := by
  refine ⟨t.toList.flatMap escapeChar ++ '"' :: s, by simp [quote], ?_⟩
  refine readStringTail_flatMap t.toList s ?_
  have hlength := length_le_length_flatMap t.toList
  rw [List.length_append, List.length_cons]
  omega

/-! ## Numbers -/

/-- What stands behind a number: nothing that could belong to it. -/
def EndsNumber (s : List Char) : Prop :=
  ∀ c ∈ s.head?, c.isDigit = false ∧ c ≠ '.' ∧ c ≠ 'e' ∧ c ≠ 'E'

/-- The value of digits is at least that of what stands in front of them. -/
theorem le_ofDigitChars (ds : List Char) (n : Nat) : n ≤ Nat.ofDigitChars 10 ds n := by
  rw [Nat.ofDigitChars_eq_ofDigitChars_zero]
  exact (Nat.le_mul_of_pos_left n (Nat.pow_pos (by decide))).trans (Nat.le_add_right _ _)

/-- All digits of a number that fits 64 bits are read. -/
theorem readDigits_append {ds : List Char} (hds : ∀ c ∈ ds, c.isDigit) {s : List Char}
    (hs : EndsNumber s) {n : Nat} (hn : Nat.ofDigitChars 10 ds n ≤ maxNatural) (appended : Nat) :
    readDigits n appended (ds ++ s) =
      (Nat.ofDigitChars 10 ds n, appended + ds.length, 0, s) := by
  induction ds generalizing n appended with
  | nil =>
    cases s with
    | nil => simp [readDigits]
    | cons c s =>
      have hc := (hs c rfl).1
      simp [readDigits, hc]
  | cons c ds ih =>
    have hc := hds c List.mem_cons_self
    rw [Nat.ofDigitChars_cons, Nat.mul_comm] at hn ⊢
    have hnext : ¬maxNatural < n * 10 + (c.toNat - '0'.toNat) :=
      Nat.not_lt.mpr ((le_ofDigitChars ds _).trans hn)
    rw [List.cons_append, readDigits, if_neg (by simp [hc])]
    dsimp only
    rw [if_neg hnext, ih (fun d hd => hds d (List.mem_cons_of_mem c hd)) hn]
    simp [Nat.add_comm, Nat.add_left_comm]

/-- The digits of a number other than zero do not start with a zero. -/
theorem head?_toDigits_ne {n : Nat} (hn : n ≠ 0) : (Nat.toDigits 10 n).head? ≠ some '0' := by
  induction n using Nat.strongRecOn with
  | ind n ih =>
    rw [Nat.toDigits_eq_if (by decide)]
    split_ifs with hlt
    · simpa using hn
    · rw [List.head?_append_of_ne_nil _ Nat.toDigits_ne_nil]
      exact ih (n / 10) (by omega) (by omega)

/-- The digits of a number are at least one, and more than one only if the first is no zero. -/
theorem exists_toDigits_eq_cons (n : Nat) :
    ∃ d ds, Nat.toDigits 10 n = d :: ds ∧ d.isDigit ∧ (d = '0' → ds = []) := by
  obtain ⟨d, ds, hd⟩ := List.exists_cons_of_ne_nil (Nat.toDigits_ne_nil (n := n) (b := 10))
  have hmem : d ∈ Nat.toDigits 10 n := hd ▸ List.mem_cons_self
  refine ⟨d, ds, hd, Nat.isDigit_of_mem_toDigits (by decide) (by decide) hmem, ?_⟩
  rintro rfl
  by_cases hzero : n = 0
  · rw [hzero, Nat.toDigits_zero] at hd
    simpa using hd.symm
  · exact absurd (by rw [hd]; rfl) (head?_toDigits_ne hzero)

/-- The digits of a number are read as a whole number. -/
theorem readNumber_toDigits (negative : Bool) {n : Nat} (hn : n ≤ maxNatural) {s : List Char}
    (hs : EndsNumber s) :
    readNumber negative (Nat.toDigits 10 n ++ s) = some (wholeNumber negative n, s) := by
  have hdigits : ∀ c ∈ Nat.toDigits 10 n, c.isDigit := fun c hc =>
    Nat.isDigit_of_mem_toDigits (by decide) (by decide) hc
  have hvalue : Nat.ofDigitChars 10 (Nat.toDigits 10 n) 0 = n := Nat.ofDigitChars_ten_toDigits
  have hread := readDigits_append hdigits hs (n := 0) (by rw [hvalue]; exact hn) 0
  rw [hvalue] at hread
  obtain ⟨d, ds, hd, hdigit, hzero⟩ := exists_toDigits_eq_cons n
  rw [hd] at hread ⊢
  unfold readNumber
  simp only [List.cons_append] at hread ⊢
  rw [if_neg, hread]
  · cases s with
    | nil => rfl
    | cons c s =>
      obtain ⟨-, hpoint, hlower, hupper⟩ := hs c rfl
      simp [hpoint, hlower, hupper]
  · -- The first digit may stand at the front of a number.
    split
    · next c tail heq =>
      obtain ⟨rfl, htail⟩ := List.cons_eq_cons.mp heq
      rw [hzero rfl, List.nil_append] at htail
      simp [(hs c (by rw [htail]; rfl)).1]
    · next heq =>
      obtain ⟨rfl, -⟩ := List.cons_eq_cons.mp heq
      simpa using hdigit
    · next heq => simp at heq

/-- A natural number is read back. -/
theorem readNumber_natural (n : UInt64) {s : List Char} (hs : EndsNumber s) :
    readNumber false (numberText (.natural n) ++ s) = some (.natural n, s) := by
  have hle : n.toNat ≤ maxNatural := Nat.le_of_lt_succ n.toNat_lt
  rw [numberText, readNumber_toDigits false hle hs]
  simp [wholeNumber]

/-- A negative number is written with a minus sign, behind which it is read back. -/
theorem readNumber_negative {n : Int64} (hn : n < 0) {s : List Char} (hs : EndsNumber s) :
    ∃ ds, numberText (.negative n) = '-' :: ds ∧
      readNumber true (ds ++ s) = some (.negative n, s) := by
  have hneg : n.toInt < 0 := by simpa [Int64.lt_iff_toInt_lt] using hn
  have hmin : -2 ^ 63 ≤ n.toInt := n.le_toInt
  refine ⟨Nat.toDigits 10 (-n.toInt).toNat, ?_, ?_⟩
  · rw [numberText, Int.toString_eq_repr, Int.repr_eq_if, if_neg (by omega)]
    simp
  · have hle : (-n.toInt).toNat ≤ maxNatural := by
      unfold maxNatural
      omega
    have hvalue : -((-n.toInt).toNat : Int) = n.toInt := by omega
    rw [readNumber_toDigits true hle hs, wholeNumber, if_neg (by decide), if_neg (by omega), hvalue,
      Int64.ofInt_toInt]

end SqlJob.Json
