import SqlJob.Operation.Reader
import SqlJob.Proofs.Script.Spelling
import SqlJob.Proofs.Text.Pieces

/-!
# What a SET statement assigns

A `SET` command is recognised on the text, in the same way in every dialect
(`read_eq_setOption_iff`). What stands behind the word and the white space is cut at the first
equals sign, and what is left of the two sides when they are trimmed are the parts of the assignment
(`parts?`). A statement assigns an option if both parts hold more than quotes and white space
(`settingOf?_eq_some_iff`).

A part loses the quotes around it if they match (`unquote_cases`). The text between them is trimmed
again, so that white space next to a quote is lost too.
-/

namespace SqlJob

namespace SetSyntax

open Text ModeSwitch

/-! ## The parts of an assignment -/

/-- What follows the word `SET` and white space; only the bare word may stand without white space
behind it. -/
theorem rest?_eq_some_iff {s r : List Char} :
    rest? s = some r ↔ ∃ w a, Spells "set".toList w ∧ IsSpace a ∧ (a = [] → r = []) ∧
      (∀ c ∈ r.head?, isBlank c = false) ∧ s = w ++ (a ++ r) := by
  unfold rest?
  constructor
  · intro h
    split at h
    · next hword =>
      obtain ⟨w, hw, rfl⟩ := afterWord_eq_some_iff.mp hword
      obtain rfl : [] = r := by simpa using h
      exact ⟨w, [], hw, by simp [IsSpace], fun _ => rfl, by simp, by simp⟩
    · next t _ hword =>
      obtain ⟨w, hw, rfl⟩ := afterWord_eq_some_iff.mp hword
      cases t with
      | nil => simp [afterSpace] at h
      | cons c t =>
        rw [afterSpace] at h
        split_ifs at h with hc
        obtain rfl : trimStart t = r := by simpa using h
        obtain ⟨a, ha, ht⟩ := exists_eq_append_trimStart t
        refine ⟨w, c :: a, hw, List.forall_mem_cons.mpr ⟨hc, ha⟩, by simp, head?_trimStart t, ?_⟩
        rw [List.cons_append, ← ht]
    · simp at h
  · rintro ⟨w, a, hw, ha, hbare, hr, rfl⟩
    rw [hw.afterWord_append]
    cases a with
    | nil =>
      rw [hbare rfl]
      rfl
    | cons c a =>
      obtain ⟨hc, ha⟩ := List.forall_mem_cons.mp ha
      have hskip : trimStart (a ++ r) = r := by
        rw [trimStart_append_left ha, trimStart_of_head? hr]
      simp [afterSpace, hc, hskip]

/-- The two sides of an assignment's equals sign, trimmed, if the statement is one. -/
def parts? (s : List Char) : Option (List Char × List Char) :=
  ((rest? (trim s)).bind (cutAt '=')).map fun p => (trim p.1, trim p.2)

/-- The parts of an assignment are the trimmed sides of the first equals sign. -/
theorem parts?_eq_some_iff {s k v : List Char} :
    parts? s = some (k, v) ↔
      ∃ x y, rest? (trim s) = some (x ++ '=' :: y) ∧ '=' ∉ x ∧ trim x = k ∧ trim y = v := by
  simp only [parts?, Option.map_eq_some_iff, Option.bind_eq_some_iff, Prod.exists, Prod.mk.injEq]
  constructor
  · rintro ⟨x, y, ⟨r, hr, hcut⟩, hx, hy⟩
    obtain ⟨rfl, hne⟩ := cutAt_eq_some_iff.mp hcut
    exact ⟨x, y, hr, hne, hx, hy⟩
  · rintro ⟨x, y, hr, hne, hx, hy⟩
    exact ⟨x, y, ⟨_, hr, cutAt_eq_some_iff.mpr ⟨rfl, hne⟩⟩, hx, hy⟩

/-- The parts of an assignment are trimmed. -/
theorem isTrimmed_of_parts? {s k v : List Char} (h : parts? s = some (k, v)) :
    IsTrimmed k ∧ IsTrimmed v := by
  obtain ⟨x, y, -, -, rfl, rfl⟩ := parts?_eq_some_iff.mp h
  exact ⟨isTrimmed_trim x, isTrimmed_trim y⟩

/-! ## Quotes -/

/-- A layer of quotes is the same character at both ends of the text. -/
theorem dropLayer_eq_some_iff {q : Char} {s inner : List Char} :
    dropLayer q s = some inner ↔ s = q :: (inner ++ [q]) := by
  cases s with
  | nil => simp [dropLayer]
  | cons c rest =>
    rw [dropLayer]
    constructor
    · intro h
      split_ifs at h with hq
      obtain ⟨rfl, hlast⟩ := hq
      obtain ⟨init, rfl⟩ := List.getLast?_eq_some_iff.mp hlast
      obtain rfl : init = inner := by simpa using h
      rfl
    · intro h
      obtain ⟨rfl, rfl⟩ := List.cons_eq_cons.mp h
      simp

/-- Trimming a text first does not change what is between its quotes. -/
theorem unquote_trim (s : List Char) : unquote (trim s) = unquote s := by
  unfold unquote
  rw [(isTrimmed_trim s).trim_eq]

/-- A trimmed text either is a text between matching quotes, and that text, trimmed, is what is left
of it, or it is left as it is. -/
theorem unquote_cases {s : List Char} (hs : IsTrimmed s) :
    (∃ q inner, IsQuote q ∧ s = q :: (inner ++ [q]) ∧ unquote s = trim inner) ∨
      (∀ q inner, IsQuote q → s ≠ q :: (inner ++ [q])) ∧ unquote s = s := by
  unfold unquote
  rw [hs.trim_eq]
  cases hsingle : dropLayer '\'' s with
  | some inner =>
    exact .inl ⟨'\'', inner, .inl rfl, dropLayer_eq_some_iff.mp hsingle, by simp [hsingle]⟩
  | none =>
    cases hdouble : dropLayer '"' s with
    | some inner =>
      have hdrop := dropLayer_eq_some_iff.mp hdouble
      exact .inl ⟨'"', inner, .inr rfl, hdrop, by simp [hsingle, hdouble]⟩
    | none =>
      refine .inr ⟨?_, by simp [hsingle, hdouble]⟩
      rintro q inner (rfl | rfl) heq
      · simp [dropLayer_eq_some_iff.mpr heq] at hsingle
      · simp [dropLayer_eq_some_iff.mpr heq] at hdouble

/-- The text without the quotes around it if they match, and otherwise the text itself. -/
inductive Peels (s : List Char) : List Char → Prop
  | quoted {q : Char} {inner : List Char} (hq : IsQuote q) (hs : s = q :: (inner ++ [q])) :
      Peels s inner
  | bare (h : ∀ q inner, IsQuote q → s ≠ q :: (inner ++ [q])) : Peels s s

/-- A text between quotes ends with the second one. -/
@[simp] theorem getLast?_quoted (q p : Char) (inner : List Char) :
    (q :: (inner ++ [p])).getLast? = some p := by
  rw [← List.cons_append, List.getLast?_concat]

/-- A text between quotes is trimmed. -/
theorem isTrimmed_quoted {q : Char} (hq : IsQuote q) (inner : List Char) :
    IsTrimmed (q :: (inner ++ [q])) := by
  have hblank : isBlank q = false := by
    rcases hq with rfl | rfl <;> decide
  constructor
  · intro c hc
    obtain rfl : q = c := by simpa using hc
    exact hblank
  · intro c hc
    obtain rfl : q = c := by simpa using hc
    exact hblank

/-- What is left of a trimmed text is the text without its quotes, trimmed. -/
theorem unquote_of_peels {s inner : List Char} (hs : IsTrimmed s) (h : Peels s inner) :
    unquote s = trim inner := by
  rcases unquote_cases hs with ⟨p, inner', hp, hs', hunquote⟩ | ⟨hnot, hunquote⟩
  · cases h with
    | quoted hq hs =>
      obtain ⟨rfl, hinner⟩ := List.cons_eq_cons.mp (hs'.symm.trans hs)
      rw [hunquote, List.append_cancel_right hinner]
    | bare hnot => exact absurd hs' (hnot p inner' hp)
  · cases h with
    | quoted hq hs => exact absurd hs (hnot _ _ hq)
    | bare => rw [hunquote, hs.trim_eq]

/-- From every text quotes can be taken away, be there any or none. -/
theorem exists_peels {s : List Char} (hs : IsTrimmed s) : ∃ inner, Peels s inner := by
  rcases unquote_cases hs with ⟨q, inner, hq, hs', -⟩ | ⟨hnot, -⟩
  · exact ⟨inner, .quoted hq hs'⟩
  · exact ⟨s, .bare hnot⟩

/-- A part of the command is there if something is left of it. -/
theorem part_eq_some_iff {s : List Char} {t : String} :
    part s = some t ↔ unquote s = t.toList ∧ t ≠ "" := by
  unfold part
  dsimp only
  constructor
  · intro h
    split_ifs at h with hne
    obtain rfl : String.ofList (unquote s) = t := by simpa using h
    exact ⟨by simp, by simpa using hne⟩
  · rintro ⟨h, hne⟩
    rw [h, if_neg (by simpa using hne)]
    simp

end SetSyntax

open Text SetSyntax ModeSwitch

/-! ## Statements -/

/-- A statement of the dialect is no `SET` command. -/
theorem StatementReader.readStatement_ne (r : StatementReader) (sql : String) (c : SetCommand) :
    r.readStatement sql ≠ .ok (.setOption c) := by
  unfold readStatement
  split
  · simp
  · next s _ =>
    unfold Operation.ofStatement
    split <;> simp
  · simp

/-- The empty text is no `SET` command. -/
theorem SetCommand.read?_empty : SetCommand.read? "" = none := rfl

/-- A statement is a `SET` command on its text, whatever the dialect. -/
theorem read_eq_setOption_iff (r : StatementReader) {statement : String} {c : SetCommand} :
    r.read statement = .ok (.setOption c) ↔ SetCommand.read? (trimmed statement) = some c := by
  have hoperation : r.read statement = .ok (.setOption c) ↔
      r.readOperation statement = .ok (.setOption c) := by
    unfold StatementReader.read
    split
    · next h => simp [h]
    · next h => simp [h]
  rw [hoperation]
  unfold StatementReader.readOperation
  dsimp only
  split_ifs with hempty
  · rw [hempty, SetCommand.read?_empty]
    simp
  · cases hread : SetCommand.read? (trimmed statement) with
    | none => simp [r.readStatement_ne]
    | some command => simp

/-- The option that a statement assigns and the value it gives it. -/
def settingOf? (statement : String) : Option (String × String) :=
  (SetCommand.read? (trimmed statement)).bind (·.assignment?)

/-- A command assigns its key its value if it has both. -/
theorem assignment?_eq_some_iff {c : SetCommand} {key value : String} :
    c.assignment? = some (key, value) ↔ c.key = some key ∧ c.value = some value := by
  obtain ⟨sql, k, v⟩ := c
  cases k <;> cases v <;> simp [SetCommand.assignment?]

/-- What a statement assigns is what the command that it is read as assigns. -/
theorem exists_read_eq_setOption_iff (r : StatementReader) {statement : String}
    {setting : String × String} :
    (∃ c, r.read statement = .ok (.setOption c) ∧ c.assignment? = some setting) ↔
      settingOf? statement = some setting := by
  simp only [read_eq_setOption_iff, settingOf?, Option.bind_eq_some_iff]

/-- A statement assigns an option if it has the two parts of an assignment and something is left of
both. -/
theorem settingOf?_eq_some_iff {statement key value : String} :
    settingOf? statement = some (key, value) ↔
      ∃ k v, parts? statement.toList = some (k, v) ∧ unquote k = key.toList ∧ key ≠ "" ∧
        unquote v = value.toList ∧ value ≠ "" := by
  have htrim : (trimmed statement).toList = trim statement.toList := String.toList_ofList
  have hparts : ∀ k v, parts? statement.toList = some (k, v) ↔
      ∃ rest x y, rest? (trim statement.toList) = some rest ∧ cutAt '=' rest = some (x, y) ∧
        trim x = k ∧ trim y = v := by
    intro k v
    simp [parts?, Option.map_eq_some_iff, Option.bind_eq_some_iff]
  simp only [settingOf?, Option.bind_eq_some_iff, assignment?_eq_some_iff, hparts, SetCommand.read?,
    htrim]
  constructor
  · rintro ⟨c, hread, hkey, hvalue⟩
    cases hrest : rest? (trim statement.toList) with
    | none => simp [hrest] at hread
    | some rest =>
      cases hcut : cutAt '=' rest with
      | none =>
        obtain rfl : ⟨trimmed statement, part rest, none⟩ = c := by simpa [hrest, hcut] using hread
        simp at hvalue
      | some p =>
        obtain rfl : ⟨trimmed statement, part p.1, part p.2⟩ = c := by
          simpa [hrest, hcut] using hread
        obtain ⟨hk, hkne⟩ := part_eq_some_iff.mp hkey
        obtain ⟨hv, hvne⟩ := part_eq_some_iff.mp hvalue
        rw [← unquote_trim] at hk hv
        exact ⟨_, _, ⟨rest, p.1, p.2, rfl, hcut, rfl, rfl⟩, hk, hkne, hv, hvne⟩
  · rintro ⟨k, v, ⟨rest, x, y, hrest, hcut, rfl, rfl⟩, hk, hkne, hv, hvne⟩
    rw [unquote_trim] at hk hv
    refine ⟨⟨trimmed statement, part x, part y⟩, ?_, part_eq_some_iff.mpr ⟨hk, hkne⟩,
      part_eq_some_iff.mpr ⟨hv, hvne⟩⟩
    simp [hrest, hcut]

end SqlJob
