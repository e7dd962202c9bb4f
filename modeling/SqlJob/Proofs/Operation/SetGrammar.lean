import SqlJob.Proofs.Operation.SetPattern

/-!
# The grammar of SET

What a `SET` command is can be said without a reader. The text is the word in any case, alone or
with white space behind it (`SetSyntax.IsCommand`). What follows the white space has a key and, if
there is an equals sign in it, a value (`SetSyntax.HasParts`), and each part is what is left of its
text without white space and one layer of quotes (`SetSyntax.IsPart`).

The main statement, `read_followsSetGrammar`, is that statements are read so in every dialect. It
also says that the parts are those that the pattern of a command finds first, and that an assignment
that is written out is read back, whatever its value holds (`SetSyntax.Assigns`).
-/

namespace SqlJob

namespace SetSyntax

open Text ModeSwitch

/-! ## The words of the grammar -/

/-- The text is the word `SET` in any case, alone or with white space behind it. -/
def IsCommand (s : List Char) : Prop :=
  ∃ w t, Spells "set".toList w ∧ s = w ++ t ∧ (t = [] ∨ ∃ c t', isBlank c = true ∧ t = c :: t')

/-- The text is the word `SET` in any case, and the rest follows it with all white space between. -/
def Follows (s rest : List Char) : Prop :=
  ∃ w a, Spells "set".toList w ∧ IsSpace a ∧ (a = [] → rest = []) ∧
    (∀ c ∈ rest.head?, isBlank c = false) ∧ s = w ++ (a ++ rest)

/-- The part is what is left of the text, trimmed, without one layer of quotes, and trimmed again.
There is none if nothing is left. -/
def IsPart (s : List Char) (p : Option String) : Prop :=
  ∃ inner, Peels (trim s) inner ∧
    p = if trim inner = [] then none else some (String.ofList (trim inner))

/-- The key and the value of a command, by what follows the word `SET` and white space. -/
inductive HasParts : List Char → Option String → Option String → Prop
  /-- Without an equals sign all of it is the key. -/
  | keyOnly {rest : List Char} {key : Option String} (h : '=' ∉ rest) (hkey : IsPart rest key) :
      HasParts rest key none
  /-- The first equals sign stands between key and value. -/
  | assignment {x y : List Char} {key value : Option String} (h : '=' ∉ x) (hkey : IsPart x key)
      (hvalue : IsPart y value) : HasParts (x ++ '=' :: y) key value

/-- The text assigns the value to the key: behind the word and white space there are key, equals
sign and value, each bare or between quotes, with white space between them as one likes. -/
inductive Assigns (key value : List Char) : List Char → Prop
  | intro {w a k b c v : List Char} (hw : Spells "set".toList w) (ha : IsSpace a) (hne : a ≠ [])
      (hk : Peels k key) (hb : IsSpace b) (hc : IsSpace c) (hv : Peels v value) :
      Assigns key value (w ++ (a ++ (k ++ (b ++ '=' :: (c ++ v)))))

/-! ## The reader and the grammar -/

/-- Something follows the word in a text exactly if the text is a command. -/
theorem exists_rest?_iff {s : List Char} : (∃ rest, rest? s = some rest) ↔ IsCommand s := by
  simp only [rest?_eq_some_iff]
  constructor
  · rintro ⟨rest, w, a, hw, ha, hbare, -, rfl⟩
    refine ⟨w, a ++ rest, hw, rfl, ?_⟩
    cases a with
    | nil => exact .inl (hbare rfl)
    | cons c a => exact .inr ⟨c, a ++ rest, ha c List.mem_cons_self, rfl⟩
  · rintro ⟨w, t, hw, rfl, rfl | ⟨c, t', hc, rfl⟩⟩
    · exact ⟨[], w, [], hw, by simp [IsSpace], fun _ => rfl, by simp, rfl⟩
    · obtain ⟨a, ha, ht⟩ := exists_eq_append_trimStart t'
      refine ⟨trimStart t', w, c :: a, hw, List.forall_mem_cons.mpr ⟨hc, ha⟩, by simp,
        head?_trimStart t', ?_⟩
      rw [List.cons_append, ← ht]

/-- A text has one part, and it is the one that is read. -/
theorem isPart_iff {s : List Char} {p : Option String} : IsPart s p ↔ part s = p := by
  have hpart : ∀ inner, Peels (trim s) inner →
      part s = if trim inner = [] then none else some (String.ofList (trim inner)) := by
    intro inner h
    have hunquote : unquote s = trim inner := by
      rw [← unquote_trim, unquote_of_peels (isTrimmed_trim s) h]
    unfold part
    rw [hunquote]
  constructor
  · rintro ⟨inner, h, rfl⟩
    exact hpart inner h
  · rintro rfl
    obtain ⟨inner, h⟩ := exists_peels (isTrimmed_trim s)
    exact ⟨inner, h, hpart inner h⟩

/-- What follows the word has one key and one value at most, and they are those that are read. -/
theorem hasParts_iff {rest : List Char} {key value : Option String} :
    HasParts rest key value ↔ partsOf rest = (key, value) := by
  constructor
  · intro h
    unfold partsOf
    cases h with
    | keyOnly h hkey =>
      have hcut : cutAt '=' rest = none := by simp [cutAt, h]
      simp only [hcut, isPart_iff.mp hkey]
    | assignment h hkey hvalue =>
      simp only [cutAt_eq_some_iff.mpr ⟨rfl, h⟩, isPart_iff.mp hkey, isPart_iff.mp hvalue]
  · intro h
    unfold partsOf at h
    cases hcut : cutAt '=' rest with
    | none =>
      rw [hcut] at h
      obtain ⟨rfl, rfl⟩ := Prod.mk.inj h
      have hequal : '=' ∉ rest := by
        unfold cutAt at hcut
        simpa using hcut
      exact .keyOnly hequal (isPart_iff.mpr rfl)
    | some p =>
      obtain ⟨x, y⟩ := p
      rw [hcut] at h
      obtain ⟨rfl, rfl⟩ := Prod.mk.inj h
      obtain ⟨rfl, hequal⟩ := cutAt_eq_some_iff.mp hcut
      exact .assignment hequal (isPart_iff.mpr rfl) (isPart_iff.mpr rfl)

/-- A part is not empty, and there is no white space around it. -/
theorem isTrimmed_of_part {s : List Char} {p : String} (h : part s = some p) :
    p ≠ "" ∧ IsTrimmed p.toList := by
  obtain ⟨hunquote, hne⟩ := part_eq_some_iff.mp h
  obtain ⟨inner, hinner⟩ := exists_peels (isTrimmed_trim s)
  refine ⟨hne, ?_⟩
  rw [← hunquote, ← unquote_trim, unquote_of_peels (isTrimmed_trim s) hinner]
  exact isTrimmed_trim inner

/-- The parts of a command are parts of the text in front of the equals sign and behind it. -/
theorem exists_part_of_partsOf {rest : List Char} {p : String}
    (h : (partsOf rest).1 = some p ∨ (partsOf rest).2 = some p) : ∃ s, part s = some p := by
  unfold partsOf at h
  split at h
  · exact h.elim (fun h => ⟨_, h⟩) fun h => ⟨_, h⟩
  · exact h.elim (fun h => ⟨_, h⟩) nofun

/-! ## Assignments that are written out -/

/-- What a trimmed text is written as is trimmed too, and is read as that text. -/
theorem isTrimmed_of_peels {s inner : List Char} (h : Peels s inner) (hinner : IsTrimmed inner) :
    IsTrimmed s ∧ unquote s = inner := by
  have hs : IsTrimmed s := by
    cases h with
    | quoted hq hs =>
      rw [hs]
      exact isTrimmed_quoted hq _
    | bare => exact hinner
  exact ⟨hs, by rw [unquote_of_peels hs h, hinner.trim_eq]⟩

/-- What a text is written as is the text with the same quotes in front of it and behind it, if
there are any. -/
theorem Peels.exists_marks {s inner : List Char} (h : Peels s inner) :
    ∃ u, (∀ c ∈ u, IsQuote c) ∧ s = u ++ (inner ++ u) := by
  cases h with
  | @quoted q _ hq hs => exact ⟨[q], by simpa using hq, hs⟩
  | bare => exact ⟨[], by simp, by simp⟩

/-- A text that is not empty is not written as nothing. -/
theorem Peels.ne_nil {s inner : List Char} (h : Peels s inner) (hne : inner ≠ []) : s ≠ [] := by
  obtain ⟨u, -, rfl⟩ := h.exists_marks
  simp [hne]

/-- A character that is no quote is in what a text is written as only if it is in the text. -/
theorem Peels.notMem {s inner : List Char} (h : Peels s inner) {c : Char} (hc : ¬ IsQuote c)
    (hinner : c ∉ inner) : c ∉ s := by
  obtain ⟨u, hu, rfl⟩ := h.exists_marks
  have hcu : c ∉ u := fun hmem => hc (hu c hmem)
  simp [hcu, hinner]

/-- A character that is none of the signs of an assignment is in its text only if it is in the key
or in the value. -/
theorem Assigns.notMem {key value text : List Char} (h : Assigns key value text) {c : Char}
    (hlower : c.toLower = c) (hword : c ∉ ['s', 'e', 't', 'ſ', '=']) (hblank : isBlank c = false)
    (hquote : ¬ IsQuote c) (hkey : c ∉ key) (hvalue : c ∉ value) : c ∉ text := by
  cases h with
  | @intro w a k b d v hw ha hne hk hb hd hv =>
    simp only [List.mem_cons, List.not_mem_nil, or_false, not_or] at hword
    have hspells : c ∉ w := fun hmem => by
      simpa [hword] using hw.mem_of_mem hmem hlower hword.2.2.2.1
    simp [hspells, ha.notMem hblank, hk.notMem hquote hkey, hb.notMem hblank, hword,
      hd.notMem hblank, hv.notMem hquote hvalue]

end SetSyntax

open Text SetSyntax ModeSwitch

/-- An assignment that is written out is read back. -/
theorem settingOf?_of_assigns {statement key value : String}
    (h : Assigns key.toList value.toList (trim statement.toList)) (hkey : key ≠ "")
    (hkeytrim : IsTrimmed key.toList) (hequal : '=' ∉ key.toList) (hvalue : value ≠ "")
    (hvaluetrim : IsTrimmed value.toList) : settingOf? statement = some (key, value) := by
  generalize hs : trim statement.toList = s at h
  cases h with
  | @intro w a k b c v hw ha hne hk hb hc hv =>
    obtain ⟨hktrim, hkread⟩ := isTrimmed_of_peels hk hkeytrim
    obtain ⟨hvtrim, hvread⟩ := isTrimmed_of_peels hv hvaluetrim
    have hkne : k ≠ [] := hk.ne_nil (by simpa using hkey)
    have hbequal : '=' ∉ b := hb.notMem (by decide)
    have hnone : IsSpace [] := by simp [IsSpace]
    have hparts : parts? statement.toList = some (k, v) := by
      refine parts?_eq_some_iff.mpr ⟨k ++ b, c ++ v, rest?_eq_some_iff.mpr ?_, ?_, ?_, ?_⟩
      · refine ⟨w, a, hw, ha, fun hnil => absurd hnil hne, ?_, ?_⟩
        · rw [List.append_assoc, List.head?_append_of_ne_nil _ hkne]
          exact hktrim.head
        · rw [hs, List.append_assoc]
      · simp [hk.notMem (by decide) hequal, hbequal]
      · exact trim_append hnone hktrim hb
      · rw [← List.append_nil (c ++ v)]
        exact trim_append hc hvtrim hnone
    exact settingOf?_eq_some_iff.mpr ⟨k, v, hparts, hkread, hkey, hvread, hvalue⟩

/-- The commands that a statement is read as are those of the grammar. -/
structure StatementReader.FollowsSetGrammar (r : StatementReader) (statement : String) : Prop where
  /-- A statement is a command exactly if, trimmed, it is the word `SET` in any case, alone or with
  white space behind it. -/
  isCommand_iff : (∃ c, r.read statement = .ok (.setOption c)) ↔ IsCommand (trim statement.toList)
  /-- Such a text is always read. -/
  ne_error : IsCommand (trim statement.toList) → ∀ e, r.read statement ≠ .error e
  /-- A command is the trimmed text, and its parts are those of what follows the word and white
  space. -/
  read_eq_iff : ∀ c, r.read statement = .ok (.setOption c) ↔ c.sql = trimmed statement ∧
    ∃ rest, Follows (trim statement.toList) rest ∧ HasParts rest c.key c.value
  /-- The parts are those of the first way in which the pattern of a command matches the text. -/
  match_eq_iff : ∀ c, r.read statement = .ok (.setOption c) ↔
    ∃ groups, pattern.match? (trim statement.toList) = some groups ∧
      c = ⟨trimmed statement, (captured groups).1, (captured groups).2⟩
  /-- No part is empty or has white space around it. -/
  isTrimmed : ∀ c p, r.read statement = .ok (.setOption c) → c.key = some p ∨ c.value = some p →
    p ≠ "" ∧ IsTrimmed p.toList
  /-- An assignment that is written out is read back. Its value is any text that is not empty and
  has no white space around it. -/
  written : ∀ key value, Assigns key.toList value.toList (trim statement.toList) →
    key ≠ "" → IsTrimmed key.toList → '=' ∉ key.toList → value ≠ "" → IsTrimmed value.toList →
    ∃ c, r.read statement = .ok (.setOption c) ∧ c.key = some key ∧ c.value = some value

/-- In every dialect the commands that a statement is read as are those of the grammar. -/
theorem read_followsSetGrammar (r : StatementReader) (statement : String) :
    r.FollowsSetGrammar statement := by
  have htrim : (trimmed statement).toList = trim statement.toList := String.toList_ofList
  have hread : ∀ c, r.read statement = .ok (.setOption c) ↔ ∃ rest,
      rest? (trim statement.toList) = some rest ∧
        c = ⟨trimmed statement, (partsOf rest).1, (partsOf rest).2⟩ := by
    intro c
    rw [read_eq_setOption_iff, SetCommand.read?_eq_map_partsOf, Option.map_eq_some_iff, htrim]
    simp only [eq_comm]
  have hcommand : (∃ c, r.read statement = .ok (.setOption c)) ↔
      IsCommand (trim statement.toList) := by
    rw [← exists_rest?_iff]
    simp only [hread]
    constructor
    · rintro ⟨c, rest, hrest, -⟩
      exact ⟨rest, hrest⟩
    · rintro ⟨rest, hrest⟩
      exact ⟨_, rest, hrest, rfl⟩
  refine ⟨hcommand, fun h e => ?_, fun c => ?_, fun c => ?_, fun c p hc hp => ?_,
    fun key value h hkey hkeytrim hequal hvalue hvaluetrim => ?_⟩
  · obtain ⟨c, hc⟩ := hcommand.mpr h
    rw [hc]
    exact nofun
  · rw [hread]
    constructor
    · rintro ⟨rest, hrest, rfl⟩
      exact ⟨rfl, rest, rest?_eq_some_iff.mp hrest, hasParts_iff.mpr rfl⟩
    · rintro ⟨hsql, rest, hfollows, hparts⟩
      obtain ⟨sql, key, value⟩ := c
      obtain rfl : sql = trimmed statement := hsql
      refine ⟨rest, rest?_eq_some_iff.mpr hfollows, ?_⟩
      rw [hasParts_iff.mp hparts]
  · rw [read_eq_setOption_iff, SetCommand.read?_eq_map_match?, Option.map_eq_some_iff, htrim]
    simp only [eq_comm]
  · obtain ⟨rest, -, rfl⟩ := (hread c).mp hc
    obtain ⟨s, hs⟩ := exists_part_of_partsOf hp
    exact isTrimmed_of_part hs
  · have hsetting := settingOf?_of_assigns h hkey hkeytrim hequal hvalue hvaluetrim
    obtain ⟨c, hc, hassigns⟩ := (exists_read_eq_setOption_iff r).mpr hsetting
    exact ⟨c, hc, assignment?_eq_some_iff.mp hassigns⟩

/-- The key ends at the first equals sign, and one layer of quotes is taken away. -/
example : SetCommand.read? "ſet k = \"'a=b\n= c'\"" =
    some ⟨"ſet k = \"'a=b\n= c'\"", some "k", some "'a=b\n= c'"⟩ := by
  decide

end SqlJob
