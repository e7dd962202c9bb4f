import SqlJob.Proofs.Json.Token
import SqlJob.Text.Lines

/-!
# Reading written JSON

`Written` says which texts are written forms of a value: its words in order, with any white space in
front of values, of names and of closing brackets. Numbers are whole ones that fit 64 bits, which
are the only ones with a single written form. Every written form is read back as its value
(`readsAs_of_written`, `read_of_written`).

The two forms in which values are printed are such forms (`written_compactChars`,
`written_prettyChars`), so a value without other numbers is read back from both
(`read_compact`, `read_pretty`).

The depth to which the reader goes is bounded. Each value takes two levels at most for every
character that it is written with, so twice the length of the text is enough.
-/

namespace SqlJob.Json

open Text

/-! ## Written forms -/

/-- A member of an object as it is written: the white space in front of it, its name and the text of
its value. -/
structure MemberText where
  space : List Char
  name : String
  text : List Char
  value : Json

/-- The text of a member. -/
def MemberText.chars (m : MemberText) : List Char :=
  m.space ++ (quote m.name ++ ':' :: m.text)

/-- A text is a written form of a value. -/
inductive Written : List Char → Json → Prop
  | null : Written "null".toList null
  | bool (b : Bool) : Written (if b then "true" else "false").toList (bool b)
  | natural (n : UInt64) : Written (numberText (.natural n)) (number (.natural n))
  | negative {n : Int64} (h : n < 0) : Written (numberText (.negative n)) (number (.negative n))
  | string (s : String) : Written (quote s) (string s)
  /-- The items of an array have commas between them. -/
  | array (items : List (List Char × Json)) (h : ∀ i ∈ items, Written i.1 i.2) {w : List Char}
      (hw : IsSpace w) :
      Written ('[' :: (joinWith ',' (items.map (·.1)) ++ (w ++ [']']))) (array (items.map (·.2)))
  /-- The members of an object have commas between them. -/
  | object (members : List MemberText) (h : ∀ m ∈ members, Written m.text m.value)
      (hspace : ∀ m ∈ members, IsSpace m.space) {w : List Char} (hw : IsSpace w) :
      Written ('\x7b' :: (joinWith ',' (members.map (·.chars)) ++ (w ++ ['\x7d'])))
        (object (members.map fun m => (m.name, m.value)))
  /-- White space may stand in front. -/
  | spaced {w t : List Char} {j : Json} (hw : IsSpace w) (h : Written t j) : Written (w ++ t) j

/-! ## White space in front -/

/-- White space in front of a value is skipped. -/
theorem readValue_skipSpace (fuel : Nat) (s : List Char) :
    readValue fuel (skipSpace s) = readValue fuel s := by
  cases fuel with
  | zero => rfl
  | succ fuel => simp only [readValue, skipSpace_skipSpace]

/-- White space in front of items is skipped. -/
theorem readItems_skipSpace (fuel : Nat) (s : List Char) :
    readItems fuel (skipSpace s) = readItems fuel s := by
  cases fuel with
  | zero => rfl
  | succ fuel => simp only [readItems, readValue_skipSpace]

/-- White space in front of members is skipped. -/
theorem readMembers_skipSpace (fuel : Nat) (s : List Char) :
    readMembers fuel (skipSpace s) = readMembers fuel s := by
  cases fuel with
  | zero => rfl
  | succ fuel => simp only [readMembers, skipSpace_skipSpace]

/-- A closing bracket behind white space. -/
theorem skipSpace_close {w : List Char} (hw : IsSpace w) {c : Char} (hc : ¬IsSpace [c])
    (s : List Char) : skipSpace (w ++ c :: s) = c :: s := by
  rw [skipSpace_append hw, skipSpace_cons hc]

/-- White space and what belongs to no number end a number. -/
theorem endsNumber_append {w : List Char} (hw : IsSpace w) {s : List Char} (hs : EndsNumber s) :
    EndsNumber (w ++ s) := by
  cases w with
  | nil => exact hs
  | cons c w =>
    intro d hd
    obtain rfl : c = d := by simpa using hd
    rcases hw c List.mem_cons_self with rfl | rfl | rfl | rfl <;> decide

/-- A comma or a closing bracket ends a number. -/
theorem endsNumber_cons {c : Char} (hc : c = ',' ∨ c = ']' ∨ c = '\x7d') (s : List Char) :
    EndsNumber (c :: s) := by
  intro d hd
  obtain rfl : c = d := by simpa using hd
  rcases hc with rfl | rfl | rfl <;> decide

/-! ## Items and members -/

/-- A text is read as a value in front of anything that does not belong to a number. -/
def ReadsAs (t : List Char) (j : Json) : Prop :=
  ∀ {s : List Char}, EndsNumber s → ∀ {fuel : Nat}, 2 * t.length ≤ fuel →
    readValue fuel (t ++ s) = some (j, s)

/-- Items that are read one by one are read in a row up to the closing bracket. -/
theorem readItems_of_readsAs {items : List (List Char × Json)} (hne : items ≠ [])
    (h : ∀ i ∈ items, ReadsAs i.1 i.2) {w : List Char} (hw : IsSpace w) (s : List Char)
    {fuel : Nat} (hfuel : 2 * ((joinWith ',' (items.map (·.1))).length + 1) ≤ fuel) :
    readItems fuel (joinWith ',' (items.map (·.1)) ++ (w ++ ']' :: s)) =
      some (items.map (·.2), s) := by
  induction items generalizing fuel with
  | nil => exact absurd rfl hne
  | cons item items ih =>
    obtain ⟨fuel, rfl⟩ : ∃ k, fuel = k + 1 := ⟨fuel - 1, by omega⟩
    obtain ⟨hitem, hitems⟩ := List.forall_mem_cons.mp h
    cases items with
    | nil =>
      simp only [List.map_cons, List.map_nil, joinWith] at hfuel ⊢
      have hends := endsNumber_append hw (endsNumber_cons (.inr (.inl rfl)) s)
      rw [readItems, hitem hends (by omega)]
      simp [skipSpace_close hw (show ¬IsSpace [']'] by simp [IsSpace])]
    | cons next items =>
      have hjoin : joinWith ',' ((item :: next :: items).map (·.1)) =
          item.1 ++ ',' :: joinWith ',' ((next :: items).map (·.1)) := rfl
      rw [hjoin, List.length_append, List.length_cons] at hfuel
      rw [hjoin, List.append_assoc, List.cons_append, readItems,
        hitem (endsNumber_cons (.inl rfl) _) (by omega)]
      simp only [Option.bind_eq_bind, Option.bind_some,
        skipSpace_cons (show ¬IsSpace [','] by simp [IsSpace])]
      rw [ih (by simp) hitems (by omega)]
      rfl

/-- Members whose values are read one by one are read in a row up to the closing brace. -/
theorem readMembers_of_readsAs {members : List MemberText} (hne : members ≠ [])
    (h : ∀ m ∈ members, ReadsAs m.text m.value) (hspace : ∀ m ∈ members, IsSpace m.space)
    {w : List Char} (hw : IsSpace w) (s : List Char) {fuel : Nat}
    (hfuel : 2 * ((joinWith ',' (members.map (·.chars))).length + 1) ≤ fuel) :
    readMembers fuel (joinWith ',' (members.map (·.chars)) ++ (w ++ '\x7d' :: s)) =
      some (some (members.map fun m => (m.name, m.value)), s) := by
  induction members generalizing fuel with
  | nil => exact absurd rfl hne
  | cons m members ih =>
    obtain ⟨fuel, rfl⟩ : ∃ k, fuel = k + 1 := ⟨fuel - 1, by omega⟩
    obtain ⟨hm, hmembers⟩ := List.forall_mem_cons.mp h
    obtain ⟨hmspace, hmembersspace⟩ := List.forall_mem_cons.mp hspace
    -- The name of the first member and the colon behind it, whatever follows.
    have hname : ∀ rest, ∃ tail, skipSpace (m.chars ++ rest) = '"' :: tail ∧
        readString tail = some (some m.name.toList, ':' :: (m.text ++ rest)) := by
      intro rest
      obtain ⟨tail, htail, hread⟩ := readString_quote m.name (':' :: (m.text ++ rest))
      refine ⟨tail, ?_, hread⟩
      rw [MemberText.chars, List.append_assoc, List.append_assoc, skipSpace_append hmspace,
        List.cons_append, htail, skipSpace_cons (by simp [IsSpace])]
    have hlength : m.text.length + 1 ≤ m.chars.length := by
      simp [MemberText.chars]
      omega
    cases members with
    | nil =>
      simp only [List.map_cons, List.map_nil, joinWith] at hfuel ⊢
      obtain ⟨tail, hskip, hread⟩ := hname (w ++ '\x7d' :: s)
      have hends := endsNumber_append hw (endsNumber_cons (.inr (.inr rfl)) s)
      rw [readMembers, hskip]
      simp only [hread, Option.bind_eq_bind, Option.bind_some,
        skipSpace_cons (show ¬IsSpace [':'] by simp [IsSpace])]
      rw [hm hends (by omega)]
      simp [skipSpace_close hw (show ¬IsSpace ['\x7d'] by simp [IsSpace])]
    | cons next members =>
      have hjoin : joinWith ',' ((m :: next :: members).map (·.chars)) =
          m.chars ++ ',' :: joinWith ',' ((next :: members).map (·.chars)) := rfl
      rw [hjoin, List.length_append, List.length_cons] at hfuel
      rw [hjoin, List.append_assoc, List.cons_append]
      obtain ⟨tail, hskip, hread⟩ :=
        hname (',' :: (joinWith ',' ((next :: members).map (·.chars)) ++ (w ++ '\x7d' :: s)))
      rw [readMembers, hskip]
      simp only [hread, Option.bind_eq_bind, Option.bind_some,
        skipSpace_cons (show ¬IsSpace [':'] by simp [IsSpace])]
      rw [hm (endsNumber_cons (.inl rfl) _) (by omega)]
      simp only [Option.bind_some, skipSpace_cons (show ¬IsSpace [','] by simp [IsSpace])]
      rw [ih (by simp) hmembers hmembersspace (by omega)]
      simp

/-! ## Values -/

/-- A text that starts with a digit is read as a number. -/
theorem readValue_of_isDigit {d : Char} (hd : d.isDigit) (fuel : Nat) (s : List Char) :
    readValue (fuel + 1) (d :: s) =
      (readNumber false (d :: s)).map fun (n, rest) => (number n, rest) := by
  have hne : ∀ c : Char, c.isDigit = false → d ≠ c := by
    rintro c hc rfl
    simp [hc] at hd
  have hspace : ¬IsSpace [d] := by
    simp [IsSpace, hne ' ' (by decide), hne '\n' (by decide), hne '\t' (by decide),
      hne '\r' (by decide)]
  rw [readValue, skipSpace_cons hspace]
  simp [hne 'n' (by decide), hne 't' (by decide), hne 'f' (by decide), hne '"' (by decide),
    hne '-' (by decide), hne '[' (by decide), hne '\x7b' (by decide)]

/-- No value starts with a closing bracket. -/
theorem readItems_close (fuel : Nat) (s : List Char) : readItems fuel (']' :: s) = none := by
  match fuel with
  | 0 => rfl
  | 1 => rfl
  | fuel + 2 => simp [readItems, readValue, skipSpace, readNumber]

/-- No name starts with a closing brace. -/
theorem readMembers_close (fuel : Nat) (s : List Char) :
    readMembers fuel ('\x7d' :: s) = none := by
  cases fuel with
  | zero => rfl
  | succ fuel => simp [readMembers, skipSpace]

/-- An array without items. -/
theorem readValue_emptyArray {w : List Char} (hw : IsSpace w) (fuel : Nat) (s : List Char) :
    readValue (fuel + 1) ('[' :: (w ++ ']' :: s)) = some (array [], s) := by
  have hclose := skipSpace_close hw (show ¬IsSpace [']'] by simp [IsSpace]) s
  rw [readValue, skipSpace_cons (by simp [IsSpace])]
  simp [hclose]

/-- An array with items. -/
theorem readValue_array {fuel : Nat} {text s : List Char} {items : List Json}
    (h : readItems fuel text = some (items, s)) :
    readValue (fuel + 1) ('[' :: text) = some (array items, s) := by
  rw [← readItems_skipSpace] at h
  rw [readValue, skipSpace_cons (by simp [IsSpace])]
  cases hskip : skipSpace text with
  | nil =>
    rw [hskip] at h
    simp [hskip, h]
  | cons c rest =>
    rw [hskip] at h
    by_cases hc : c = ']'
    · -- A closing bracket would be no item.
      rw [hc, readItems_close] at h
      simp at h
    · simp [hskip, h, hc]

/-- An object without members. -/
theorem readValue_emptyObject {w : List Char} (hw : IsSpace w) (fuel : Nat) (s : List Char) :
    readValue (fuel + 1) ('\x7b' :: (w ++ '\x7d' :: s)) = some (object [], s) := by
  have hclose := skipSpace_close hw (show ¬IsSpace ['\x7d'] by simp [IsSpace]) s
  rw [readValue, skipSpace_cons (by simp [IsSpace])]
  simp [hclose]

/-- An object with members. -/
theorem readValue_object {fuel : Nat} {text s : List Char} {members : List (String × Json)}
    (h : readMembers fuel text = some (some members, s)) :
    readValue (fuel + 1) ('\x7b' :: text) = some (object members, s) := by
  rw [← readMembers_skipSpace] at h
  rw [readValue, skipSpace_cons (by simp [IsSpace])]
  cases hskip : skipSpace text with
  | nil =>
    rw [hskip] at h
    simp [hskip, h]
  | cons c rest =>
    rw [hskip] at h
    by_cases hc : c = '\x7d'
    · -- A closing brace would be no name.
      rw [hc, readMembers_close] at h
      simp at h
    · simp [hskip, h, hc]

/-- A written form of a value is read back as this value. -/
theorem readsAs_of_written {t : List Char} {j : Json} (h : Written t j) : ReadsAs t j := by
  -- The induction is on the written form, with any text behind it.
  induction h with
  | null =>
    intro s hs fuel hfuel
    obtain ⟨fuel, rfl⟩ : ∃ k, fuel = k + 1 := ⟨fuel - 1, by simp at hfuel; omega⟩
    simp [readValue, skipSpace, afterText]
  | bool b =>
    intro s hs fuel hfuel
    cases b with
    | false =>
      obtain ⟨fuel, rfl⟩ : ∃ k, fuel = k + 1 := ⟨fuel - 1, by simp at hfuel; omega⟩
      simp [readValue, skipSpace, afterText]
    | true =>
      obtain ⟨fuel, rfl⟩ : ∃ k, fuel = k + 1 := ⟨fuel - 1, by simp at hfuel; omega⟩
      simp [readValue, skipSpace, afterText]
  | natural n =>
    intro s hs fuel hfuel
    obtain ⟨d, ds, hd, hdigit, -⟩ := exists_toDigits_eq_cons n.toNat
    have hread := readNumber_natural n hs
    simp only [numberText, hd, List.cons_append, List.length_cons] at hread hfuel ⊢
    obtain ⟨fuel, rfl⟩ : ∃ k, fuel = k + 1 := ⟨fuel - 1, by omega⟩
    rw [readValue_of_isDigit hdigit, hread]
    rfl
  | @negative n h =>
    intro s hs fuel hfuel
    obtain ⟨ds, hds, hread⟩ := readNumber_negative h hs
    rw [hds, List.length_cons] at hfuel
    obtain ⟨fuel, rfl⟩ : ∃ k, fuel = k + 1 := ⟨fuel - 1, by omega⟩
    rw [hds, List.cons_append, readValue, skipSpace_cons (by simp [IsSpace])]
    simp [hread]
  | string t =>
    intro s hs fuel hfuel
    obtain ⟨tail, htail, hread⟩ := readString_quote t s
    obtain ⟨fuel, rfl⟩ : ∃ k, fuel = k + 1 := ⟨fuel - 1, by simp [quote] at hfuel; omega⟩
    rw [htail, readValue, skipSpace_cons (by simp [IsSpace])]
    simp [hread]
  | array items h hw ih =>
    intro s hs fuel hfuel
    simp only [List.length_cons, List.length_append, List.length_nil] at hfuel
    obtain ⟨fuel, rfl⟩ : ∃ k, fuel = k + 1 := ⟨fuel - 1, by omega⟩
    simp only [List.cons_append, List.append_assoc, List.nil_append]
    cases items with
    | nil => exact readValue_emptyArray hw fuel s
    | cons item items =>
      exact readValue_array (readItems_of_readsAs (List.cons_ne_nil _ _) ih hw s (by omega))
  | object members h hspace hw ih =>
    intro s hs fuel hfuel
    simp only [List.length_cons, List.length_append, List.length_nil] at hfuel
    obtain ⟨fuel, rfl⟩ : ∃ k, fuel = k + 1 := ⟨fuel - 1, by omega⟩
    simp only [List.cons_append, List.append_assoc, List.nil_append]
    cases members with
    | nil => exact readValue_emptyObject hw fuel s
    | cons m members =>
      exact readValue_object
        (readMembers_of_readsAs (List.cons_ne_nil _ _) ih hspace hw s (by omega))
  | @spaced w t j hw h ih =>
    intro s hs fuel hfuel
    rw [List.length_append] at hfuel
    rw [List.append_assoc, ← readValue_skipSpace, skipSpace_append hw, readValue_skipSpace]
    exact ih hs (by omega)

/-- A text that is a written form of a value, with white space behind it, is read as this value. -/
theorem read_of_written {t w : List Char} {j : Json} (h : Written t j) (hw : IsSpace w) :
    read (.ofList (t ++ w)) = some j := by
  have hends : EndsNumber w := by
    simpa using endsNumber_append hw (s := []) (by simp [EndsNumber])
  have hfuel : 2 * t.length ≤ 2 * (t ++ w).length + 2 := by
    rw [List.length_append]
    omega
  have hread := readsAs_of_written h hends hfuel
  have hskip : skipSpace w = [] := by simpa [skipSpace] using skipSpace_append hw []
  simp only [read, String.toList_ofList, hread, hskip, if_true]

/-! ## The printed forms -/

/-- A value without any number but whole ones that fit 64 bits, each of them in its kind. -/
inductive IsWhole : Json → Prop
  | null : IsWhole null
  | bool (b : Bool) : IsWhole (bool b)
  | natural (n : UInt64) : IsWhole (number (.natural n))
  | negative {n : Int64} (h : n < 0) : IsWhole (number (.negative n))
  | string (s : String) : IsWhole (string s)
  | array {items : List Json} (h : ∀ j ∈ items, IsWhole j) : IsWhole (array items)
  | object {members : List (String × Json)} (h : ∀ m ∈ members, IsWhole m.2) :
      IsWhole (object members)

/-- The items of an array without white space. -/
theorem compactItems_eq (items : List Json) :
    compactItems items = joinWith ',' (items.map compactChars) := by
  induction items with
  | nil => rfl
  | cons j items ih =>
    cases items with
    | nil => rfl
    | cons next items =>
      rw [compactItems, ih]
      · rfl
      · simp

/-- The members of an object without white space. -/
theorem compactMembers_eq (members : List (String × Json)) :
    compactMembers members =
      joinWith ',' (members.map fun m => quote m.1 ++ ':' :: m.2.compactChars) := by
  induction members with
  | nil => rfl
  | cons m members ih =>
    cases members with
    | nil => rfl
    | cons next members =>
      rw [compactMembers, ih]
      · simp [joinWith]
      · simp

/-- The items of an array on lines of their own. -/
theorem prettyItems_eq (level : Nat) (items : List Json) :
    prettyItems level items =
      joinWith ',' (items.map fun j => newLine level ++ j.prettyChars level) := by
  induction items with
  | nil => rfl
  | cons j items ih =>
    cases items with
    | nil => rfl
    | cons next items =>
      rw [prettyItems, ih]
      · simp [joinWith]
      · simp

/-- The members of an object on lines of their own. -/
theorem prettyMembers_eq (level : Nat) (members : List (String × Json)) :
    prettyMembers level members = joinWith ',' (members.map fun m =>
      newLine level ++ (quote m.1 ++ ':' :: ' ' :: m.2.prettyChars level)) := by
  induction members with
  | nil => rfl
  | cons m members ih =>
    cases members with
    | nil => simp [prettyMembers, joinWith]
    | cons next members =>
      rw [prettyMembers, ih]
      · simp [joinWith]
      · simp

/-- A line feed and the spaces of a level are white space. -/
theorem isSpace_newLine (level : Nat) : IsSpace (newLine level) := by
  intro c hc
  rcases List.mem_cons.mp hc with rfl | hc
  · simp
  · exact .inl (List.eq_of_mem_replicate hc)

/-- The form without white space is a written form. -/
theorem written_compactChars {j : Json} (h : IsWhole j) : Written j.compactChars j := by
  induction h with
  | null => exact .null
  | bool b => exact .bool b
  | natural n => exact .natural n
  | negative h => exact .negative h
  | string s => exact .string s
  | @array items h ih =>
    have hitems := Written.array (items.map fun j => (j.compactChars, j))
      (List.forall_mem_map.mpr ih) (w := []) (by simp [IsSpace])
    simpa [compactChars, compactItems_eq, Function.comp_def] using hitems
  | @object members h ih =>
    have hmembers := Written.object (members.map fun m => ⟨[], m.1, m.2.compactChars, m.2⟩)
      (List.forall_mem_map.mpr ih) (List.forall_mem_map.mpr fun _ _ => by simp [IsSpace])
      (w := []) (by simp [IsSpace])
    simpa [compactChars, compactMembers_eq, MemberText.chars, Function.comp_def] using hmembers

/-- The form on several lines is a written form. -/
theorem written_prettyChars {j : Json} (h : IsWhole j) (level : Nat) :
    Written (j.prettyChars level) j := by
  induction h generalizing level with
  | null => exact .null
  | bool b => exact .bool b
  | natural n => exact .natural n
  | negative h => exact .negative h
  | string s => exact .string s
  | @array items h ih =>
    cases items with
    | nil => exact .array [] (by simp) (w := []) (by simp [IsSpace])
    | cons j items =>
      have hitems := Written.array
        ((j :: items).map fun j => (newLine (level + 1) ++ j.prettyChars (level + 1), j))
        (List.forall_mem_map.mpr fun j hj => .spaced (isSpace_newLine _) (ih j hj _))
        (isSpace_newLine level)
      rw [prettyChars, prettyItems_eq]
      · simpa [Function.comp_def] using hitems
      · simp
  | @object members h ih =>
    cases members with
    | nil => exact .object [] (by simp) (by simp) (w := []) (by simp [IsSpace])
    | cons m members =>
      have hmembers := Written.object
        ((m :: members).map fun m =>
          ⟨newLine (level + 1), m.1, [' '] ++ m.2.prettyChars (level + 1), m.2⟩)
        (List.forall_mem_map.mpr fun m hm =>
          .spaced (by simp [IsSpace]) (ih m hm _))
        (List.forall_mem_map.mpr fun _ _ => isSpace_newLine _) (isSpace_newLine level)
      rw [prettyChars, prettyMembers_eq]
      · simpa [MemberText.chars, Function.comp_def] using hmembers
      · simp

/-- A value with whole numbers alone is read back from its form without white space. -/
theorem read_compact {j : Json} (h : IsWhole j) : read j.compact = some j := by
  simpa [compact] using read_of_written (written_compactChars h) (w := []) (by simp [IsSpace])

/-- A value with whole numbers alone is read back from its form on several lines, also if white
space follows. -/
theorem read_pretty {j : Json} (h : IsWhole j) {w : List Char} (hw : IsSpace w) :
    read (j.pretty ++ .ofList w) = some j := by
  rw [pretty, ← String.ofList_append]
  exact read_of_written (written_prettyChars h 0) hw

end SqlJob.Json
