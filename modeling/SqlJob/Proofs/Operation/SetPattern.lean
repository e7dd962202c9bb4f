import SqlJob.Proofs.Operation.Setting
import SqlJob.Proofs.Text.Pattern

/-!
# SET as a pattern

The form of a `SET` command can be written as a pattern of the kind that backtracking matches: the
word, and behind white space a key, and behind an equals sign a value, where key and value take as
little as they can (`SetSyntax.pattern`). There are many ways to cut a text so. This file says which
of them is found first: the key ends at the first equals sign, and both parts go from one end to the
other but for the white space around them (`map_captured_match?`). So the pattern finds what
`SetCommand.read?` reads (`SetCommand.read?_eq_map_match?`).

A part that is too short leaves something behind it that is neither white space nor what is asked
for next. For the value this is at the end of the text (`finish_eq_none`), and for the key it is
white space and an equals sign, or again the end of the text (`afterKey_eq_none`).
-/

namespace SqlJob.SetSyntax

open Text Text.Pattern ModeSwitch

/-- White space, rather more than less. -/
def blanks : Pattern := .many isBlank

/-- An equals sign and a value. -/
def valuePattern : Pattern :=
  .seq (.one (· = '=')) (.seq blanks (.named "value" (.few fun _ => true)))

/-- A key without an equals sign in it, and a value. -/
def keyPattern : Pattern :=
  .seq (.named "key" (.few (· ≠ '='))) (.seq blanks (.optional valuePattern))

/-- A word in any case, and a pattern behind it. -/
def behindWord (word : List Char) (a : Pattern) : Pattern :=
  word.foldr (fun letter b => .seq (.one (foldsTo letter)) b) a

/-- The pattern of a `SET` command. -/
def pattern : Pattern :=
  behindWord "set".toList
    (.seq (.optional (.seq (.seq (.one isBlank) blanks) keyPattern)) blanks)

/-- The parts of the command that the pattern has found in a text. -/
def captured (groups : List (String × List Char)) : Option String × Option String :=
  ((groups.lookup "key").bind part, (groups.lookup "value").bind part)

/-- The parts of the command by what follows the word `SET` and white space. -/
def partsOf (rest : List Char) : Option String × Option String :=
  match cutAt '=' rest with
  | some (key, value) => (part key, part value)
  | none => (part rest, none)

/-! ## The end of a match -/

/-- A match ends when nothing but white space is left. -/
def finish (m : Way) : Option (List (String × List Char)) :=
  blanks.find m.rest fun m' => close (m.andThen m')

/-- Where only white space is left, a match ends. -/
theorem finish_eq_some {m : Way} (h : IsSpace m.rest) : finish m = some m.groups := by
  have hclose : close (m.andThen ⟨m.rest, [], []⟩) = some m.groups := by
    simp [close, Way.andThen]
  have hfind : blanks.find (m.rest ++ []) (fun m' => close (m.andThen m')) = some m.groups :=
    find_many_of_eq_some h (by simp) hclose
  rwa [List.append_nil] at hfind

/-- Where something else is left, a match does not end. -/
theorem finish_eq_none {m : Way} {c : Char} (hc : c ∈ m.rest) (hblank : isBlank c = false) :
    finish m = none := by
  refine find_many_eq_none fun x y hrest hx => ?_
  have hy : y ≠ [] := by
    rintro rfl
    rw [hrest, List.append_nil] at hc
    simp [hx c hc] at hblank
  exact if_neg hy

/-- What a text without white space at its end leaves of itself does not consist of white space. -/
theorem exists_not_isBlank {s x₁ x₂ : List Char} (hs : ∀ c ∈ s.getLast?, isBlank c = false)
    (hne : x₂ ≠ []) (h : s = x₁ ++ x₂) : ∃ c ∈ x₂, isBlank c = false := by
  refine ⟨x₂.getLast hne, List.getLast_mem hne, hs _ ?_⟩
  rw [h, List.getLast?_append_of_ne_nil _ hne, List.getLast?_eq_some_getLast hne]
  rfl

/-! ## The value -/

/-- A value goes from one end of what follows the equals sign to the other, but for white space. -/
theorem find_valuePattern (m : Way) (y : List Char) :
    valuePattern.find ('=' :: y) (fun m' => finish (m.andThen m')) =
      some (m.groups ++ [("value", trim y)]) := by
  obtain ⟨a, ha, hstart⟩ := exists_eq_append_trimStart y
  obtain ⟨b, hb, hend⟩ := exists_eq_append_trimEnd (trimStart y)
  simp only [valuePattern, find_seq, find_one_cons, find_named, decide_true, if_true]
  rw [hstart]
  refine find_many_of_eq_some ha (head?_trimStart y) ?_
  rw [← hstart]
  dsimp only
  rw [hend]
  refine find_few_of_eq_some (x := trim y) (by simp) (fun x₁ x₂ hne hsplit => ?_) ?_
  · -- A shorter value leaves something that is not white space behind it.
    obtain ⟨c, hc, hblank⟩ := exists_not_isBlank (isTrimmed_trim y).last hne hsplit
    exact finish_eq_none (List.mem_append_left b hc) hblank
  · exact finish_eq_some hb

/-- Where no equals sign is next, there is no value. -/
theorem find_valuePattern_eq_none {s : List Char} (h : ∀ c ∈ s.head?, c ≠ '=')
    {α : Type} (next : Way → Option α) : valuePattern.find s next = none := by
  cases s with
  | nil => rfl
  | cons c s =>
    have hc : c ≠ '=' := h c rfl
    simp [valuePattern, hc]

/-! ## The key -/

/-- How a match goes on behind a key. -/
def afterKey (m : Way) : Option (List (String × List Char)) :=
  blanks.find m.rest fun m₁ =>
    valuePattern.optional.find m₁.rest fun m₂ => finish (m.andThen (m₁.andThen m₂))

/-- A way and two others behind it are the same in whatever order they are put together. -/
theorem andThen_assoc (m m₁ m₂ : Way) :
    m.andThen (m₁.andThen m₂) = (m.andThen m₁).andThen m₂ := by
  simp [Way.andThen]

/-- Behind white space and an equals sign a value follows the key. -/
theorem afterKey_eq_value {m : Way} {b y : List Char} (hb : IsSpace b)
    (h : m.rest = b ++ '=' :: y) : afterKey m = some (m.groups ++ [("value", trim y)]) := by
  have hequal : ∀ c ∈ ('=' :: y).head?, isBlank c = false := by
    intro c hc
    obtain rfl : '=' = c := by simpa using hc
    decide
  have hvalue := find_valuePattern (m.andThen ⟨b, [], '=' :: y⟩) y
  unfold afterKey
  rw [h]
  refine find_many_of_eq_some hb hequal ?_
  simp only [find_optional, andThen_assoc, hvalue]
  simp [Way.andThen]

/-- Where only white space is left behind the key, there is no value. -/
theorem afterKey_eq_groups {m : Way} (h : IsSpace m.rest) : afterKey m = some m.groups := by
  have hnone := find_valuePattern_eq_none (s := []) (by simp)
    (fun m₂ => finish (m.andThen (Way.andThen ⟨m.rest, [], []⟩ m₂)))
  have hend : finish (m.andThen (Way.andThen ⟨m.rest, [], []⟩ ⟨[], [], []⟩)) = some m.groups := by
    rw [finish_eq_some (by simp [Way.andThen, IsSpace])]
    simp [Way.andThen]
  have hfind : blanks.find (m.rest ++ []) (fun m₁ => valuePattern.optional.find m₁.rest
      fun m₂ => finish (m.andThen (m₁.andThen m₂))) = some m.groups := by
    refine find_many_of_eq_some h (by simp) ?_
    rw [find_optional, hnone, Option.none_or]
    exact hend
  rwa [List.append_nil] at hfind

/-- Where something else is left behind the key, the match does not go on. -/
theorem afterKey_eq_none {m : Way} {c : Char} (hc : c ∈ (trimStart m.rest).head?)
    (hne : c ≠ '=') : afterKey m = none := by
  refine find_many_eq_none fun x y hrest hx => ?_
  -- The character is still there behind the white space, whatever part of that is taken.
  have hy : c ∈ (trimStart y).head? := by rwa [hrest, trimStart_append_left hx] at hc
  have hmem : c ∈ y := (List.dropWhile_suffix isBlank).subset (List.mem_of_mem_head? hy)
  have hequal : ∀ d ∈ y.head?, d ≠ '=' := by
    rintro _ hd rfl
    have hstart : trimStart y = y := trimStart_of_head? fun d hd' => by
      obtain rfl : '=' = d := Option.mem_unique hd hd'
      decide
    rw [hstart] at hy
    exact hne (Option.mem_unique hy hd)
  rw [find_optional, find_valuePattern_eq_none hequal, Option.none_or]
  exact finish_eq_none hmem (head?_trimStart y c hy)

/-- White space at the end of a part does not change it. -/
theorem part_trimEnd (s : List Char) : part (trimEnd s) = part s := by
  obtain ⟨b, hb, hs⟩ := exists_eq_append_trimEnd s
  have htrim : trim s = trim (trimEnd s) := by
    conv_lhs => rw [hs, trim_append_right hb]
  unfold part
  rw [← unquote_trim s, htrim, unquote_trim]

/-- White space around a part does not change it. -/
theorem part_trim (s : List Char) : part (trim s) = part s := by
  unfold part
  rw [unquote_trim]

/-- The key of a match goes on as long as it can before an equals sign, but for white space at its
end. -/
theorem find_keyPattern (m : Way) {key behind : List Char} (hkey : '=' ∉ key)
    {groups : List (String × List Char)} {b : List Char} (hend : key = trimEnd key ++ b)
    (hnext : ∀ m' : Way, m'.rest = b ++ behind → afterKey m' = some (m'.groups ++ groups)) :
    keyPattern.find (key ++ behind) (fun m' => finish (m.andThen m')) =
      some (m.groups ++ ("key", trimEnd key) :: groups) := by
  have hplain : ∀ c ∈ trimEnd key, decide (c ≠ '=') = true := by
    intro c hc
    have hne : c ≠ '=' := ne_of_mem_of_not_mem ((trimEnd_prefix_self key).subset hc) hkey
    simpa using hne
  have hafter : ∀ m' : Way, (blanks.find m'.rest fun m₁ => valuePattern.optional.find m₁.rest
      fun m₂ => finish (m.andThen (Way.andThen
        ⟨m'.taken, ("key", m'.taken) :: m'.groups, m'.rest⟩ (m₁.andThen m₂)))) =
      afterKey (m.andThen ⟨m'.taken, ("key", m'.taken) :: m'.groups, m'.rest⟩) := by
    intro m'
    unfold afterKey
    simp only [andThen_assoc]
    rfl
  have hsplit : key ++ behind = trimEnd key ++ (b ++ behind) := by
    rw [← List.append_assoc, ← hend]
  simp only [keyPattern, find_seq, find_named, hafter]
  rw [hsplit]
  refine find_few_of_eq_some hplain (fun x₁ x₂ hne hshorter => ?_) ?_
  · -- What a shorter key leaves behind it starts with a character of the key.
    obtain ⟨c, hc, hblank⟩ := exists_not_isBlank (getLast?_trimEnd key) hne hshorter
    obtain ⟨d, hd⟩ : ∃ d, d ∈ (trimStart x₂).head? := by
      cases htrim : trimStart x₂ with
      | nil =>
        have hall := List.dropWhile_eq_nil_iff.mp htrim c hc
        simp [hblank] at hall
      | cons d s => exact ⟨d, rfl⟩
    have hdmem : d ∈ key := by
      have hx₂ : d ∈ x₂ := (List.dropWhile_suffix isBlank).subset (List.mem_of_mem_head? hd)
      refine (trimEnd_prefix_self key).subset ?_
      rw [hshorter]
      exact List.mem_append_right x₁ hx₂
    refine afterKey_eq_none (c := d) ?_ (ne_of_mem_of_not_mem hdmem hkey)
    have hstart : trimStart (x₂ ++ (b ++ behind)) = trimStart x₂ ++ (b ++ behind) := by
      unfold trimStart at hd ⊢
      rw [List.dropWhile_append]
      split_ifs with hempty
      · rw [List.isEmpty_iff.mp hempty] at hd
        simp at hd
      · rfl
    change d ∈ (trimStart (x₂ ++ (b ++ behind))).head?
    rw [hstart]
    exact List.mem_head?_append_of_mem_head? hd
  · rw [hnext _ rfl]
    simp [Way.andThen]

/-- What the pattern finds behind the word `SET` and white space are the parts of the command. -/
theorem exists_find_keyPattern (m : Way) (rest : List Char) :
    ∃ groups, keyPattern.find rest (fun m' => finish (m.andThen m')) = some (m.groups ++ groups) ∧
      captured groups = partsOf rest := by
  cases hcut : cutAt '=' rest with
  | some p =>
    obtain ⟨key, value⟩ := p
    obtain ⟨rfl, hkey⟩ := cutAt_eq_some_iff.mp hcut
    obtain ⟨b, hb, hend⟩ := exists_eq_append_trimEnd key
    refine ⟨_, find_keyPattern m hkey hend fun m' hrest => afterKey_eq_value hb hrest, ?_⟩
    have hcaptured : captured [("key", trimEnd key), ("value", trim value)] =
        (part (trimEnd key), part (trim value)) := rfl
    rw [hcaptured, part_trimEnd, part_trim, partsOf, hcut]
  | none =>
    have hkey : '=' ∉ rest := by
      unfold cutAt at hcut
      simpa using hcut
    obtain ⟨b, hb, hend⟩ := exists_eq_append_trimEnd rest
    have hfind : keyPattern.find (rest ++ []) (fun m' => finish (m.andThen m')) =
        some (m.groups ++ [("key", trimEnd rest)]) := by
      refine find_keyPattern m hkey hend fun m' hrest => ?_
      rw [List.append_nil] at hrest
      rw [afterKey_eq_groups (hrest ▸ hb), List.append_nil]
    rw [List.append_nil] at hfind
    have hcaptured : captured [("key", trimEnd rest)] = (part (trimEnd rest), none) := rfl
    refine ⟨_, hfind, ?_⟩
    rw [hcaptured, part_trimEnd, partsOf, hcut]

/-! ## The whole command -/

/-- A pattern behind a word is found behind a text that spells the word, if the match goes on in the
same way whatever is taken. -/
theorem find_behindWord {α : Type} {next : Way → Option α}
    (h : ∀ x m, next ⟨x ++ m.taken, m.groups, m.rest⟩ = next m) (word : List Char) (a : Pattern)
    (s : List Char) :
    (behindWord word a).find s next = (afterWord word s).bind fun t => a.find t next := by
  induction word generalizing s with
  | nil => rfl
  | cons letter word ih =>
    have hword : behindWord (letter :: word) a =
        .seq (.one (foldsTo letter)) (behindWord word a) := rfl
    cases s with
    | nil => rfl
    | cons c s =>
      have hnext : (fun m => next (Way.andThen ⟨[c], [], s⟩ m)) = next := funext fun m => h [c] m
      rw [hword, find_seq, find_one_cons, afterWord]
      split_ifs
      · rw [hnext]
        exact ih s
      · rfl

/-- The pattern finds the parts of the command in a text that is one, and matches no other text. -/
theorem map_captured_match? (s : List Char) :
    (pattern.match? s).map captured = (rest? s).map partsOf := by
  have hnone : ∀ t : List Char, (∀ c ∈ t.head?, isBlank c = false) →
      Pattern.find (.seq (.one isBlank) blanks) t
        (fun m => keyPattern.find m.rest fun m' => finish (m.andThen m')) = none := by
    intro t ht
    cases t with
    | nil => rfl
    | cons c t => simp [ht c rfl]
  have hopen : ∀ t, Pattern.find (.seq (.optional (.seq (.seq (.one isBlank) blanks) keyPattern))
      blanks) t close = (Pattern.find (.seq (.one isBlank) blanks) t fun m =>
        keyPattern.find m.rest fun m' => finish (m.andThen m')).or (finish ⟨[], [], t⟩) := by
    intro t
    rw [find_seq, find_optional, find_seq]
    rfl
  unfold match? pattern rest?
  rw [find_behindWord fun x m => rfl]
  cases hword : afterWord "set".toList s with
  | none => rfl
  | some t =>
    rw [Option.bind_some, hopen]
    cases t with
    | nil =>
      rw [hnone [] (by simp), Option.none_or, finish_eq_some (by simp [IsSpace])]
      rfl
    | cons c t =>
      cases hc : isBlank c with
      | false =>
        rw [hnone (c :: t) (by simpa using hc), Option.none_or,
          finish_eq_none List.mem_cons_self hc]
        simp [afterSpace, hc]
      | true =>
        -- All white space is taken first, and from there the match goes on to its end.
        obtain ⟨a, ha, ht⟩ := exists_eq_append_trimStart t
        obtain ⟨groups, hkey, hparts⟩ :=
          exists_find_keyPattern (Way.andThen ⟨[c], [], t⟩ ⟨a, [], trimStart t⟩) (trimStart t)
        have hfind : blanks.find (a ++ trimStart t) (fun m => keyPattern.find m.rest
            fun m' => finish ((Way.andThen ⟨[c], [], t⟩ m).andThen m')) = some groups :=
          find_many_of_eq_some ha (head?_trimStart t) hkey
        rw [← ht] at hfind
        have hopened : Pattern.find (.seq (.one isBlank) blanks) (c :: t) (fun m =>
            keyPattern.find m.rest fun m' => finish (m.andThen m')) = some groups := by
          rw [find_seq, find_one_cons, if_pos hc]
          exact hfind
        rw [hopened, Option.some_or, Option.map_some, hparts]
        simp [afterSpace, hc]

end SqlJob.SetSyntax

namespace SqlJob

open SetSyntax

/-- A text is read as the command with the parts of what follows the word `SET`. -/
theorem SetCommand.read?_eq_map_partsOf (sql : String) :
    SetCommand.read? sql = (rest? sql.toList).map fun rest =>
      ⟨sql, (partsOf rest).1, (partsOf rest).2⟩ := by
  unfold SetCommand.read? partsOf
  cases rest? sql.toList with
  | none => rfl
  | some rest =>
    dsimp only [Option.map_some]
    cases Text.cutAt '=' rest <;> rfl

/-- A text is read as the command whose parts the pattern finds in it. -/
theorem SetCommand.read?_eq_map_match? (sql : String) :
    SetCommand.read? sql = (pattern.match? sql.toList).map fun groups =>
      ⟨sql, (captured groups).1, (captured groups).2⟩ := by
  have hread : SetCommand.read? sql =
      ((rest? sql.toList).map partsOf).map fun parts => ⟨sql, parts.1, parts.2⟩ := by
    rw [SetCommand.read?_eq_map_partsOf, Option.map_map]
    rfl
  rw [hread, ← map_captured_match?, Option.map_map]
  rfl

end SqlJob
