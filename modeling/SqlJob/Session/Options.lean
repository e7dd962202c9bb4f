/-!
# Session options

Options map names to values, both plain text. They are listed in the order of their names by code
point, which is also the order of the names' UTF-8 bytes, and every name occurs once. Both facts
are part of the type, so two sets of options are equal when every look-up agrees.
-/

namespace SqlJob

/-- The pairs of a list are in strictly increasing order of their first parts. -/
def SortedKeys (entries : List (String × String)) : Prop :=
  entries.Pairwise fun a b => a.1 < b.1

/-- Session options by name. -/
structure Options where
  /-- The options in the order of their names. -/
  toList : List (String × String) := []
  sorted : SortedKeys toList := by simp [SortedKeys]

namespace Options

/-- Puts a pair into a sorted list, replacing the pair with the same key. -/
def insertEntry (key value : String) : List (String × String) → List (String × String)
  | [] => [(key, value)]
  | (k, v) :: rest =>
    if key < k then (key, value) :: (k, v) :: rest
    else if key = k then (key, value) :: rest
    else (k, v) :: insertEntry key value rest

theorem mem_insertEntry {key value : String} {entries : List (String × String)}
    {p : String × String} (h : p ∈ insertEntry key value entries) :
    p = (key, value) ∨ p ∈ entries := by
  induction entries with
  | nil => simpa [insertEntry] using h
  | cons e rest ih =>
    simp only [insertEntry] at h
    split at h
    · simpa using h
    · split at h
      · rcases List.mem_cons.1 h with h | h
        · exact .inl h
        · exact .inr (List.mem_cons_of_mem _ h)
      · rcases List.mem_cons.1 h with h | h
        · exact .inr (h ▸ List.mem_cons_self)
        · exact (ih h).imp_right (List.mem_cons_of_mem _)

/-- Keys that are not smaller and not equal are greater. -/
theorem lt_of_not_lt_of_ne {a b : String} (h : ¬ a < b) (hne : a ≠ b) : b < a := by
  rcases String.le_total a b with hab | hba
  · exact absurd (String.le_antisymm hab (String.not_lt.1 h)) hne
  · exact String.not_le.1 fun hab => hne (String.le_antisymm hab hba)

theorem sortedKeys_insertEntry (key value : String) {entries : List (String × String)}
    (h : SortedKeys entries) : SortedKeys (insertEntry key value entries) := by
  induction entries with
  | nil => simp [insertEntry, SortedKeys]
  | cons e rest ih =>
    obtain ⟨k, v⟩ := e
    have ⟨hk, hrest⟩ := List.pairwise_cons.1 h
    simp only [insertEntry]
    split
    · next hlt =>
      refine List.pairwise_cons.2 ⟨fun p hp => ?_, h⟩
      rcases List.mem_cons.1 hp with rfl | hp
      · exact hlt
      · exact String.lt_trans hlt (hk p hp)
    · next hlt =>
      split
      · next heq => subst heq; exact List.pairwise_cons.2 ⟨hk, hrest⟩
      · next hne =>
        refine List.pairwise_cons.2 ⟨fun p hp => ?_, ih hrest⟩
        rcases mem_insertEntry hp with rfl | hp
        · exact lt_of_not_lt_of_ne hlt hne
        · exact hk p hp

/-- No options. -/
def empty : Options := {}

instance : Inhabited Options := ⟨empty⟩

/-- Sets an option, replacing its previous value. -/
def set (o : Options) (key value : String) : Options :=
  ⟨insertEntry key value o.toList, sortedKeys_insertEntry key value o.sorted⟩

/-- The value of an option. -/
def get? (o : Options) (key : String) : Option String :=
  o.toList.lookup key

/-- Sets every option of a list in turn, so that of two values for a name the later one stays. -/
def extend (o : Options) (entries : List (String × String)) : Options :=
  entries.foldl (fun o e => o.set e.1 e.2) o

/-- The options set one after another from a list. -/
def ofList (entries : List (String × String)) : Options :=
  empty.extend entries

/-- How many options there are. -/
def size (o : Options) : Nat :=
  o.toList.length

/-- Whether there is no option. -/
def isEmpty (o : Options) : Bool :=
  o.toList.isEmpty

/-- Looking a key up in a list that starts with a pair. -/
theorem lookup_cons_eq (k : String) (e : String × String) (rest : List (String × String)) :
    (e :: rest).lookup k = if k = e.1 then some e.2 else rest.lookup k := by
  rw [List.lookup_cons]
  by_cases h : k = e.1
  · rw [if_pos h, beq_iff_eq.2 h]
  · rw [if_neg h, beq_eq_false_iff_ne.2 h]

theorem lookup_insertEntry (key value k : String) (entries : List (String × String)) :
    (insertEntry key value entries).lookup k =
      if k = key then some value else entries.lookup k := by
  induction entries with
  | nil => simp only [insertEntry, lookup_cons_eq]
  | cons e rest ih =>
    obtain ⟨k', v'⟩ := e
    simp only [insertEntry]
    split
    · simp only [lookup_cons_eq]
    · split
      · next heq =>
        subst heq
        simp only [lookup_cons_eq]
        split <;> rfl
      · next hne =>
        simp only [lookup_cons_eq, ih]
        by_cases h : k = k'
        · subst h
          have : k ≠ key := fun hk => hne hk.symm
          simp [this]
        · simp [h]

/-- Setting an option changes the look-up of that name alone. -/
@[simp] theorem get?_set (o : Options) (key value k : String) :
    (o.set key value).get? k = if k = key then some value else o.get? k :=
  lookup_insertEntry key value k o.toList

/-- Assignments one after another are the first of them and then the others. -/
theorem extend_append (o : Options) (first others : List (String × String)) :
    o.extend (first ++ others) = (o.extend first).extend others :=
  List.foldl_append

/-- The option of a name is the last one assigned, or that of the options below. -/
theorem get?_extend (o : Options) (settings : List (String × String)) (key : String) :
    (o.extend settings).get? key = (settings.reverse.lookup key).or (o.get? key) := by
  induction settings generalizing o with
  | nil => simp [extend]
  | cons setting settings ih =>
    have hext : o.extend (setting :: settings) =
        (o.set setting.1 setting.2).extend settings := rfl
    rw [hext, ih, get?_set, List.reverse_cons, List.lookup_append, lookup_cons_eq]
    by_cases hkey : key = setting.1 <;> simp [hkey]

end Options

end SqlJob
