import Mathlib.Data.List.Basic

/-!
# Patterns that are matched with backtracking

A pattern may take part of a text in several ways. They are tried in an order of preference, and the
first one that leads to the end of the text counts (`Pattern.match?`). A repetition tries to take as
much as it can first, or as little as it can first; an option tries to take something first. Some
parts of a pattern have a name, under which the text that they took is kept.

`Pattern.ways` lists the ways in their order, and `Pattern.find` asks for the first one from which
the rest of a match can go on. The lemmas say what that is for each kind of pattern. For repetitions
there are two: taking all that can be taken is the first choice of the one kind
(`find_many_of_eq_some`), and the other kind takes the shortest part from which the match goes on
(`find_few_of_eq_some`).

Whether there is a match at all is not a matter of the order. The texts that a pattern takes as a
whole are described by `Pattern.Takes`, and these are the ones that it matches
(`isSome_match?_iff`).
-/

namespace SqlJob.Text

/-- A pattern of characters. -/
inductive Pattern where
  /-- One character of a kind. -/
  | one (p : Char → Bool)
  /-- Characters of a kind, rather more than fewer. -/
  | many (p : Char → Bool)
  /-- Characters of a kind, rather fewer than more. -/
  | few (p : Char → Bool)
  /-- The first pattern and then the second. -/
  | seq (a b : Pattern)
  /-- The pattern rather than nothing. -/
  | optional (a : Pattern)
  /-- The pattern, and what it takes is kept under the name. -/
  | named (name : String) (a : Pattern)

/-- A way in which a pattern takes the start of a text. -/
structure Way where
  /-- The start of the text that is taken. -/
  taken : List Char
  /-- What the parts with names took, in their order. -/
  groups : List (String × List Char)
  /-- The rest of the text. -/
  rest : List Char

/-- The way that goes on with another one from its rest on. -/
def Way.andThen (m next : Way) : Way :=
  ⟨m.taken ++ next.taken, m.groups ++ next.groups, next.rest⟩

namespace Pattern

/-- The ways to take characters of a kind from the start of a text, the shortest first. -/
def runs (p : Char → Bool) : List Char → List Way
  | [] => [⟨[], [], []⟩]
  | c :: s =>
    ⟨[], [], c :: s⟩ ::
      if p c then (runs p s).map fun m => ⟨c :: m.taken, m.groups, m.rest⟩ else []

/-- The ways in which a pattern takes the start of a text, in the order in which they are tried. -/
def ways : Pattern → List Char → List Way
  | one p, s =>
    match s with
    | [] => []
    | c :: s => if p c then [⟨[c], [], s⟩] else []
  | many p, s => (runs p s).reverse
  | few p, s => runs p s
  | seq a b, s => (a.ways s).flatMap fun m => (b.ways m.rest).map m.andThen
  | optional a, s => a.ways s ++ [⟨[], [], s⟩]
  | named name a, s => (a.ways s).map fun m => ⟨m.taken, (name, m.taken) :: m.groups, m.rest⟩

variable {α : Type}

/-- What comes of the first way of the pattern from which the match can go on. -/
def find (a : Pattern) (s : List Char) (next : Way → Option α) : Option α :=
  (a.ways s).findSome? next

/-- A match has come to the end of the text. -/
def close (m : Way) : Option (List (String × List Char)) :=
  if m.rest = [] then some m.groups else none

/-- What the parts of the pattern with names take of a text, if the pattern matches all of it. -/
def match? (a : Pattern) (s : List Char) : Option (List (String × List Char)) :=
  a.find s close

/-! ## The first way -/

/-- What is found first in lists one after another is what is found first in the first of them in
which anything is found. -/
theorem findSome?_flatMap {β γ : Type} (f : γ → Option α) (g : β → List γ) (l : List β) :
    (l.flatMap g).findSome? f = l.findSome? fun b => (g b).findSome? f := by
  induction l with
  | nil => rfl
  | cons b l ih =>
    rw [List.flatMap_cons, List.findSome?_append, ih, List.findSome?_cons]
    cases (g b).findSome? f <;> rfl

/-- One character is taken if it is of the kind. -/
@[simp] theorem find_one_cons (p : Char → Bool) (c : Char) (s : List Char)
    (next : Way → Option α) :
    (one p).find (c :: s) next = if p c then next ⟨[c], [], s⟩ else none := by
  unfold find ways
  dsimp only
  split_ifs
  · rw [List.findSome?_singleton]
  · rfl

/-- One pattern and then another go on from the first to the second. -/
@[simp] theorem find_seq (a b : Pattern) (s : List Char) (next : Way → Option α) :
    (seq a b).find s next = a.find s fun m => b.find m.rest fun m' => next (m.andThen m') := by
  simp only [find, ways, findSome?_flatMap, List.findSome?_map]
  rfl

/-- An option takes nothing if the match cannot go on otherwise. -/
@[simp] theorem find_optional (a : Pattern) (s : List Char) (next : Way → Option α) :
    a.optional.find s next = (a.find s next).or (next ⟨[], [], s⟩) := by
  simp only [find, ways, List.findSome?_append, List.findSome?_singleton]

/-- A part with a name takes what it would take without one. -/
@[simp] theorem find_named (name : String) (a : Pattern) (s : List Char)
    (next : Way → Option α) :
    (a.named name).find s next =
      a.find s fun m => next ⟨m.taken, (name, m.taken) :: m.groups, m.rest⟩ := by
  simp only [find, ways, List.findSome?_map]
  rfl

/-! ## Repetitions -/

variable {p : Char → Bool}

/-- A way to take characters of a kind is a start of the text that consists of them. -/
theorem mem_runs_iff {s : List Char} {m : Way} :
    m ∈ runs p s ↔ ∃ x y, s = x ++ y ∧ (∀ c ∈ x, p c = true) ∧ m = ⟨x, [], y⟩ := by
  induction s generalizing m with
  | nil => simp [runs]
  | cons c s ih =>
    rw [runs, List.mem_cons]
    constructor
    · rintro (rfl | h)
      · exact ⟨[], c :: s, rfl, by simp, rfl⟩
      · split_ifs at h with hc
        · obtain ⟨m', hm', rfl⟩ := List.mem_map.mp h
          obtain ⟨x, y, rfl, hx, rfl⟩ := ih.mp hm'
          exact ⟨c :: x, y, rfl, List.forall_mem_cons.mpr ⟨hc, hx⟩, rfl⟩
        · simp at h
    · rintro ⟨x, y, heq, hx, rfl⟩
      cases x with
      | nil => exact .inl (by rw [heq]; rfl)
      | cons d x =>
        obtain ⟨rfl, rfl⟩ := List.cons_eq_cons.mp heq
        obtain ⟨hc, hx⟩ := List.forall_mem_cons.mp hx
        right
        rw [if_pos hc]
        exact List.mem_map.mpr ⟨_, ih.mpr ⟨x, y, rfl, hx, rfl⟩, rfl⟩

/-- The ways before one that takes some characters of a kind are those that take fewer of them. -/
theorem exists_runs_eq_append {x : List Char} (hx : ∀ c ∈ x, p c = true) (y : List Char) :
    ∃ before after, runs p (x ++ y) = before ++ ⟨x, [], y⟩ :: after ∧
      ((∀ c ∈ y.head?, p c = false) → after = []) ∧
      ∀ m ∈ before, ∃ x₁ x₂, x₂ ≠ [] ∧ x = x₁ ++ x₂ ∧ m = ⟨x₁, [], x₂ ++ y⟩ := by
  induction x with
  | nil =>
    cases y with
    | nil => exact ⟨[], [], rfl, fun _ => rfl, by simp⟩
    | cons c y =>
      refine ⟨[], _, rfl, fun hc => ?_, by simp⟩
      simp [hc c rfl]
  | cons c x ih =>
    obtain ⟨hc, hx⟩ := List.forall_mem_cons.mp hx
    obtain ⟨before, after, hruns, hafter, hbefore⟩ := ih hx
    -- To take nothing comes first, and the other ways take `c` in front of what they took.
    let longer (m : Way) : Way := ⟨c :: m.taken, m.groups, m.rest⟩
    refine ⟨⟨[], [], c :: (x ++ y)⟩ :: before.map longer, after.map longer, ?_, fun hy => ?_, ?_⟩
    · rw [List.cons_append, runs, if_pos hc, hruns, List.map_append]
      rfl
    · rw [hafter hy]
      rfl
    · intro m hm
      rcases List.mem_cons.mp hm with rfl | hm
      · exact ⟨[], c :: x, by simp, rfl, rfl⟩
      · obtain ⟨m', hm', rfl⟩ := List.mem_map.mp hm
        obtain ⟨x₁, x₂, hne, rfl, rfl⟩ := hbefore m' hm'
        exact ⟨c :: x₁, x₂, hne, rfl, rfl⟩

/-- A repetition leads nowhere if the match goes on from none of its ways. -/
theorem find_many_eq_none {s : List Char} {next : Way → Option α}
    (h : ∀ x y, s = x ++ y → (∀ c ∈ x, p c = true) → next ⟨x, [], y⟩ = none) :
    (many p).find s next = none := by
  unfold find ways
  rw [List.findSome?_eq_none_iff]
  intro m hm
  obtain ⟨x, y, hs, hx, rfl⟩ := mem_runs_iff.mp (List.mem_reverse.mp hm)
  exact h x y hs hx

/-- To take all characters of a kind is the first choice, if the match goes on from there. -/
theorem find_many_of_eq_some {x y : List Char} {next : Way → Option α} {result : α}
    (hx : ∀ c ∈ x, p c = true) (hy : ∀ c ∈ y.head?, p c = false)
    (hnext : next ⟨x, [], y⟩ = some result) :
    (many p).find (x ++ y) next = some result := by
  obtain ⟨before, after, hruns, hafter, -⟩ := exists_runs_eq_append hx y
  unfold find ways
  rw [hruns, hafter hy, List.reverse_append, List.reverse_singleton, List.singleton_append,
    List.findSome?_cons, hnext]

/-- To take fewer characters of a kind is preferred, unless the match does not go on from there. -/
theorem find_few_of_eq_some {x y : List Char} {next : Way → Option α} {result : α}
    (hx : ∀ c ∈ x, p c = true)
    (hfewer : ∀ x₁ x₂, x₂ ≠ [] → x = x₁ ++ x₂ → next ⟨x₁, [], x₂ ++ y⟩ = none)
    (hnext : next ⟨x, [], y⟩ = some result) :
    (few p).find (x ++ y) next = some result := by
  obtain ⟨before, after, hruns, -, hbefore⟩ := exists_runs_eq_append hx y
  have hnone : before.findSome? next = none := by
    rw [List.findSome?_eq_none_iff]
    intro m hm
    obtain ⟨x₁, x₂, hne, hsplit, rfl⟩ := hbefore m hm
    exact hfewer x₁ x₂ hne hsplit
  unfold find ways
  rw [hruns, List.findSome?_append, hnone, Option.none_or, List.findSome?_cons, hnext]

/-! ## The texts that are matched -/

/-- The texts that a pattern takes as a whole, in whatever way. -/
def Takes : Pattern → List Char → Prop
  | one p, s => ∃ c, p c = true ∧ s = [c]
  | many p, s => ∀ c ∈ s, p c = true
  | few p, s => ∀ c ∈ s, p c = true
  | seq a b, s => ∃ x y, a.Takes x ∧ b.Takes y ∧ s = x ++ y
  | optional a, s => a.Takes s ∨ s = []
  | named _ a, s => a.Takes s

/-- A repetition takes a start of the text that consists of characters of its kind. -/
theorem exists_mem_runs_iff {s x y : List Char} :
    (∃ groups, ⟨x, groups, y⟩ ∈ runs p s) ↔ (∀ c ∈ x, p c = true) ∧ s = x ++ y := by
  simp only [mem_runs_iff, Way.mk.injEq]
  constructor
  · rintro ⟨groups, x', y', hs, hx, rfl, -, rfl⟩
    exact ⟨hx, hs⟩
  · rintro ⟨hx, hs⟩
    exact ⟨[], x, y, hs, hx, rfl, rfl, rfl⟩

/-- Among the ways of a pattern are those that take a start of the text that the pattern takes as a
whole, and no others. -/
theorem exists_mem_ways_iff (a : Pattern) {s x y : List Char} :
    (∃ groups, ⟨x, groups, y⟩ ∈ a.ways s) ↔ a.Takes x ∧ s = x ++ y := by
  induction a generalizing s x y with
  | one p =>
    cases s with
    | nil =>
      simp only [ways, Takes, List.not_mem_nil, exists_false, false_iff]
      rintro ⟨⟨d, -, rfl⟩, hs⟩
      simp at hs
    | cons c s =>
      simp only [ways, Takes]
      split_ifs with hc
      · simp only [List.mem_singleton, Way.mk.injEq]
        constructor
        · rintro ⟨-, rfl, -, rfl⟩
          exact ⟨⟨c, hc, rfl⟩, rfl⟩
        · rintro ⟨⟨d, hd, rfl⟩, hs⟩
          obtain ⟨rfl, rfl⟩ := List.cons_eq_cons.mp hs
          exact ⟨[], rfl, rfl, rfl⟩
      · simp only [List.not_mem_nil, exists_false, false_iff]
        rintro ⟨⟨d, hd, rfl⟩, hs⟩
        obtain ⟨rfl, rfl⟩ := List.cons_eq_cons.mp hs
        exact hc hd
  | many p =>
    simp only [ways, List.mem_reverse]
    exact exists_mem_runs_iff
  | few p => exact exists_mem_runs_iff
  | seq a b iha ihb =>
    simp only [ways, List.mem_flatMap, List.mem_map]
    constructor
    · rintro ⟨groups, ⟨x₁, g₁, y₁⟩, ha, ⟨x₂, g₂, y₂⟩, hb, hway⟩
      obtain ⟨rfl, -, rfl⟩ := Way.mk.inj hway
      obtain ⟨hx₁, rfl⟩ := iha.mp ⟨g₁, ha⟩
      obtain ⟨hx₂, rfl⟩ := ihb.mp ⟨g₂, hb⟩
      exact ⟨⟨x₁, x₂, hx₁, hx₂, rfl⟩, (List.append_assoc _ _ _).symm⟩
    · rintro ⟨⟨x₁, x₂, hx₁, hx₂, rfl⟩, rfl⟩
      obtain ⟨g₁, ha⟩ := iha.mpr ⟨hx₁, List.append_assoc x₁ x₂ y⟩
      obtain ⟨g₂, hb⟩ := ihb.mpr ⟨hx₂, rfl⟩
      exact ⟨g₁ ++ g₂, ⟨x₁, g₁, x₂ ++ y⟩, ha, ⟨x₂, g₂, y⟩, hb, rfl⟩
  | optional a ih =>
    simp only [ways, List.mem_append, List.mem_singleton, exists_or, ih, Takes, Way.mk.injEq]
    constructor
    · rintro (⟨hx, hs⟩ | ⟨groups, rfl, -, rfl⟩)
      · exact ⟨.inl hx, hs⟩
      · exact ⟨.inr rfl, rfl⟩
    · rintro ⟨hx | rfl, hs⟩
      · exact .inl ⟨hx, hs⟩
      · exact .inr ⟨[], rfl, rfl, hs.symm⟩
  | named name a ih =>
    simp only [ways, List.mem_map, Takes, ← ih]
    constructor
    · rintro ⟨groups, ⟨x', g, y'⟩, hm, hway⟩
      obtain ⟨rfl, -, rfl⟩ := Way.mk.inj hway
      exact ⟨g, hm⟩
    · rintro ⟨g, hm⟩
      exact ⟨(name, x) :: g, ⟨x, g, y⟩, hm, rfl⟩

/-- A pattern matches the texts that it takes as a whole. -/
theorem isSome_match?_iff (a : Pattern) (s : List Char) : (a.match? s).isSome ↔ a.Takes s := by
  have hclose : ∀ m : Way, (close m).isSome ↔ m.rest = [] := by
    intro m
    unfold close
    split_ifs with h <;> simp [h]
  simp only [match?, find, List.isSome_findSome?, List.any_eq_true, hclose]
  constructor
  · rintro ⟨⟨x, groups, y⟩, hm, hrest⟩
    obtain ⟨hx, rfl⟩ := a.exists_mem_ways_iff.mp ⟨groups, hm⟩
    obtain rfl : y = [] := hrest
    rwa [List.append_nil]
  · intro h
    obtain ⟨groups, hm⟩ := a.exists_mem_ways_iff.mpr ⟨h, (List.append_nil s).symm⟩
    exact ⟨⟨s, groups, []⟩, hm, rfl⟩

end Pattern

end SqlJob.Text
