/-!
# Cutting and joining texts

`splitOn` cuts a text at every occurrence of one character and `joinWith` glues pieces together
with that character between them. The two are inverse to each other in the sense of
`joinWith_splitOn`, so a text is determined by its pieces.
-/

namespace SqlJob.Text

/-- The pieces of a text between the occurrences of `sep`; there is always at least one. -/
def splitOn (sep : Char) : List Char → List (List Char)
  | [] => [[]]
  | c :: rest =>
    if c = sep then [] :: splitOn sep rest
    else match splitOn sep rest with
      | [] => [[c]]
      | piece :: pieces => (c :: piece) :: pieces

/-- The pieces one after another with `sep` between neighbours. -/
def joinWith (sep : Char) : List (List Char) → List Char
  | [] => []
  | [piece] => piece
  | piece :: pieces => piece ++ sep :: joinWith sep pieces

theorem splitOn_ne_nil (sep : Char) (s : List Char) : splitOn sep s ≠ [] := by
  cases s with
  | nil => simp [splitOn]
  | cons c rest =>
    simp only [splitOn]
    split
    · simp
    · split <;> simp

/-- Gluing the pieces of a text together gives the text back. -/
theorem joinWith_splitOn (sep : Char) (s : List Char) : joinWith sep (splitOn sep s) = s := by
  induction s with
  | nil => rfl
  | cons c rest ih =>
    simp only [splitOn]
    split
    · next h =>
      subst h
      cases hr : splitOn c rest with
      | nil => exact absurd hr (splitOn_ne_nil _ _)
      | cons p ps => rw [hr] at ih; simp [joinWith, ih]
    · next h =>
      cases hr : splitOn sep rest with
      | nil => exact absurd hr (splitOn_ne_nil _ _)
      | cons p ps =>
        rw [hr] at ih
        cases ps with
        | nil => simp_all [joinWith]
        | cons q qs => simp_all [joinWith]

/-- The text up to the first occurrence of `sep`, and the text after it, if `sep` occurs. -/
def cutAt (sep : Char) (s : List Char) : Option (List Char × List Char) :=
  if s.contains sep then
    some (s.takeWhile (· != sep), (s.dropWhile (· != sep)).drop 1)
  else none

end SqlJob.Text
