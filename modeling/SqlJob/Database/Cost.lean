/-!
# Costs

The planner weighs ways to go through rows by rough costs. A cost is ten times the logarithm to base
two of a number of steps, so that costs of steps inside each other are added, and costs of steps
after each other are added by `Cost.sum`.
-/

namespace SqlJob.Database.Cost

/-- The cost of a number of steps. -/
def ofNat (n : Nat) : Int :=
  if n < 2 then 0
  else
    let log := n.log2
    -- The three bits behind the leading one decide between the eighths of an octave.
    let eighth := if 3 ≤ log then n / Nat.pow 2 (log - 3) % 8 else n * Nat.pow 2 (3 - log) % 8
    10 * (log : Int) + ([0, 2, 3, 5, 6, 7, 8, 9].getD eighth 0)

/-- What is added to the greater of two costs, by how far they are apart. -/
def excess : List Int := [
  10, 10, 9, 9, 8, 8, 7, 7, 7, 6, 6, 6, 5, 5, 5, 4, 4, 4, 4, 3, 3, 3, 3, 3, 3, 2, 2, 2, 2, 2, 2, 2]

/-- The cost of doing one thing after another. -/
def sum (a b : Int) : Int :=
  let high := max a b
  let apart := (high - min a b).toNat
  if 49 < apart then high else if 31 < apart then high + 1 else high + excess.getD apart 2

/-- The cost of finding one among so many that looking at all of them has the given cost. -/
def search (a : Int) : Int := if a ≤ 10 then 0 else ofNat a.toNat - 33

/-- How many rows a table is taken to have. -/
def tableRows : Int := 200

end SqlJob.Database.Cost
