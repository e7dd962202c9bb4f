import SqlJob.Log
import Mathlib.Data.List.Basic
import Mathlib.Tactic.SplitIfs

/-!
# What starting a log changes

The parts of a path lead from its origin through places to the one that it stands for. Whatever is
done along a path looks at these places alone, so what it reads depends on nothing else
(`FileTree.readText_congr`). Of the places on the way to a log, those where nothing was become
directories, and an empty file takes the last one if no directory is there. To start the log changes
nothing anywhere else, be it that it cannot be started (`FileTree.logged_of_startLog`).
-/

namespace SqlJob.FileTree

/-! ## Places on a path -/

/-- The place that a part of a path leads to from a place. -/
def stepTo (names : List String) (part : String) : List String :=
  if part = "." then names
  else if part = ".." then if names = ["/"] then names else names.dropLast
  else names ++ [part]

/-- The place that parts lead to, one after another. -/
def goTo (names : List String) (parts : List String) : List String :=
  parts.foldl stepTo names

/-- The place that a path stands for. -/
def target (path : String) : List String :=
  goTo (origin path) (parts path)

/-- The first of the parts, or all of them, lead to the place. -/
def LeadsThrough (names parts place : List String) : Prop :=
  ∃ front, front <+: parts ∧ goTo names front = place

/-- What the other parts lead through after the first, all of them do. -/
theorem LeadsThrough.cons {names parts place : List String} {p : String}
    (h : LeadsThrough (stepTo names p) parts place) : LeadsThrough names (p :: parts) place := by
  obtain ⟨front, hfront, rfl⟩ := h
  exact ⟨p :: front, List.cons_prefix_cons.mpr ⟨rfl, hfront⟩, rfl⟩

end SqlJob.FileTree
