import TypeAncestry.Limits
import TypeAncestry.Misuse

/-!
# Counting levels

Where recursion follows the structure of a finite thing, no call can meet itself again, and it is
enough to count the levels that are open.

* `Levels` : the number of open levels and its limit.
* `Levels.enter?` : open a level, if the limit allows it.
* `Levels.leave` : close a level.
* `Levels.abandon` : the check made when the counter is given up.
-/

namespace TypeAncestry

/-- A counter of open levels. -/
structure Levels where
  /-- How many levels are open. -/
  depth : Nat
  /-- How many may be. -/
  maxDepth : UInt32
  deriving DecidableEq, Repr

namespace Levels

/-- A counter without open levels. -/
def new (maxDepth : UInt32) : Levels := ⟨0, maxDepth⟩

/-- Open a level; `none` if as many levels are open as may be. -/
def enter? (l : Levels) : Option Levels :=
  if l.maxDepth.toNat ≤ l.depth then none else some { l with depth := l.depth + 1 }

/-- Close a level; one has to be open. -/
def leave (l : Levels) : Except Misuse Levels :=
  if l.depth = 0 then .error .leftOutermost else .ok { l with depth := l.depth - 1 }

/-- The check made when the counter is given up: no level may be open. -/
def abandon (l : Levels) : Option Misuse :=
  if l.depth = 0 then none else some (.levelsAbandoned l.depth)

theorem enter?_eq_none_iff {l : Levels} : l.enter? = none ↔ l.maxDepth.toNat ≤ l.depth := by
  unfold enter?
  split <;> simp_all

theorem enter?_eq_some_iff {l m : Levels} :
    l.enter? = some m ↔ l.depth < l.maxDepth.toNat ∧ m = { l with depth := l.depth + 1 } := by
  unfold enter?
  split <;> grind

/-- Closing a level undoes opening it. -/
theorem leave_of_enter? {l m : Levels} (h : l.enter? = some m) : m.leave = .ok l := by
  unfold enter? at h
  split at h
  · simp at h
  · obtain rfl := Option.some.inj h
    simp [leave]

end Levels

end TypeAncestry
