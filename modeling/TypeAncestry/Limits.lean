/-!
# Limits on recursion

Every recursive activity has a limit on how deep it nests and one on how many steps it takes.

* `Limits.hierarchy`, `Limits.comparison`, `Limits.signature` : the limits of the three activities.
-/

namespace TypeAncestry

/-- The limits of a recursive activity. -/
structure Limits where
  /-- The greatest number of levels that may be open at once. -/
  maxDepth : UInt32
  /-- The greatest number of steps in all. -/
  maxSteps : UInt32
  deriving DecidableEq, Repr

namespace Limits

/-- The greatest number that fits a limit, which stands for no limit. -/
def unbounded : UInt32 := 4294967295

/-- The limits of building a tree of ancestors. -/
def hierarchy : Limits := ⟨256, 100000⟩

/-- The limits of comparing two trees. -/
def comparison : Limits := ⟨1024, unbounded⟩

/-- The limits of reading a signature. -/
def signature : Limits := ⟨128, unbounded⟩

end Limits

end TypeAncestry
