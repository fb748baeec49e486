import TypeAncestry.Compatibility
import TypeAncestry.Levels
import TypeAncestry.Log
import TypeAncestry.Mismatch

/-!
# Comparing trees

A source tree is compared with a target tree node by node from the roots down.  Two nodes agree if
their names and their numbers of children are equal and the children agree in pairs.  A node named
`?` agrees with every node, and what lies below such a pair is not looked at.

* `Comparison` : the result of comparing two trees, and what the comparison did.
* `Comparison.ofTrees` : compare two trees with a given counter of levels.
* `Comparison.ofPairs` : compare several pairs of trees with one counter in turn.
* `TypeTree.compare` : compare two trees with a fresh counter.
-/

namespace TypeAncestry

/-- What happens during a comparison. -/
inductive ComparisonEvent where
  /-- A pair of children agrees to this degree. -/
  | childCompared (parent : String) (index : Nat) (result : Compatibility)
  /-- The trees agree. -/
  | compatible (source : String) (result : Compatibility)
  /-- The trees do not agree. -/
  | incompatible (source target : String) (reason : Mismatch)
  deriving DecidableEq, Repr

/-- The log record of an event. -/
def ComparisonEvent.record : ComparisonEvent → LogRecord
  | childCompared p i c =>
    ⟨.trace, "compare", "child compared",
      [("index", toString i), ("parent", p), ("result", c.label)]⟩
  | compatible s c =>
    ⟨.trace, "compare", "trees compatible", [("compatibility", c.label), ("source", s)]⟩
  | incompatible s t e =>
    ⟨.debug, "compare", "trees incompatible", [("err", e.message), ("source", s), ("target", t)]⟩

/-- The result of a comparison. -/
structure Comparison where
  /-- How well the trees agree, or why they do not. -/
  outcome : Except Mismatch Compatibility
  /-- The counter of levels afterwards. -/
  levels : Levels
  /-- What happened, in order. -/
  events : List ComparisonEvent
  /-- The first misuse of the counter, if there was one. -/
  misuse : Option Misuse

namespace Comparison

/-- A result that needs no look at children. -/
def settled (l : Levels) (outcome : Except Mismatch Compatibility) : Comparison :=
  ⟨outcome, l, [], none⟩

/-- Close the level of two nodes once they are compared, whatever came out. -/
def close (c : Comparison) : Comparison :=
  match c.levels.leave with
  | .ok l => { c with levels := l }
  | .error m => { c with misuse := c.misuse.or (some m) }

/-- The pair of children number `index` agrees to the degree `r`, and `rest` is the comparison of
the pairs behind it, which started where the comparison `first` of this pair ended. -/
def followedBy (first : Comparison) (parent : String) (index : Nat) (r : Compatibility)
    (rest : Comparison) : Comparison :=
  { outcome := rest.outcome.map r.merge
    levels := rest.levels
    events := first.events ++ .childCompared parent index r :: rest.events
    misuse := first.misuse.or rest.misuse }

mutual

/-- Compare two nodes and what lies below them. -/
def nested (l : Levels) : TypeTree → TypeTree → Comparison
  | .node a as, .node b bs =>
    match l.enter? with
    | none => settled l (.error (.nestingTooDeep a b l.maxDepth))
    | some l =>
      close <|
        if a ≠ b then
          settled l <|
            if Name.isTop a then .ok .ofSource
            else if Name.isTop b then .ok .ofTarget
            else .error (.namesDiffer a b)
        else if Name.isTop a then settled l (.ok .both)
        else if as.length ≠ bs.length then
          settled l (.error (.ofChildCounts (.node a as) (.node b bs)))
        else pairs a 0 l as bs

/-- Compare the children of two nodes in pairs, up to the first pair that does not agree. -/
def pairs (parent : String) (index : Nat) (l : Levels) :
    List TypeTree → List TypeTree → Comparison
  | s :: ss, t :: ts =>
    let first := nested l s t
    match first.outcome with
    | .error _ => first
    | .ok r => followedBy first parent index r (pairs parent (index + 1) first.levels ss ts)
  | _, _ => settled l (.ok .exact)

end

/-- Compare two trees with a counter of levels. -/
def ofTrees (l : Levels) (s t : TypeTree) : Comparison :=
  let c := nested l s t
  let last :=
    match c.outcome with
    | .ok r => .compatible s.name r
    | .error e => .incompatible s.name t.name e
  { c with events := c.events ++ [last] }

/-- Compare pairs of trees in turn; each comparison takes over the counter of the one before. -/
def ofPairs (l : Levels) : List (TypeTree × TypeTree) → List Comparison
  | [] => []
  | (s, t) :: rest =>
    let c := ofTrees l s t
    c :: ofPairs c.levels rest

/-- The degree of agreement as a number, -1 if the trees do not agree. -/
def code (c : Comparison) : Int :=
  match c.outcome with
  | .ok r => r.code
  | .error _ => -1

/-- The log of a comparison. -/
def records (c : Comparison) : List LogRecord := c.events.map (·.record)

end Comparison

namespace TypeTree

/-- Compare two trees with a counter that is given up at the end. -/
def compare (s t : TypeTree) : Comparison :=
  let c := Comparison.ofTrees (Levels.new Limits.comparison.maxDepth) s t
  { c with misuse := c.misuse.or c.levels.abandon }

/-- Compare a tree with a target that may be missing. -/
def compareTo (s : TypeTree) : Option TypeTree → Comparison
  | some t => s.compare t
  | none => .settled (Levels.new Limits.comparison.maxDepth) (.error (.missingTarget s.name))

end TypeTree

end TypeAncestry
