import TypeAncestry.Tree

/-!
# Why two trees do not agree

* `Mismatch` : the reasons.
* `Mismatch.source`, `Mismatch.target?` : the names of the two types that do not agree.
* `Mismatch.message` : the reason in words.
-/

namespace TypeAncestry

/-- A reason why a source type does not match a target type. -/
inductive Mismatch where
  /-- The names differ, and neither type is unknown. -/
  | namesDiffer (source target : String)
  /-- The names agree but not the numbers of children; the names of the children are kept. -/
  | childCountsDiffer (source : String) (sourceChildren : List String)
      (target : String) (targetChildren : List String)
  /-- There is no target. -/
  | missingTarget (source : String)
  /-- The two types lie deeper than a comparison goes. -/
  | nestingTooDeep (source target : String) (maxDepth : UInt32)
  deriving DecidableEq, Repr

namespace Mismatch

/-- The mismatch of two trees whose roots have different numbers of children. -/
def ofChildCounts (s t : TypeTree) : Mismatch :=
  childCountsDiffer s.name (s.children.map (·.name)) t.name (t.children.map (·.name))

/-- The name of the source type. -/
def source : Mismatch → String
  | namesDiffer s _ => s
  | childCountsDiffer s _ _ _ => s
  | missingTarget s => s
  | nestingTooDeep s _ _ => s

/-- The name of the target type, if there is one. -/
def target? : Mismatch → Option String
  | namesDiffer _ t => some t
  | childCountsDiffer _ _ t _ => some t
  | missingTarget _ => none
  | nestingTooDeep _ t _ => some t

/-- How many children there are and, if there are any, their names. -/
def describeChildren (names : List String) : String :=
  toString names.length ++ " subTypes" ++
    if names.isEmpty then "" else " (" ++ ", ".intercalate names ++ ")"

/-- The reason in words. -/
def message : Mismatch → String
  | namesDiffer s t => "Source type '" ++ s ++ "' does not match target type '" ++ t ++ "'"
  | childCountsDiffer s ss t ts =>
    "Source type '" ++ s ++ "' has " ++ describeChildren ss ++ " while '" ++ t ++ "' has " ++
      describeChildren ts
  | missingTarget s => "Source type '" ++ s ++ "' cannot be compared to an absent target type"
  | nestingTooDeep s t n =>
    "Comparison of '" ++ s ++ "' and '" ++ t ++ "' exceeded the maximum nesting depth of " ++
      toString n.toNat

end Mismatch

end TypeAncestry
