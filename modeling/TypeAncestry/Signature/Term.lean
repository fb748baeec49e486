import TypeAncestry.Signature.Lexeme
import TypeAncestry.Tree

/-!
# Signatures

A signature is a wildcard, which may have a bound, or a name, which may have arguments:
`? extends a.B` or `a.Map<a.K, a.V>`.

* `Term` : the signatures as they are written.
* `Term.spelling` : the tokens of a signature.
* `Term.denote` : the tree of types that a signature stands for.
-/

namespace TypeAncestry

namespace Signature

/-- The two kinds of bounds of a wildcard. -/
inductive Bound where
  /-- A bound from above. -/
  | upper
  /-- A bound from below. -/
  | lower
  deriving DecidableEq, Repr

/-- The word that announces a bound. -/
def Bound.word : Bound → Word
  | upper => ⟨'e', ['x', 't', 'e', 'n', 'd', 's']⟩
  | lower => ⟨'s', ['u', 'p', 'e', 'r']⟩

/-- The bound that a word announces. -/
def Bound.ofWord? (w : Word) : Option Bound :=
  if w = upper.word then some .upper else if w = lower.word then some .lower else none

/-- A signature as it is written. -/
inductive Term where
  /-- A wildcard. -/
  | wildcard
  /-- A wildcard with a bound. -/
  | bounded (bound : Bound) (limit : Term)
  /-- A name, which is any word but `?`, with its arguments if there are any. -/
  | named (name : Word) (arguments : List Term)
  deriving Repr

namespace Term

mutual

/-- The tokens of a signature. -/
def spelling : Term → List Token
  | wildcard => [.word .wildcard]
  | bounded b t => .word .wildcard :: .word b.word :: t.spelling
  | named n [] => [.word n]
  | named n (t :: ts) => .word n :: .opening :: t.spelling ++ spellingRest ts ++ [.closing]

/-- The tokens of the arguments after the first, each behind a comma. -/
def spellingRest : List Term → List Token
  | [] => []
  | t :: ts => .comma :: t.spelling ++ spellingRest ts

end

mutual

/-- The tree that a signature stands for.  A wildcard, whatever its bound, and a name that is not
qualified, whatever its arguments, are types that are not known. -/
def denote : Term → TypeTree
  | wildcard => .top
  | bounded _ _ => .top
  | named n ts => if Name.isQualified n.text then .node n.text (denoteAll ts) else .top

/-- The trees that a list of signatures stands for. -/
def denoteAll : List Term → List TypeTree
  | [] => []
  | t :: ts => t.denote :: denoteAll ts

end

theorem denoteAll_eq_map (ts : List Term) : denoteAll ts = ts.map denote := by
  induction ts with
  | nil => rfl
  | cons t ts ih => rw [denoteAll, ih, List.map_cons]

end Term

end Signature

end TypeAncestry
