/-!
# How well two trees agree

* `Compatibility` : which of the two compared trees leaves something unknown.
* `Compatibility.merge` : what is unknown in either of two parts.
-/

namespace TypeAncestry

/-- The grade of agreement of a source tree and a target tree. -/
structure Compatibility where
  /-- The source has an unknown type where it was compared. -/
  sourceUnknown : Bool
  /-- The target has an unknown type where it was compared. -/
  targetUnknown : Bool
  deriving DecidableEq, Repr

namespace Compatibility

/-- Both trees are known throughout. -/
def exact : Compatibility := ⟨false, false⟩

/-- Only the source leaves something unknown. -/
def ofSource : Compatibility := ⟨true, false⟩

/-- Only the target leaves something unknown. -/
def ofTarget : Compatibility := ⟨false, true⟩

/-- Both trees leave something unknown. -/
def both : Compatibility := ⟨true, true⟩

/-- What is unknown in one of two parts is unknown in the whole. -/
def merge (a b : Compatibility) : Compatibility :=
  ⟨a.sourceUnknown || b.sourceUnknown, a.targetUnknown || b.targetUnknown⟩

/-- Nothing is unknown. -/
def isExact (c : Compatibility) : Bool := !c.sourceUnknown && !c.targetUnknown

/-- The grades in order: 1 stands for an unknown in the source, 2 for one in the target. -/
def code (c : Compatibility) : Nat := c.sourceUnknown.toNat + 2 * c.targetUnknown.toNat

/-- The grade with the given code, of which only the last two binary digits count. -/
def ofCode (n : Nat) : Compatibility := ⟨n.testBit 0, n.testBit 1⟩

/-- A grade in words. -/
def label (c : Compatibility) : String :=
  match c.sourceUnknown, c.targetUnknown with
  | false, false => "exact"
  | true, false => "source unknown"
  | false, true => "target unknown"
  | true, true => "both unknown"

theorem ofCode_code (c : Compatibility) : ofCode c.code = c := by
  rcases c with ⟨_ | _, _ | _⟩ <;> rfl

theorem merge_assoc (a b c : Compatibility) : (a.merge b).merge c = a.merge (b.merge c) := by
  simp [merge, Bool.or_assoc]

theorem merge_comm (a b : Compatibility) : a.merge b = b.merge a := by
  simp [merge, Bool.or_comm]

@[simp] theorem exact_merge (a : Compatibility) : exact.merge a = a := by
  simp [merge, exact]

@[simp] theorem merge_exact (a : Compatibility) : a.merge exact = a := by
  simp [merge, exact]

end Compatibility

end TypeAncestry
