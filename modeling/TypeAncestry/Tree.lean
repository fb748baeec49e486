import TypeAncestry.Name

/-!
# Trees of types

A type with its ancestors and the types it is applied to is shown as a tree of names.

* `TypeTree` : the trees.  A childless node named `?` stands for a type that is not known.
* `TypeTree.depth`, `TypeTree.size`, `TypeTree.containsTop` : measures of a tree.
* `TypeTree.preorder`, `TypeTree.find?` : the subtrees, a node before its children, and the first of
  them whose name passes a test.
* `TypeTree.render` : the written form `name<child, child>`.
-/

namespace TypeAncestry

/-- A tree of type names. -/
inductive TypeTree where
  | node (name : String) (children : List TypeTree)
  deriving Repr

namespace TypeTree

/-- To prove a statement of all trees, prove it of a node from the children. -/
@[elab_as_elim]
theorem induct {P : TypeTree → Prop}
    (node : ∀ name children, (∀ t ∈ children, P t) → P (.node name children)) :
    ∀ t, P t := by
  intro t
  refine TypeTree.rec (motive_1 := P) (motive_2 := fun ts => ∀ t ∈ ts, P t) ?_ ?_ ?_ t
  · exact node
  · simp
  · intro t ts ht hts u hu
    rcases List.mem_cons.1 hu with rfl | hu
    · exact ht
    · exact hts u hu

mutual

/-- Equality of trees is decided node by node. -/
def decEq : (s t : TypeTree) → Decidable (s = t)
  | .node a cs, .node b ds =>
    if h : a = b then
      match decEqAll cs ds with
      | isTrue hc => isTrue (by rw [h, hc])
      | isFalse hc => isFalse (fun e => hc (TypeTree.node.inj e).2)
    else isFalse (fun e => h (TypeTree.node.inj e).1)

/-- Equality of lists of trees is decided tree by tree. -/
def decEqAll : (ss ts : List TypeTree) → Decidable (ss = ts)
  | [], [] => isTrue rfl
  | [], _ :: _ => isFalse (fun e => nomatch e)
  | _ :: _, [] => isFalse (fun e => nomatch e)
  | s :: ss, t :: ts =>
    match decEq s t with
    | isTrue h =>
      match decEqAll ss ts with
      | isTrue hs => isTrue (by rw [h, hs])
      | isFalse hs => isFalse (fun e => hs (List.cons.inj e).2)
    | isFalse h => isFalse (fun e => h (List.cons.inj e).1)

end

instance : DecidableEq TypeTree := decEq

/-- The name at the root. -/
def name : TypeTree → String
  | node n _ => n

/-- The subtrees right below the root. -/
def children : TypeTree → List TypeTree
  | node _ cs => cs

/-- A tree of one node. -/
def leaf (name : String) : TypeTree := node name []

/-- The tree of a type that is not known. -/
def top : TypeTree := leaf Name.top

/-- The tree of the type of an absent value. -/
def null : TypeTree := leaf Name.null

/-- The root stands for a type that is not known. -/
def isTop (t : TypeTree) : Bool := Name.isTop t.name

/-- The root has no children. -/
def isLeaf (t : TypeTree) : Bool := t.children.isEmpty

@[simp] theorem name_node (n : String) (cs : List TypeTree) : (node n cs).name = n := rfl

@[simp] theorem children_node (n : String) (cs : List TypeTree) : (node n cs).children = cs := rfl

theorem isTop_iff {t : TypeTree} : t.isTop = true ↔ t.name = Name.top := Name.isTop_iff

theorem isTop_eq_false_iff {t : TypeTree} : t.isTop = false ↔ t.name ≠ Name.top := by
  rw [Ne, ← isTop_iff, Bool.not_eq_true]

/-! ### Measures -/

mutual

/-- The number of nodes on the longest way down from the root. -/
def depth : TypeTree → Nat
  | node _ cs => 1 + depthAll cs

/-- The greatest depth in a list of trees. -/
def depthAll : List TypeTree → Nat
  | [] => 0
  | t :: ts => max t.depth (depthAll ts)

end

mutual

/-- The number of nodes. -/
def size : TypeTree → Nat
  | node _ cs => 1 + sizeAll cs

/-- The number of nodes in a list of trees. -/
def sizeAll : List TypeTree → Nat
  | [] => 0
  | t :: ts => t.size + sizeAll ts

end

/-! ### Subtrees -/

mutual

/-- All subtrees: a node before its children, and the children from left to right. -/
def preorder : TypeTree → List TypeTree
  | node n cs => node n cs :: preorderAll cs

/-- All subtrees of a list of trees. -/
def preorderAll : List TypeTree → List TypeTree
  | [] => []
  | t :: ts => t.preorder ++ preorderAll ts

end

mutual

/-- Some node stands for a type that is not known. -/
def containsTop : TypeTree → Bool
  | node n cs => Name.isTop n || containsTopAny cs

/-- Some node of some tree in a list stands for a type that is not known. -/
def containsTopAny : List TypeTree → Bool
  | [] => false
  | t :: ts => t.containsTop || containsTopAny ts

end

mutual

/-- The first subtree in preorder whose name passes the test `p`.  The search stops there. -/
def find? (p : String → Bool) : TypeTree → Option TypeTree
  | node n cs => if p n then some (node n cs) else findAny? p cs

/-- The first subtree in a list of trees whose name passes the test `p`. -/
def findAny? (p : String → Bool) : List TypeTree → Option TypeTree
  | [] => none
  | t :: ts =>
    match t.find? p with
    | some u => some u
    | none => findAny? p ts

end

/-! ### The written form -/

mutual

/-- The name, and the children in angle brackets if there are any. -/
def render : TypeTree → String
  | node n [] => n
  | node n (t :: ts) => n ++ "<" ++ t.render ++ renderRest ts ++ ">"

/-- The children after the first, each behind a comma and a space. -/
def renderRest : List TypeTree → String
  | [] => ""
  | t :: ts => ", " ++ t.render ++ renderRest ts

end

theorem depth_pos (t : TypeTree) : 0 < t.depth := by
  cases t; simp only [depth]; omega

theorem depth_le_depthAll {t : TypeTree} {ts : List TypeTree} (h : t ∈ ts) :
    t.depth ≤ depthAll ts := by
  induction ts with
  | nil => simp at h
  | cons u us ih =>
    simp only [depthAll]
    rcases List.mem_cons.1 h with rfl | h
    · omega
    · have := ih h; omega

theorem mem_preorderAll {u : TypeTree} {ts : List TypeTree} :
    u ∈ preorderAll ts ↔ ∃ t ∈ ts, u ∈ t.preorder := by
  induction ts with
  | nil => simp [preorderAll]
  | cons t ts ih => simp [preorderAll, ih]

end TypeTree

end TypeAncestry
