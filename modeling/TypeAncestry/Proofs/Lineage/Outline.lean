import TypeAncestry.Lineage.Walk

/-!
# Outlines of lineages

The outline of a type is its lineage before any filter is asked, with a note at every node of how
it came there.  It is made without a budget: a type is cut off only if too many others are open
above it or if it is open itself, so what stands below a type hangs on the path to it and on
nothing else.

* `Outline` : trees whose nodes know their role and the answer of the guard.
* `Outline.tree` : the tree of the names; `Outline.tries`, `Outline.cutByDepth` : what the guard
  counts and reports.
* `Outline.prune` : delete what filters keep out.
* `Oracle.outline`, `Oracle.subjectOutline` : the outline of a type, and of a subject.
-/

namespace TypeAncestry

/-- A tree of types in which every node knows how it came there. -/
inductive Outline where
  /-- A type: the role in which it stands below another one, its name, the answer of the guard if
  its expansion was tried, and what stands below it. -/
  | node (role : Option Role) (name : String) (answer : Option Entry) (below : List Outline)

namespace Outline

mutual

/-- The tree of the names. -/
def tree : Outline → TypeTree
  | node _ n _ xs => .node n (treeAll xs)

/-- The trees of a list of outlines. -/
def treeAll : List Outline → List TypeTree
  | [] => []
  | x :: xs => x.tree :: treeAll xs

end

mutual

/-- The number of expansions that were tried. -/
def tries : Outline → Nat
  | node _ _ a xs => (if a.isSome then 1 else 0) + triesAll xs

/-- The number of expansions that were tried in a list of outlines. -/
def triesAll : List Outline → Nat
  | [] => 0
  | x :: xs => x.tries + triesAll xs

end

mutual

/-- Some expansion was refused because too many others were open. -/
def cutByDepth : Outline → Bool
  | node _ _ a xs => a == some .depthExceeded || cutByDepthAny xs

/-- Some expansion in a list of outlines was refused because too many others were open. -/
def cutByDepthAny : List Outline → Bool
  | [] => false
  | x :: xs => x.cutByDepth || cutByDepthAny xs

end

/-! ### Deleting what filters keep out -/

/-- The filter for the role of the root matches its name.  A root without a role is never kept
out. -/
def excluded (f : Filters) : Outline → Bool
  | node (some r) n _ _ => f.excludes r.filterKind n
  | node none _ _ _ => false

mutual

/-- Delete, at every level, the children that a filter keeps out, each with all that stands below
it. -/
def prune (f : Filters) : Outline → Outline
  | node r n a xs => node r n a (pruneAll f xs)

/-- Delete the outlines in a list that a filter keeps out, and prune the others. -/
def pruneAll (f : Filters) : List Outline → List Outline
  | [] => []
  | x :: xs => if x.excluded f then pruneAll f xs else x.prune f :: pruneAll f xs

end

variable {f : Filters}

theorem pruneAll_append (xs ys : List Outline) :
    pruneAll f (xs ++ ys) = pruneAll f xs ++ pruneAll f ys := by
  induction xs with
  | nil => rfl
  | cons x xs ih =>
    simp only [List.cons_append, pruneAll, ih]
    split <;> simp

theorem pruneAll_of_excluded {x : Outline} (xs : List Outline) (h : x.excluded f = true) :
    pruneAll f (x :: xs) = pruneAll f xs := by
  rw [pruneAll, if_pos h]

theorem pruneAll_of_not_excluded {x : Outline} (xs : List Outline) (h : x.excluded f = false) :
    pruneAll f (x :: xs) = x.prune f :: pruneAll f xs := by
  rw [pruneAll, if_neg (by simp [h])]

theorem treeAll_append (xs ys : List Outline) :
    treeAll (xs ++ ys) = treeAll xs ++ treeAll ys := by
  induction xs with
  | nil => rfl
  | cons x xs ih => simp [treeAll, ih]

theorem triesAll_append (xs ys : List Outline) :
    triesAll (xs ++ ys) = triesAll xs + triesAll ys := by
  induction xs with
  | nil => simp [triesAll]
  | cons x xs ih => simp only [List.cons_append, triesAll, ih]; omega

theorem cutByDepthAny_append (xs ys : List Outline) :
    cutByDepthAny (xs ++ ys) = (cutByDepthAny xs || cutByDepthAny ys) := by
  induction xs with
  | nil => simp [cutByDepthAny]
  | cons x xs ih => simp [cutByDepthAny, ih, Bool.or_assoc]

mutual

/-- Filters that keep nothing out delete nothing. -/
theorem prune_none : ∀ x : Outline, x.prune .none = x
  | node r n a xs => by rw [prune, pruneAll_none xs]

theorem pruneAll_none : ∀ xs : List Outline, pruneAll .none xs = xs
  | [] => rfl
  | x :: xs => by
    have hx : x.excluded .none = false := by
      obtain ⟨_ | r, n, a, ys⟩ := x <;> simp [excluded]
    rw [pruneAll_of_not_excluded xs hx, prune_none x, pruneAll_none xs]

end

mutual

/-- Deleting leaves no more expansions to be tried. -/
theorem tries_prune_le : ∀ x : Outline, (x.prune f).tries ≤ x.tries
  | node r n a xs => by
    have := triesAll_pruneAll_le xs
    simp only [prune, tries]; omega

theorem triesAll_pruneAll_le : ∀ xs : List Outline, triesAll (pruneAll f xs) ≤ triesAll xs
  | [] => by simp [pruneAll]
  | x :: xs => by
    have hx := tries_prune_le x
    have hxs := triesAll_pruneAll_le xs
    rw [pruneAll]
    split
    · simp only [triesAll]; omega
    · simp only [triesAll]; omega

end

end Outline

namespace Oracle

variable {H : Type} [DecidableEq H] (o : Oracle H)

omit [DecidableEq H] in
/-- What a candidate contributes to an outline, where `grow` gives the outline of what is to be
expanded. -/
def sketch (grow : Option Role → Target H → Outline) (c : Candidate H) : Outline :=
  match c.target with
  | some t => grow (some c.role) t
  | none => .node (some c.role) c.name none []

/-- The outline of `t`, which stands in the given role below the types on `path`; so many levels
may still be opened. -/
def outline : Nat → List (Target H) → Option Role → Target H → Outline
  | 0, _, role, t => .node role (o.canonicalName t.handle) (some .depthExceeded) []
  | levels + 1, path, role, t =>
    if t ∈ path then .node role (o.canonicalName t.handle) (some .cycle) []
    else
      .node role (o.canonicalName t.handle) (some .entered)
        ((o.layer t).candidates.map (sketch (outline levels (t :: path))))

variable {o}

omit [DecidableEq H] in
/-- What is to be expanded stands under the name of its type. -/
theorem reference_name {role : Role} {r : TypeRef H} {t : Target H}
    (h : (o.reference role r).target = some t) :
    (o.reference role r).name = o.canonicalName t.handle := by
  cases r with
  | applied k as => obtain rfl := Option.some.inj h; rfl
  | plain k =>
    simp only [reference, leaf] at h
    split at h <;> simp at h
  | var n => simp [reference, leaf] at h

omit [DecidableEq H] in
/-- In every layer, what is to be expanded stands under the name of its type. -/
theorem layer_name {s t : Target H} {c : Candidate H} (hc : c ∈ (o.layer s).candidates)
    (h : c.target = some t) : c.name = o.canonicalName t.handle := by
  simp only [layer, List.mem_append, List.mem_map] at hc
  rcases hc with (hc | ⟨r, -, rfl⟩) | hc
  · cases s with
    | declared k =>
      obtain ⟨p, -, rfl⟩ := List.mem_map.1 hc
      simp [leaf] at h
    | applied k as =>
      obtain ⟨r, -, rfl⟩ := List.mem_map.1 hc
      exact reference_name h
  · exact reference_name h
  · have hancestor : ∀ u : Target H, c ∈ o.ancestor u → c.name = o.canonicalName t.handle := by
      intro u hu
      unfold ancestor at hu
      split at hu
      · simp at hu
      · obtain rfl := List.mem_singleton.1 hu
        obtain rfl := Option.some.inj h
        rfl
    unfold superLayer at hc
    split at hc
    · simp at hc
    · exact hancestor _ hc
    · exact hancestor _ hc
    · simp at hc

theorem excluded_outline (f : Filters) (levels : Nat) (path : List (Target H)) (r : Role)
    (t : Target H) :
    (o.outline levels path (some r) t).excluded f =
      f.excludes r.filterKind (o.canonicalName t.handle) := by
  cases levels with
  | zero => rfl
  | succ levels => rw [outline]; split <;> rfl

/-- A filter asks a candidate what it asks the outline that comes of it. -/
theorem excluded_sketch (f : Filters) (levels : Nat) (path : List (Target H)) {c : Candidate H}
    (h : ∀ t, c.target = some t → c.name = o.canonicalName t.handle) :
    (sketch (o.outline levels path) c).excluded f = f.excludes c.role.filterKind c.name := by
  unfold sketch
  split
  · next t ht => rw [excluded_outline, h t ht]
  · rfl

/-- The root of the outline of a type counts as a try. -/
theorem tries_outline_pos (f : Filters) (levels : Nat) (path : List (Target H)) (r : Option Role)
    (t : Target H) : 0 < ((o.outline levels path r t).prune f).tries := by
  cases levels with
  | zero => simp only [outline, Outline.prune, Outline.tries, Option.isSome_some, if_true]; omega
  | succ levels =>
    rw [outline]
    split <;> simp only [Outline.prune, Outline.tries, Option.isSome_some, if_true] <;> omega

variable (o)

omit [DecidableEq H] in
/-- The type that is expanded for a subject, if there is one. -/
def root? : Subject H → Option H
  | .type h => some (o.boxed h).1
  | .value tag => (o.runtimeType tag).map fun h => (o.boxed h).1
  | .null => none

omit [DecidableEq H] in
/-- The name of the only node in the lineage of a subject for which no type is expanded. -/
def rootlessName : Subject H → String
  | .null => Name.null
  | _ => Name.top

/-- The outline of a subject. -/
def subjectOutline (limits : Limits) (s : Subject H) : Outline :=
  match o.root? s with
  | some h => o.outline limits.maxDepth.toNat [] none (.declared h)
  | none => .node none (rootlessName s) none []

end Oracle

end TypeAncestry
