import Mathlib.Data.List.Forall2
import Mathlib.Data.List.Lex
import TypeAncestry.Tree

/-!
# Positions in trees

A position says how to come from the root of a tree to a node: it lists the numbers of the children
to go down to, and the root is at the empty position.

* `Position.Above`, `Position.Before` : the order from the root down, and the order of
  `TypeTree.preorder`.
* `TypeTree.at?` : the subtree at a position, if there is one.
* `TypeTree.replace` : put something else in the place of the subtrees at chosen positions;
  `TypeTree.at?_replace` says what is found in the result.
* `TypeTree.generalise` : put `?` in the place of subtrees.
* `TypeTree.CutOf` : a tree comes of another one by cutting away all that lies below some nodes.
-/

namespace TypeAncestry

/-- The numbers of the children to go down to, from the root on. -/
abbrev Position := List Nat

namespace Position

/-- `q` is on the way from the root to `p`, and is not `p`. -/
def Above (q p : Position) : Prop := q <+: p ∧ q ≠ p

/-- `q` comes before `p` if a node comes before what lies below it, and what lies below a child
before what lies below the children to its right. -/
def Before (q p : Position) : Prop := List.Lex (· < ·) q p

variable {p q : Position} {i : Nat}

theorem not_above_nil : ¬ Above q [] := fun ⟨hq, hne⟩ => hne (List.prefix_nil.1 hq)

theorem nil_above_cons (i : Nat) (p : Position) : Above [] (i :: p) :=
  ⟨List.nil_prefix, (List.cons_ne_nil i p).symm⟩

theorem above_cons_iff : Above q (i :: p) ↔ q = [] ∨ ∃ q', q = i :: q' ∧ Above q' p := by
  constructor
  · rintro ⟨hq, hne⟩
    rcases q with _ | ⟨j, q⟩
    · exact .inl rfl
    · obtain ⟨rfl, hqp⟩ := List.cons_prefix_cons.1 hq
      exact .inr ⟨q, rfl, hqp, fun he => hne (by rw [he])⟩
  · rintro (rfl | ⟨q, rfl, hq, hne⟩)
    · exact nil_above_cons i p
    · exact ⟨List.cons_prefix_cons.2 ⟨rfl, hq⟩, fun he => hne (List.cons.inj he).2⟩

theorem Above.cons (h : Above q p) (i : Nat) : Above (i :: q) (i :: p) :=
  above_cons_iff.2 (.inr ⟨q, rfl, h⟩)

end Position

namespace TypeTree

/-- The subtree at a position; `none` if the position leads out of the tree. -/
def at? : TypeTree → Position → Option TypeTree
  | t, [] => some t
  | node _ cs, i :: p => cs[i]?.bind fun c => c.at? p

variable {t u v : TypeTree} {ts us : List TypeTree} {p q : Position} {i : Nat}

@[simp] theorem at?_nil (t : TypeTree) : t.at? [] = some t := by
  cases t; rfl

theorem at?_cons (t : TypeTree) (i : Nat) (p : Position) :
    t.at? (i :: p) = t.children[i]?.bind fun c => c.at? p := by
  cases t; rfl

theorem at?_cons_eq_some_iff :
    t.at? (i :: p) = some u ↔ ∃ c, t.children[i]? = some c ∧ c.at? p = some u := by
  rw [at?_cons, Option.bind_eq_some_iff]

theorem at?_cons_of_child (hu : t.children[i]? = some u) : t.at? (i :: p) = u.at? p := by
  rw [at?_cons, hu, Option.bind_some]

/-- To prove a statement of all trees, prove it of a tree from the numbered children. -/
@[elab_as_elim]
theorem inductChildren {P : TypeTree → Prop}
    (tree : ∀ t, (∀ (i : Nat) u, t.children[i]? = some u → P u) → P t) : ∀ t, P t := by
  intro t
  induction t using TypeTree.induct with
  | node n cs ih => exact tree _ fun i u hu => ih u (List.mem_of_getElem? hu)

/-- A position is followed part by part. -/
theorem at?_append (t : TypeTree) (p q : Position) :
    t.at? (p ++ q) = (t.at? p).bind fun u => u.at? q := by
  induction p generalizing t with
  | nil => simp
  | cons i p ih =>
    rw [List.cons_append, at?_cons, at?_cons, Option.bind_assoc]
    simp only [ih]

/-- Above a node there are nodes with children. -/
theorem exists_at?_of_above (h : t.at? p = some u) (hq : q.Above p) :
    ∃ w, t.at? q = some w ∧ w.children ≠ [] := by
  obtain ⟨⟨r, rfl⟩, hne⟩ := hq
  rw [at?_append, Option.bind_eq_some_iff] at h
  obtain ⟨w, hw, hu⟩ := h
  refine ⟨w, hw, fun hnil => ?_⟩
  rcases r with _ | ⟨i, r⟩
  · exact hne (List.append_nil q).symm
  · simp [at?_cons, hnil] at hu

theorem mem_preorder_of_at? (h : t.at? p = some u) : u ∈ t.preorder := by
  induction p generalizing t with
  | nil =>
    obtain rfl : t = u := by simpa using h
    cases t; simp [preorder]
  | cons i p ih =>
    obtain ⟨c, hc, hu⟩ := at?_cons_eq_some_iff.1 h
    cases t
    exact List.mem_cons_of_mem _ (mem_preorderAll.2 ⟨c, List.mem_of_getElem? hc, ih hu⟩)

theorem depth_lt_of_child (h : t.children[i]? = some u) : u.depth < t.depth := by
  have hdepth := depth_le_depthAll (List.mem_of_getElem? h)
  cases t
  simp only [depth, children_node] at hdepth ⊢
  omega

/-- A position is shorter than the tree is deep. -/
theorem length_lt_depth (h : t.at? p = some u) : p.length < t.depth := by
  induction p generalizing t with
  | nil => exact t.depth_pos
  | cons i p ih =>
    obtain ⟨c, hc, hu⟩ := at?_cons_eq_some_iff.1 h
    have hlen := ih hu
    have hdepth := depth_lt_of_child hc
    rw [List.length_cons]
    omega

theorem containsTopAny_iff : containsTopAny ts = true ↔ ∃ t ∈ ts, t.containsTop = true := by
  induction ts with
  | nil => simp [containsTopAny]
  | cons t ts ih => simp [containsTopAny, ih]

theorem containsTop_eq_false_iff : t.containsTop = false ↔
    t.isTop = false ∧ ∀ (i : Nat) c, t.children[i]? = some c → c.containsTop = false := by
  obtain ⟨n, cs⟩ := t
  rw [containsTop, Bool.or_eq_false_iff, ← Bool.not_eq_true (containsTopAny cs),
    containsTopAny_iff]
  refine and_congr_right fun _ => ⟨fun h i c hc => ?_, fun h => ?_⟩
  · rw [← Bool.not_eq_true]
    exact fun htop => h ⟨c, List.mem_of_getElem? hc, htop⟩
  · rintro ⟨c, hc, htop⟩
    obtain ⟨i, hi⟩ := List.getElem?_of_mem hc
    rw [h i c hi] at htop
    cases htop

/-- A tree that contains `?` has it at some position. -/
theorem containsTop_iff :
    t.containsTop = true ↔ ∃ p u, t.at? p = some u ∧ u.isTop = true := by
  induction t using TypeTree.induct with
  | node n cs ih =>
    rw [containsTop, Bool.or_eq_true, containsTopAny_iff]
    constructor
    · rintro (hn | ⟨c, hc, htop⟩)
      · exact ⟨[], node n cs, at?_nil _, hn⟩
      · obtain ⟨i, hi⟩ := List.getElem?_of_mem hc
        obtain ⟨p, u, hu, htop⟩ := (ih c hc).1 htop
        exact ⟨i :: p, u, at?_cons_eq_some_iff.2 ⟨c, hi, hu⟩, htop⟩
    · rintro ⟨_ | ⟨i, p⟩, u, hu, htop⟩
      · obtain rfl : node n cs = u := by simpa using hu
        exact .inl htop
      · obtain ⟨c, hc, hu⟩ := at?_cons_eq_some_iff.1 hu
        have hmem := List.mem_of_getElem? hc
        exact .inr ⟨c, hmem, (ih c hmem).2 ⟨p, u, hu, htop⟩⟩

/-! ### Replacing subtrees -/

mutual

/-- Put `put u` in the place of every subtree `u` at a chosen position.  What lies below a chosen
position goes with it. -/
def replace (put : TypeTree → TypeTree) (chosen : Position → Bool) : TypeTree → TypeTree
  | node n cs =>
    if chosen [] then put (node n cs)
    else node n (replaceAll put (fun i p => chosen (i :: p)) cs)

/-- Replace the chosen subtrees in a list of trees, where `chosen i` are those of tree `i`. -/
def replaceAll (put : TypeTree → TypeTree) (chosen : Nat → Position → Bool) :
    List TypeTree → List TypeTree
  | [] => []
  | t :: ts => t.replace put (chosen 0) :: replaceAll put (fun i => chosen (i + 1)) ts

end

variable {put : TypeTree → TypeTree} {chosen : Position → Bool}

theorem replace_of_chosen (h : chosen [] = true) : t.replace put chosen = put t := by
  cases t
  rw [replace, if_pos h]

theorem replace_of_not_chosen (h : chosen [] = false) :
    t.replace put chosen =
      node t.name (replaceAll put (fun i p => chosen (i :: p)) t.children) := by
  cases t
  rw [replace, if_neg (by simp [h])]
  rfl

theorem getElem?_replaceAll (put : TypeTree → TypeTree) (ts : List TypeTree) :
    ∀ (chosen : Nat → Position → Bool) (i : Nat),
      (replaceAll put chosen ts)[i]? = ts[i]?.map (replace put (chosen i)) := by
  induction ts with
  | nil => intro chosen i; simp [replaceAll]
  | cons t ts ih =>
    intro chosen i
    cases i with
    | zero => simp [replaceAll]
    | succ i => simpa [replaceAll] using ih _ i

theorem length_replaceAll (put : TypeTree → TypeTree) (ts : List TypeTree) :
    ∀ chosen : Nat → Position → Bool, (replaceAll put chosen ts).length = ts.length := by
  induction ts with
  | nil => intro chosen; rfl
  | cons t ts ih => intro chosen; simp [replaceAll, ih]

theorem replace_leaf (n : String) :
    (leaf n).replace put chosen = if chosen [] then put (leaf n) else leaf n := by
  rw [leaf, replace]
  rfl

/-- Where nothing above is chosen, the subtree is what stood there, replaced in turn. -/
theorem at?_replace (h : ∀ q, q.Above p → chosen q = false) :
    (t.replace put chosen).at? p = (t.at? p).map (replace put fun q => chosen (p ++ q)) := by
  induction p generalizing t chosen with
  | nil => simp
  | cons i p ih =>
    have hroot := h [] (Position.nil_above_cons i p)
    rw [replace_of_not_chosen hroot, at?_cons, at?_cons, children_node, getElem?_replaceAll]
    rcases t.children[i]? with _ | c
    · rfl
    · exact ih fun q hq => h (i :: q) (hq.cons i)

/-- A tree stays as it is if nothing else is put in the place of what is chosen. -/
theorem replace_eq_self (h : ∀ p u, t.at? p = some u → chosen p = true → put u = u) :
    t.replace put chosen = t := by
  induction t using inductChildren generalizing chosen with
  | tree t ih =>
    rcases hroot : chosen []
    · have hchildren : replaceAll put (fun i p => chosen (i :: p)) t.children = t.children := by
        refine List.ext_getElem? fun i => ?_
        rw [getElem?_replaceAll]
        rcases hc : t.children[i]? with _ | c
        · rfl
        · refine congrArg some (ih i c hc fun p u hu => h (i :: p) u ?_)
          rw [at?_cons_of_child hc, hu]
      rw [replace_of_not_chosen hroot, hchildren]
      cases t
      rfl
    · rw [replace_of_chosen hroot]
      exact h [] t (at?_nil t) hroot

/-! ### Generalising -/

/-- Put `?` in the place of the subtrees at chosen positions. -/
def generalise (t : TypeTree) (chosen : Position → Bool) : TypeTree :=
  t.replace (fun _ => top) chosen

@[simp] theorem generalise_none (t : TypeTree) : t.generalise (fun _ => false) = t :=
  replace_eq_self fun _ _ _ h => nomatch h

/-- Nothing is left below a chosen position. -/
theorem not_chosen_of_at?_generalise (h : (t.generalise chosen).at? p = some u) :
    ∀ q, q.Above p → chosen q = false := by
  induction p generalizing t chosen with
  | nil => exact fun q hq => absurd hq Position.not_above_nil
  | cons i p ih =>
    have hroot : chosen [] = false := by
      rcases hc : chosen []
      · rfl
      · rw [generalise, replace_of_chosen hc] at h
        simp [at?_cons, top, leaf] at h
    rw [generalise, replace_of_not_chosen hroot, at?_cons, children_node, getElem?_replaceAll,
      Option.bind_eq_some_iff] at h
    obtain ⟨c', hc', hu⟩ := h
    obtain ⟨c, -, rfl⟩ := Option.map_eq_some_iff.1 hc'
    intro q hq
    obtain rfl | ⟨q, rfl, hqp⟩ := Position.above_cons_iff.1 hq
    · exact hroot
    · exact ih hu q hqp

/-- At a position below no chosen one something stands in the generalised tree, if it did before. -/
theorem exists_at?_generalise (hu : t.at? p = some u) (h : ∀ q, q.Above p → chosen q = false) :
    ∃ v, (t.generalise chosen).at? p = some v := by
  rw [generalise, at?_replace h, hu]
  exact ⟨_, rfl⟩

/-- What stands in a generalised tree is `?` at a chosen position, and elsewhere it has the name and
the number of children that it had before. -/
theorem exists_of_at?_generalise (h : (t.generalise chosen).at? p = some v) :
    ∃ u, t.at? p = some u ∧ (v = top ∨
      (chosen p = false ∧ u.name = v.name ∧ u.children.length = v.children.length)) := by
  have habove := not_chosen_of_at?_generalise h
  rw [generalise, at?_replace habove] at h
  obtain ⟨u, hu, rfl⟩ := Option.map_eq_some_iff.1 h
  refine ⟨u, hu, ?_⟩
  rcases hp : chosen (p ++ [])
  · rw [replace_of_not_chosen hp]
    exact .inr ⟨by simpa using hp, rfl, (length_replaceAll _ _ _).symm⟩
  · exact .inl (replace_of_chosen hp)

/-! ### Cutting -/

/-- `t` comes of `u` by replacing subtrees by childless nodes of the same name. -/
def CutOf (t u : TypeTree) : Prop :=
  ∃ chosen : Position → Bool, t = u.replace (fun v => leaf v.name) chosen

/-- The root of a tree is what is left when all below it is cut away. -/
theorem CutOf.leaf (n : String) (cs : List TypeTree) : CutOf (.leaf n) (.node n cs) := by
  refine ⟨fun _ => true, ?_⟩
  rw [replace_of_chosen rfl, name_node]

theorem exists_replaceAll_of_cutOf (h : List.Forall₂ CutOf ts us) :
    ∃ chosen : Nat → Position → Bool,
      ts = replaceAll (fun v => TypeTree.leaf v.name) chosen us := by
  induction h with
  | nil => exact ⟨fun _ _ => false, rfl⟩
  | cons ht _ ih =>
    obtain ⟨first, rfl⟩ := ht
    obtain ⟨rest, rfl⟩ := ih
    exact ⟨fun i => Nat.casesOn i first rest, rfl⟩

/-- Trees are cut below a node child by child. -/
theorem CutOf.node (n : String) (h : List.Forall₂ CutOf ts us) :
    CutOf (.node n ts) (.node n us) := by
  obtain ⟨below, rfl⟩ := exists_replaceAll_of_cutOf h
  refine ⟨fun | [] => false | i :: p => below i p, ?_⟩
  rw [replace_of_not_chosen rfl]
  rfl

end TypeTree

end TypeAncestry
