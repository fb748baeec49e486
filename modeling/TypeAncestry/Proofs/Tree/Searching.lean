import TypeAncestry.NamePattern
import TypeAncestry.Proofs.Tree.Positions

/-!
# Searching a tree

A search asks the root before the children, and it leaves a child only when nothing below it has
passed.  So a node deep below an early child is found before one right below the root that comes
later: of all nodes that pass, the search finds the first in preorder, which is the order of
positions.

* `TypeTree.positions` : the positions of a tree in preorder.
* `TypeTree.map_at?_positions`, `TypeTree.mem_positions_iff`, `TypeTree.pairwise_positions` : the
  subtrees at these are what `TypeTree.preorder` lists, each position of the tree is among them, and
  they are in ascending order.
* `TypeTree.find?_eq` : the search goes through the list of all subtrees.
* `TypeTree.FirstAt`, `TypeTree.find?_eq_some_iff` : what is found, in terms of positions.
* `TypeTree.firstMatching?_preorder` : the search for a name that matches a pattern.
-/

namespace TypeAncestry

namespace TypeTree

variable {t u v : TypeTree} {ts : List TypeTree} {p q : Position} {i : Nat} {f : String → Bool}

/-! ### Positions in preorder -/

mutual

/-- The positions of a tree: the root, and then those in the children, from left to right. -/
def positions : TypeTree → List Position
  | node _ cs => [] :: positionsAll 0 cs

/-- The positions in the children of a node, which are numbered from `i` on. -/
def positionsAll (i : Nat) : List TypeTree → List Position
  | [] => []
  | t :: ts => t.positions.map (i :: ·) ++ positionsAll (i + 1) ts

end

/-- A position in the children leads into one of them. -/
theorem mem_positionsAll_iff : p ∈ positionsAll i ts ↔
    ∃ k c q, ts[k]? = some c ∧ q ∈ c.positions ∧ p = (i + k) :: q := by
  induction ts generalizing i with
  | nil => simp [positionsAll]
  | cons t ts ih =>
    rw [positionsAll, List.mem_append, List.mem_map, ih]
    constructor
    · rintro (⟨q, hq, rfl⟩ | ⟨k, c, q, hc, hq, rfl⟩)
      · exact ⟨0, t, q, rfl, hq, rfl⟩
      · exact ⟨k + 1, c, q, hc, hq, by rw [Nat.add_right_comm, Nat.add_assoc]⟩
    · rintro ⟨_ | k, c, q, hc, hq, rfl⟩
      · obtain rfl := Option.some.inj hc
        exact .inl ⟨q, hq, rfl⟩
      · exact .inr ⟨k, c, q, hc, hq, by rw [Nat.add_right_comm, Nat.add_assoc]⟩

/-- **Every position of a tree is listed,** and no other. -/
theorem mem_positions_iff : p ∈ t.positions ↔ ∃ u, t.at? p = some u := by
  induction p generalizing t with
  | nil =>
    cases t
    simp [positions]
  | cons i p ih =>
    obtain ⟨n, cs⟩ := t
    rw [positions, List.mem_cons, mem_positionsAll_iff]
    constructor
    · rintro (hnil | ⟨k, c, q, hc, hq, he⟩)
      · cases hnil
      · obtain ⟨rfl, rfl⟩ := List.cons.inj he
        obtain ⟨u, hu⟩ := ih.1 hq
        exact ⟨u, at?_cons_eq_some_iff.2 ⟨c, by rwa [Nat.zero_add], hu⟩⟩
    · rintro ⟨u, hu⟩
      obtain ⟨c, hc, hu⟩ := at?_cons_eq_some_iff.1 hu
      exact .inr ⟨i, c, p, hc, ih.2 ⟨u, hu⟩, by rw [Nat.zero_add]⟩

mutual

/-- **The positions are listed in ascending order.** -/
theorem pairwise_positions : ∀ t : TypeTree, t.positions.Pairwise Position.Before
  | node _ cs => by
    rw [positions, List.pairwise_cons]
    refine ⟨fun p hp => ?_, pairwise_positionsAll 0 cs⟩
    obtain ⟨k, c, q, -, -, rfl⟩ := mem_positionsAll_iff.1 hp
    exact .nil

theorem pairwise_positionsAll (i : Nat) :
    ∀ ts : List TypeTree, (positionsAll i ts).Pairwise Position.Before
  | [] => .nil
  | t :: ts => by
    rw [positionsAll, List.pairwise_append, List.pairwise_map]
    refine ⟨t.pairwise_positions.imp List.Lex.cons, pairwise_positionsAll (i + 1) ts,
      fun p hp q hq => ?_⟩
    obtain ⟨p, -, rfl⟩ := List.mem_map.1 hp
    obtain ⟨k, c, q, -, -, rfl⟩ := mem_positionsAll_iff.1 hq
    exact .rel (by omega)

end

mutual

/-- **The subtrees are listed by their positions.** -/
theorem map_at?_positions : ∀ t : TypeTree, t.positions.map t.at? = t.preorder.map some
  | node n cs => by
    rw [positions, preorder, List.map_cons, List.map_cons, at?_nil,
      map_at?_positionsAll (node n cs) 0 cs fun _ => by rw [Nat.zero_add]; rfl]

/-- The same for children from number `i` on. -/
theorem map_at?_positionsAll (t : TypeTree) (i : Nat) : ∀ ts : List TypeTree,
    (∀ k : Nat, t.children[i + k]? = ts[k]?) →
      (positionsAll i ts).map t.at? = (preorderAll ts).map some
  | [], _ => rfl
  | u :: us, hts => by
    have hu : t.children[i]? = some u := hts 0
    have hbelow : (t.at? ∘ (i :: ·)) = u.at? := funext fun p => at?_cons_of_child hu
    rw [positionsAll, preorderAll, List.map_append, List.map_append, List.map_map, hbelow,
      map_at?_positions u, map_at?_positionsAll t (i + 1) us fun k => ?_]
    rw [Nat.add_right_comm, Nat.add_assoc]
    exact hts (k + 1)

end

/-- What stands in front of a position in the list is what comes before it. -/
theorem mem_front_iff {ps qs : List Position} (h : t.positions = ps ++ p :: qs) :
    q ∈ ps ↔ q.Before p ∧ ∃ u, t.at? q = some u := by
  have hsorted := t.pairwise_positions
  rw [h, List.pairwise_append, List.pairwise_cons] at hsorted
  obtain ⟨-, ⟨hback, -⟩, hfront⟩ := hsorted
  rw [← mem_positions_iff, h, List.mem_append, List.mem_cons]
  constructor
  · exact fun hq => ⟨hfront q hq p List.mem_cons_self, .inl hq⟩
  · rintro ⟨hqp, hq | rfl | hq⟩
    · exact hq
    · exact absurd hqp (irrefl_of (List.Lex (· < ·)) q)
    · exact absurd hqp (asymm_of (List.Lex (· < ·)) (hback q hq))

/-! ### What is found -/

/-- **A search goes through the list of all subtrees** and stops at the first one that passes. -/
theorem find?_eq (f : String → Bool) (t : TypeTree) :
    t.find? f = t.preorder.find? fun u => f u.name := by
  induction t using TypeTree.induct with
  | node n cs ih =>
    have hany : findAny? f cs = (preorderAll cs).find? fun u => f u.name := by
      induction cs with
      | nil => rfl
      | cons c cs ihcs =>
        obtain ⟨hc, hcs⟩ := List.forall_mem_cons.1 ih
        rw [findAny?, preorderAll, List.find?_append, ← hc, ihcs hcs]
        cases c.find? f <;> rfl
    rw [find?, preorder, List.find?_cons, name_node, hany]
    cases f n <;> rfl

/-- The node at a position is the first whose name passes: it does, and none in front of it. -/
structure FirstAt (f : String → Bool) (t : TypeTree) (p : Position) (u : TypeTree) : Prop where
  subtree : t.at? p = some u
  passes : f u.name = true
  first : ∀ q v, q.Before p → t.at? q = some v → f v.name = false

/-- **What is found is the first node that passes,** with all that stands below it. -/
theorem find?_eq_some_iff : t.find? f = some u ↔ ∃ p, FirstAt f t p u := by
  have hmap := t.map_at?_positions
  rw [find?_eq, List.find?_eq_some_iff_append]
  constructor
  · rintro ⟨hu, front, back, hlist, hfront⟩
    -- the list of the positions is split where that of the subtrees is
    rw [hlist, List.map_append, List.map_cons] at hmap
    obtain ⟨ps, rest, hps, hmap, hrest⟩ := List.map_eq_append_iff.1 hmap
    obtain ⟨p, qs, rfl, hp, -⟩ := List.map_eq_cons_iff.1 hrest
    refine ⟨p, hp, hu, fun q v hq hv => ?_⟩
    have hmem : some v ∈ front.map some := by
      rw [← hmap, ← hv]
      exact List.mem_map_of_mem ((mem_front_iff hps).2 ⟨hq, v, hv⟩)
    simpa using hfront v (by simpa using hmem)
  · rintro ⟨p, hp⟩
    obtain ⟨ps, qs, hps⟩ := List.append_of_mem (mem_positions_iff.2 ⟨u, hp.subtree⟩)
    rw [hps, List.map_append, List.map_cons, hp.subtree] at hmap
    obtain ⟨front, rest, hlist, hfront, hrest⟩ := List.map_eq_append_iff.1 hmap.symm
    obtain ⟨u', back, rfl, hu, -⟩ := List.map_eq_cons_iff.1 hrest
    obtain rfl := Option.some.inj hu
    refine ⟨hp.passes, front, back, hlist, fun v hv => ?_⟩
    have hmem : some v ∈ ps.map t.at? := hfront ▸ List.mem_map_of_mem hv
    obtain ⟨q, hq, hv⟩ := List.mem_map.1 hmem
    simp [hp.first q v ((mem_front_iff hps).1 hq).1 hv]

/-- A node below an early child is found before a later child. -/
example : (node "a" [node "b" [leaf "x"], leaf "y"]).find? (fun n => n == "x" || n == "y") =
    some (leaf "x") := by decide

/-- **The search for a name that matches a pattern finds the first node in preorder whose name
does,** with all that stands below it.  It finds nothing exactly if no name matches.  What comes
first in the list of all subtrees is what stands at the least position: a node comes before what
lies below it, and all that lies below a child before what lies below the children to its right. -/
theorem firstMatching?_preorder (p : NamePattern) (t : TypeTree) :
    t.firstMatching? p = t.preorder.find? (fun u => p.isMatch u.name) ∧
      (t.firstMatching? p = none ↔ ∀ u ∈ t.preorder, p.isMatch u.name = false) ∧
      ∀ u, t.firstMatching? p = some u ↔ ∃ q, FirstAt p.isMatch t q u := by
  have hlist : t.firstMatching? p = t.preorder.find? fun u => p.isMatch u.name :=
    find?_eq p.isMatch t
  refine ⟨hlist, ?_, fun u => find?_eq_some_iff⟩
  rw [hlist, List.find?_eq_none]
  simp only [Bool.not_eq_true]

end TypeTree

end TypeAncestry
