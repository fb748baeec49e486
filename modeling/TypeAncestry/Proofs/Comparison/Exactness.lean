import TypeAncestry.Proofs.Comparison.Outcome
import TypeAncestry.Proofs.Tree.Positions

/-!
# Exact agreement

A comparison that reports nothing unknown has come to the end of both trees: a node named `?` would
have been reported, and only `?` keeps a comparison from looking at what lies below.  So exact
agreement is equality, for trees that are known throughout and not too deep.  A tree that contains
`?` agrees with itself too, but what is reported then is that both sides leave something open, as
equal names are no reason to take `?` for known.

* `TypeTree.depth_le_succ_iff`, `TypeTree.containsTop_eq_any` : depth and `?` in terms of children.
* `Comparison.outcome_self` : what comes of comparing a tree with itself.
* `Comparison.combine_eq_exact_iff` : outcomes are exact together if each of them is.
* `Comparison.outcome_eq_exact_iff` : exact agreement is equality.
* `Comparison.ofTrees_exact_iff` : both of these for a fresh counter.
-/

namespace TypeAncestry

namespace TypeTree

variable {s t : TypeTree} {ts : List TypeTree} {n : Nat}

/-- Two trees are the same if their roots are and their children are in pairs. -/
theorem ext_children (hname : s.name = t.name)
    (hcount : s.children.length = t.children.length)
    (h : ∀ (i : Nat) u v, s.children[i]? = some u → t.children[i]? = some v → u = v) : s = t := by
  obtain ⟨a, as⟩ := s
  obtain ⟨b, bs⟩ := t
  simp only [name_node, children_node] at hname hcount h
  have hchildren : as = bs := by
    refine List.ext_getElem hcount fun i hi hi' => ?_
    exact h i as[i] bs[i] (List.getElem?_eq_getElem hi) (List.getElem?_eq_getElem hi')
  rw [hname, hchildren]

theorem depthAll_le_iff : depthAll ts ≤ n ↔ ∀ t ∈ ts, t.depth ≤ n := by
  induction ts with
  | nil => simp [depthAll]
  | cons t ts ih => rw [depthAll, Nat.max_le, ih, List.forall_mem_cons]

/-- A tree is one level deeper than its children. -/
theorem depth_le_succ_iff :
    t.depth ≤ n + 1 ↔ ∀ (i : Nat) u, t.children[i]? = some u → u.depth ≤ n := by
  obtain ⟨m, cs⟩ := t
  have hall : (node m cs).depth ≤ n + 1 ↔ depthAll cs ≤ n := by
    simp only [depth]; omega
  rw [hall, depthAll_le_iff, children_node]
  constructor
  · intro h i u hu
    exact h u (List.mem_of_getElem? hu)
  · intro h u hu
    obtain ⟨i, hi⟩ := List.getElem?_of_mem hu
    exact h i u hi

/-- A tree whose root is not `?` contains it if one of the children does. -/
theorem containsTop_eq_any (h : t.isTop = false) :
    t.containsTop = t.children.any containsTop := by
  obtain ⟨m, cs⟩ := t
  have hm : Name.isTop m = false := h
  rw [Bool.eq_iff_iff, containsTop, hm, Bool.false_or, containsTopAny_iff, children_node,
    List.any_eq_true]

end TypeTree

theorem Compatibility.merge_eq_exact_iff {a b : Compatibility} :
    a.merge b = exact ↔ a = exact ∧ b = exact := by
  rcases a with ⟨_ | _, _ | _⟩ <;> rcases b with ⟨_ | _, _ | _⟩ <;> simp [merge, exact]

namespace Comparison

variable {l : Levels} {s t : TypeTree} {xs : List (Except Mismatch Compatibility)}

/-! ### A tree and itself -/

/-- Outcomes taken together, in each of which both sides leave something open or none does. -/
theorem combine_both {α : Type} (f : α → Bool) (as : List α) :
    combine (as.map fun a => .ok ⟨f a, f a⟩) = .ok ⟨as.any f, as.any f⟩ := by
  induction as with
  | nil => rfl
  | cons a as ih =>
    rw [List.map_cons, combine, ih]
    rfl

/-- **A tree agrees with itself,** if it is not too deep.  What is reported of both sides is whether
`?` occurs in the tree, whatever lies below it. -/
theorem outcome_self (h : l.depth + s.depth ≤ l.maxDepth.toNat) :
    (nested l s s).outcome = .ok ⟨s.containsTop, s.containsTop⟩ := by
  induction s using TypeTree.inductChildren generalizing l with
  | tree s ih =>
    have hpos := s.depth_pos
    have hnone : fault? l s s = none :=
      fault?_eq_none_iff.2 ⟨by omega, .inr (.inr ⟨rfl, rfl⟩)⟩
    by_cases htop : s.isTop = true
    · have hcontains : s.containsTop = true :=
        TypeTree.containsTop_iff.2 ⟨[], s, s.at?_nil, htop⟩
      rw [outcome_of_top hnone (.inl htop), htop, hcontains]
    · rw [Bool.not_eq_true] at htop
      -- below the root one more level is open, and each child is less deep
      have hbelow : ∀ u ∈ s.children,
          (nested (l.below 1) u u).outcome = .ok ⟨u.containsTop, u.containsTop⟩ := by
        intro u hu
        obtain ⟨i, hi⟩ := List.getElem?_of_mem hu
        have hdepth := TypeTree.depth_lt_of_child hi
        refine ih i u hi ?_
        simp only [Levels.below_depth, Levels.below_maxDepth]; omega
      rw [outcome_of_children hnone htop htop, childOutcomes, List.zipWith_self,
        List.map_congr_left hbelow, combine_both, TypeTree.containsTop_eq_any htop]

/-! ### Exact outcomes -/

/-- Outcomes are exact together if each of them is. -/
theorem combine_eq_exact_iff : combine xs = .ok .exact ↔ ∀ x ∈ xs, x = .ok .exact := by
  induction xs with
  | nil => simp [combine]
  | cons x xs ih =>
    rcases x with e | r
    · simp [combine]
    · rw [List.forall_mem_cons, ← ih, combine]
      rcases combine xs with e | r'
      · simp [Except.map]
      · simp [Except.map, Compatibility.merge_eq_exact_iff]

/-- Two nodes that agree exactly are the same tree, in which `?` does not occur and for which there
was room below the levels that were open already. -/
theorem of_outcome_exact (h : (nested l s t).outcome = .ok .exact) :
    s = t ∧ s.containsTop = false ∧ l.depth + s.depth ≤ l.maxDepth.toNat := by
  induction s using TypeTree.inductChildren generalizing l t with
  | tree s ih =>
    obtain ⟨e, -, he⟩ | ⟨-, htop, hr⟩ | ⟨hnone, ⟨hs, ht⟩, hc⟩ := outcome_cases l s t
    · simp [he] at h
    · -- a root named `?` is reported, on one side or on both
      simp only [hr, Except.ok.injEq, Compatibility.exact, Compatibility.mk.injEq] at h
      simp [h.1, h.2] at htop
    · obtain ⟨hname, hcount⟩ := eq_of_fault?_eq_none hnone hs ht
      have hroom := (fault?_eq_none_iff.1 hnone).1
      have hpair : ∀ (i : Nat) u v, s.children[i]? = some u → t.children[i]? = some v →
          u = v ∧ u.containsTop = false ∧ l.depth + 1 + u.depth ≤ l.maxDepth.toNat := by
        intro i u v hu hv
        rw [hc, combine_eq_exact_iff] at h
        exact ih i u hu (h _ (outcome_mem_childOutcomes l hu hv))
      obtain rfl : s = t :=
        TypeTree.ext_children hname hcount fun i u v hu hv => (hpair i u v hu hv).1
      refine ⟨rfl, ?_, ?_⟩
      · exact TypeTree.containsTop_eq_false_iff.2 ⟨hs, fun i u hu => (hpair i u u hu hu).2.1⟩
      · have hdepth : s.depth ≤ (l.maxDepth.toNat - l.depth - 1) + 1 := by
          refine TypeTree.depth_le_succ_iff.2 fun i u hu => ?_
          have hu := (hpair i u u hu hu).2.2
          omega
        omega

/-- **Exact agreement is equality,** of trees that are known throughout and not too deep. -/
theorem outcome_eq_exact_iff : (nested l s t).outcome = .ok .exact ↔
    s = t ∧ s.containsTop = false ∧ l.depth + s.depth ≤ l.maxDepth.toNat := by
  refine ⟨of_outcome_exact, ?_⟩
  rintro ⟨rfl, hknown, hroom⟩
  rw [outcome_self hroom, hknown]
  rfl

/-- **Exact agreement is equality, and only known trees agree exactly with themselves.**  Two trees
agree exactly if they are equal, `?` occurs nowhere in them, and they have no more levels than a
comparison may open.  A tree with no more levels in which `?` occurs is found to leave something
open on both sides when it is compared with itself, also if something lies below `?`. -/
theorem ofTrees_exact_iff (maxDepth : UInt32) :
    (∀ s t : TypeTree, (ofTrees (.new maxDepth) s t).outcome = .ok .exact ↔
      s = t ∧ s.containsTop = false ∧ s.depth ≤ maxDepth.toNat) ∧
    ∀ x : TypeTree, x.depth ≤ maxDepth.toNat → x.containsTop = true →
      (ofTrees (.new maxDepth) x x).outcome = .ok .both := by
  have hroom : ∀ x : TypeTree, (Levels.new maxDepth).depth + x.depth ≤
      (Levels.new maxDepth).maxDepth.toNat ↔ x.depth ≤ maxDepth.toNat := by
    intro x
    simp [Levels.new]
  constructor
  · intro s t
    rw [← hroom]
    exact outcome_eq_exact_iff
  · intro x hdepth htop
    have hself : (ofTrees (.new maxDepth) x x).outcome = .ok ⟨x.containsTop, x.containsTop⟩ :=
      outcome_self ((hroom x).2 hdepth)
    rw [hself, htop]
    rfl

/-- A map whose keys are `?` with a name below it, compared with itself: three levels suffice to
find that both sides leave the keys open. -/
theorem ofTrees_exact_iff_openKeys :
    let x := TypeTree.node "a.Map" [.node "?" [.leaf "b.Key"], .leaf "a.List"]
    x.depth ≤ (3 : UInt32).toNat ∧ x.containsTop = true ∧
      (ofTrees (.new 3) x x).outcome = .ok .both := by
  intro x
  have hdepth : x.depth ≤ (3 : UInt32).toNat := by decide +kernel
  have htop : x.containsTop = true := by decide +kernel
  exact ⟨hdepth, htop, (ofTrees_exact_iff 3).2 x hdepth htop⟩

end Comparison

end TypeAncestry
