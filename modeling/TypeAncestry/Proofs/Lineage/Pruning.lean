import TypeAncestry.Proofs.Lineage.Budget
import TypeAncestry.Registry.Core

/-!
# Filters prune

A filter is asked before a type is expanded, and what it keeps out is not expanded at all.  So it
spares the walk steps, and the guard never comes to know the types that would have been opened
there.  What is left is none the less what stands there without filters.

* `Oracle.lineage_tree_prune` : filters do nothing but delete subtrees.
-/

namespace TypeAncestry

namespace Oracle

variable {H : Type} [DecidableEq H]

/-- **Filters do nothing but delete subtrees.**  As long as the walk without filters stays within
its budget, whether or not it is cut off by depth or by cycles, its tree is that of the outline, and
the tree with filters is what is left of the outline when every child is deleted whose name the
filter for its role matches. -/
theorem lineage_tree_prune (o : Oracle H) (f : Filters) (limits : Limits) (s : Subject H)
    (h : (o.lineage .none limits s).steps ≤ limits.maxSteps.toNat) :
    (o.lineage .none limits s).tree = (o.subjectOutline limits s).tree ∧
      (o.lineage f limits s).tree = ((o.subjectOutline limits s).prune f).tree := by
  obtain ⟨htree, hsteps, -⟩ := o.lineage_eq_outline .none limits s (.inl h)
  rw [Outline.prune_none] at htree hsteps
  refine ⟨htree, ?_⟩
  -- fewer expansions are tried with filters, so they are afforded too
  have hle := Outline.tries_prune_le (f := f) (o.subjectOutline limits s)
  rw [hsteps] at h
  exact (o.lineage_eq_outline f limits s (.inr (by omega))).1

end Oracle

/-- A registry in which a type descends from itself and from a list of itself. -/
def Registry.cyclic : Registry :=
  .addAll .empty
    [{ TypeDef.class_ "a.Node" with
        typeParameters := ["T"]
        superType := some (.plain ⟨2⟩)
        interfaces := [.applied ⟨3⟩ [.applied ⟨1⟩ [.var "T"], .plain ⟨2⟩]] },
      { TypeDef.class_ "a.Base" with superType := some (.plain ⟨1⟩) },
      .interface "a.List"]

/-- Filters that keep out the arguments called `a.Node`. -/
def Filters.noNodes : Filters :=
  { Filters.none with argument := some ⟨"a[.]Node", fun n => n == "a.Node"⟩ }

/-- Without filters the lineage of `a.Node` is cut off by depth and by cycles; the filter deletes
one argument with all that stands below it. -/
theorem lineage_tree_prune_cyclic :
    (Registry.cyclic.oracle.lineage .none ⟨4, 100⟩ (.type ⟨1⟩)).steps ≤
        (⟨4, 100⟩ : Limits).maxSteps.toNat ∧
      (Registry.cyclic.oracle.lineage .none ⟨4, 100⟩ (.type ⟨1⟩)).tree =
        .node "a.Node"
          [.leaf "?",
            .node "a.List"
              [.node "a.Node" [.leaf "?", .leaf "a.List", .node "a.Base" [.leaf "a.Node"]],
                .leaf "a.Base"],
            .node "a.Base" [.leaf "a.Node"]] ∧
      (Registry.cyclic.oracle.lineage .noNodes ⟨4, 100⟩ (.type ⟨1⟩)).tree =
        .node "a.Node"
          [.leaf "?", .node "a.List" [.leaf "a.Base"], .node "a.Base" [.leaf "a.Node"]] := by
  have hbudget : (Registry.cyclic.oracle.lineage .none ⟨4, 100⟩ (.type ⟨1⟩)).steps ≤
      (⟨4, 100⟩ : Limits).maxSteps.toNat := by decide +kernel
  obtain ⟨htree, hpruned⟩ := Oracle.lineage_tree_prune _ .noNodes _ _ hbudget
  exact ⟨hbudget, htree.trans (by decide +kernel), hpruned.trans (by decide +kernel)⟩

end TypeAncestry
