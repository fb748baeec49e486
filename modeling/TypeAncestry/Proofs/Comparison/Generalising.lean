import TypeAncestry.Proofs.Comparison.FirstFault

/-!
# A tree agrees with every generalisation of it

If `?` is put in the place of some subtrees of a tree, the tree and what comes of it agree: from the
root down to the places where something was replaced they have the same names and numbers of
children, and there a comparison stops.  So it sees all of the more general tree, and of the other
one all that is not below a replaced place.

* `Comparison.compared_generalise_iff` : the positions that are looked at are those of the more
  general tree.
* `Comparison.outcome_generalise` : the trees agree, and what is reported of them.
-/

namespace TypeAncestry

namespace Comparison

variable {l : Levels} {t : TypeTree} {chosen : Position → Bool} {p : Position}

/-- No position of a generalised tree shows a fault, if there is room for all its levels. -/
theorem not_faultAt_generalise (hroom : l.depth + (t.generalise chosen).depth ≤ l.maxDepth.toNat) :
    ∀ e, ¬ FaultAt l t (t.generalise chosen) p e := by
  rintro e ⟨u, v, hu, hv, he⟩
  have hlen := TypeTree.length_lt_depth hv
  have hnone : fault? (l.below p.length) u v = none := by
    refine fault?_eq_none_iff.2 ⟨?_, .inr ?_⟩
    · rw [Levels.below_depth, Levels.below_maxDepth]
      omega
    · obtain ⟨u', hu', rfl | ⟨-, hname, hcount⟩⟩ := TypeTree.exists_of_at?_generalise hv
      · exact .inl rfl
      · obtain rfl : u = u' := Option.some.inj (hu.symm.trans hu')
        exact .inr ⟨hname, hcount⟩
  rw [hnone] at he
  cases he

/-- A comparison of a tree with a generalisation of it looks at the positions of the latter, if
nothing stands below `?` there. -/
theorem compared_generalise_iff
    (hroom : l.depth + (t.generalise chosen).depth ≤ l.maxDepth.toNat)
    (hleaf : ∀ q w, (t.generalise chosen).at? q = some w → w.name = Name.top → w.children = []) :
    Compared l t (t.generalise chosen) p ↔ ∃ v, (t.generalise chosen).at? p = some v := by
  constructor
  · exact fun h => h.2.1
  · rintro ⟨v, hv⟩
    obtain ⟨u, hu, -⟩ := TypeTree.exists_of_at?_generalise hv
    refine ⟨⟨u, hu⟩, ⟨v, hv⟩, fun q hq => ?_⟩
    -- a node above another one has children, so it is not `?` and was not replaced
    obtain ⟨w, hw, hne⟩ := TypeTree.exists_at?_of_above hv hq
    have htop : w.name ≠ Name.top := fun he => hne (hleaf q w hw he)
    obtain ⟨u', hu', rfl | ⟨-, hname, hcount⟩⟩ := TypeTree.exists_of_at?_generalise hw
    · exact absurd rfl htop
    · have hlen := TypeTree.length_lt_depth hw
      exact ⟨by omega, u', w, hu', hw, hname, hname ▸ htop, hcount⟩

/-- **A tree agrees with every generalisation of it** in which nothing stands below `?`.  Of the
tree it is reported whether `?` stands in it at a position below no chosen one, and of the more
general tree whether it contains `?`. -/
theorem outcome_generalise
    (hroom : l.depth + (t.generalise chosen).depth ≤ l.maxDepth.toNat)
    (hleaf : ∀ q w, (t.generalise chosen).at? q = some w → w.name = Name.top → w.children = []) :
    ∃ r, (nested l t (t.generalise chosen)).outcome = .ok r ∧
      (r.sourceUnknown = true ↔ ∃ p u, t.at? p = some u ∧ u.isTop = true ∧
        ∀ q, q.Above p → chosen q = false) ∧
      (r.targetUnknown = true ↔ (t.generalise chosen).containsTop = true) := by
  rcases h : (nested l t (t.generalise chosen)).outcome with e | r
  · obtain ⟨p, -, hfault, -⟩ := exists_of_outcome_error h
    exact absurd hfault (not_faultAt_generalise hroom e)
  · obtain ⟨-, hsource, htarget⟩ := outcome_eq_ok_iff.1 h
    simp only [compared_generalise_iff hroom hleaf] at hsource htarget
    refine ⟨r, rfl, hsource.trans ⟨?_, ?_⟩, htarget.trans ?_⟩
    · rintro ⟨p, u, ⟨v, hv⟩, hu, htop⟩
      exact ⟨p, u, hu, htop, TypeTree.not_chosen_of_at?_generalise hv⟩
    · rintro ⟨p, u, hu, htop, habove⟩
      exact ⟨p, u, TypeTree.exists_at?_generalise hu habove, hu, htop⟩
    · rw [TypeTree.containsTop_iff]
      constructor
      · rintro ⟨p, v, -, hv, htop⟩
        exact ⟨p, v, hv, htop⟩
      · rintro ⟨p, v, hv, htop⟩
        exact ⟨p, v, ⟨v, hv⟩, hv, htop⟩

end Comparison

end TypeAncestry
