import TypeAncestry.Check.Basic
import TypeAncestry.Proofs.Comparison.Generalising
import TypeAncestry.Proofs.Lineage.Keeping
import TypeAncestry.Proofs.Lineage.Transparency
import TypeAncestry.Proofs.Signature.RoundTrip

/-!
# Subjects fit their own signatures

The lineage of a subject can be written down as a signature, if its names allow it and it is not too
deep.  The subject then fits this signature, and it fits every signature that leaves parts of it
open: what is written is read back as the same tree, and the lineage agrees with every
generalisation of it.

* `TypeTree.compare_generalise`, `TypeTree.compare_self` : comparing a tree with generalisations of
  it, and with itself.
* `Checked.Answers` : a check comes to its end with a result.
* `Oracle.check_render` : checking against what is written for a tree compares with the tree.
* `Oracle.check_own_signature` : what comes of checking a subject against its own signature and the
  generalisations of it.
-/

namespace TypeAncestry

namespace TypeTree

variable {t u : TypeTree}

/-- In a well-named tree nothing stands below `?`. -/
theorem WellNamed.children_of_top {p : Position} (h : t.WellNamed) (hu : t.at? p = some u)
    (htop : u.name = Name.top) : u.children = [] :=
  (h u (mem_preorder_of_at? hu)).2 htop

/-- Comparing a tree with a generalisation of it that is well-named and not too deep. -/
theorem compare_generalise (chosen : Position → Bool) (h : (t.generalise chosen).WellNamed)
    (hdepth : (t.generalise chosen).depth ≤ 1024) :
    ∃ r, (t.compare (t.generalise chosen)).outcome = .ok r ∧
      (r.sourceUnknown = true ↔ ∃ p u, t.at? p = some u ∧ u.isTop = true ∧
        ∀ q, q.Above p → chosen q = false) ∧
      (r.targetUnknown = true ↔ (t.generalise chosen).containsTop = true) := by
  have hroom : (Levels.new Limits.comparison.maxDepth).depth + (t.generalise chosen).depth ≤
      (Levels.new Limits.comparison.maxDepth).maxDepth.toNat :=
    (Nat.zero_add _).trans_le hdepth
  exact Comparison.outcome_generalise hroom fun q w hw => h.children_of_top hw

/-- A tree that is compared with itself agrees exactly if it does not contain `?`. -/
theorem compare_self (h : t.WellNamed) (hdepth : t.depth ≤ 1024) :
    (t.compare t).outcome = .ok (if t.containsTop then .both else .exact) := by
  -- as nothing is replaced, the same is reported of both sides
  obtain ⟨⟨source, target⟩, hr, hsource, htarget⟩ := compare_generalise (t := t) (fun _ => false)
    (t.generalise_none.symm ▸ h) (t.generalise_none.symm ▸ hdepth)
  rw [generalise_none] at hr htarget
  have hs : source = t.containsTop := by
    rw [Bool.eq_iff_iff, hsource, containsTop_iff]
    simp
  have ht : target = t.containsTop := Bool.eq_iff_iff.2 htarget
  rw [hr, hs, ht]
  rcases t.containsTop <;> rfl

end TypeTree

/-- A check ends with the result `x`, and neither the guard of the lineage nor the counter of the
comparison was misused on the way. -/
structure Checked.Answers {H : Type} (c : Checked H) (x : Except Failure Compatibility) : Prop where
  outcome : c.outcome = x
  lineage : ∀ l ∈ c.lineage?, l.misuse = none
  comparison : ∀ d ∈ c.comparison?, d.misuse = none

namespace Oracle

variable {H : Type} [DecidableEq H]

/-- A check against what is written for a printable tree is a comparison with the tree. -/
theorem check_render (o : Oracle H) (filters : Option Filters) (s : Subject H) {u : TypeTree}
    (h : u.Printable) :
    (o.check filters s u.render).Answers
      (((o.ancestryWith filters s).tree.compare u).outcome.mapError .mismatch) := by
  rw [check, Signature.ofSignature_of_printable h]
  refine ⟨rfl, fun l hl => ?_, fun d hd => ?_⟩
  · obtain rfl := Option.some.inj hl
    exact o.lineage_misuse _ _ s
  · obtain rfl := Option.some.inj hd
    exact TypeTree.compare_misuse _ u

/-- **A subject fits its own signature and every generalisation of it.**  If subtrees of its lineage
are replaced by `?` and what comes of it is printable, the check of the subject against what is
written for it succeeds.  It reports of the lineage whether `?` stands in it elsewhere than inside a
replaced subtree, and of the signature whether it contains `?`.  The signature of the lineage itself
is matched exactly if the lineage does not contain `?`, and otherwise both sides are reported. -/
theorem check_own_signature (o : Oracle H) (filters : Option Filters) (s : Subject H) :
    let t := (o.ancestryWith filters s).tree
    (∀ chosen : Position → Bool, (t.generalise chosen).Printable →
      ∃ r, (o.check filters s (t.generalise chosen).render).Answers (.ok r) ∧
        (r.sourceUnknown = true ↔ ∃ p u, t.at? p = some u ∧ u.isTop = true ∧
          ∀ q, q.Above p → chosen q = false) ∧
        (r.targetUnknown = true ↔ (t.generalise chosen).containsTop = true)) ∧
    (t.Printable →
      (o.check filters s t.render).Answers (.ok (if t.containsTop then .both else .exact))) := by
  intro t
  -- what can be written down is much less deep than what can be compared
  constructor
  · intro chosen h
    have ⟨hwell, hdepth⟩ := h
    obtain ⟨r, hr, hmarks⟩ := t.compare_generalise chosen hwell (by omega)
    have hcheck := o.check_render filters s h
    rw [hr] at hcheck
    exact ⟨r, hcheck, hmarks⟩
  · intro h
    have ⟨hwell, hdepth⟩ := h
    have hcheck := o.check_render filters s h
    rw [TypeTree.compare_self hwell (by omega)] at hcheck
    exact hcheck

end Oracle

/-- The lineage of a matrix contains `?`, but all of it lies within the two parts that are replaced.
So only the signature is found to leave something open, unless it is the signature of the whole
lineage. -/
theorem check_own_signature_matrix :
    let o := Registry.matrix.oracle
    let t := (o.ancestryWith none (.type ⟨1⟩)).tree
    let chosen : Position → Bool := fun p => p == [0] || p == [1, 0, 1]
    ((t.generalise chosen).Printable ∧
      (t.generalise chosen).render = "a.Matrix<?, a.Base<a.List<a.Number, ?>>>" ∧
      (o.check none (.type ⟨1⟩) (t.generalise chosen).render).Answers (.ok .ofTarget)) ∧
    t.Printable ∧ (o.check none (.type ⟨1⟩) t.render).Answers (.ok .both) := by
  intro o t chosen
  have hprintable : (t.generalise chosen).Printable := by decide +kernel
  have hwhole : t.Printable := by decide +kernel
  have htop : t.containsTop = true := by decide +kernel
  obtain ⟨hgeneral, hself⟩ := Registry.matrix.oracle.check_own_signature none (.type ⟨1⟩)
  obtain ⟨r, hr, -, -⟩ := hgeneral chosen hprintable
  have hown := hself hwhole
  rw [if_pos htop] at hown
  have hresult : (o.check none (.type ⟨1⟩) (t.generalise chosen).render).outcome =
      .ok .ofTarget := by decide +kernel
  obtain rfl := Except.ok.inj (hr.outcome.symm.trans hresult)
  exact ⟨⟨hprintable, by decide +kernel, hr⟩, hwhole, hown⟩

end TypeAncestry
