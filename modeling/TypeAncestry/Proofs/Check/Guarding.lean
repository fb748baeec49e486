import TypeAncestry.Proofs.Lineage.Calls
import TypeAncestry.Proofs.Lineage.Pruning
import TypeAncestry.Proofs.Signature.Nesting

/-!
# Guards are left as they are entered

Two recursions of a check are watched: the walk that builds a lineage by a guard, and the reading of
a signature by a counter of levels.  Neither depends on what comes of it: a type that is refused is
not left, brackets that are open at a fault are closed, and in the end nothing is open.

* `Oracle.check_guarded` : neither the guard nor the counter is ever misused.
-/

namespace TypeAncestry

open Signature

variable {H : Type} [DecidableEq H]

/-- **Neither the guard nor the counter is ever misused.**  Whatever the oracle, the subject, the
filters and the limits, the walk leaves only types that are active, and in the end none is, so that
the guard may be given up.  Whatever the text, at every moment of reading it the counter is at the
number of open brackets, also while brackets are closed because of a fault; so no level is left that
is not open, and in the end none is.  Reading by descent, where every call that has entered the
counter leaves it before it returns, with a value or a fault, has the same counter in the end and
the same misuse, which is none. -/
theorem Oracle.check_guarded (o : Oracle H) (f : Filters) (limits : Limits) (s : Subject H)
    (text : String) :
    let l := o.lineage f limits s
    let r := Reading.ofText text
    ((∃ x, o.IsCourse f limits s x ∧ (Guard.new limits).after x.calls = l.guard ∧
        (Guard.new limits).LeavesActive x.calls) ∧
      l.guard.depth = 0 ∧ l.guard.active = [] ∧ l.guard.abandon = none ∧ l.misuse = none) ∧
    (∀ m, Reading.Reaches text m → ∀ front rest, m.stack = front ++ rest →
        (m.unwind front).levels.depth = Reading.openBrackets rest ∧
          (m.unwind front).misuse = none) ∧
      (r.levels.depth = 0 ∧ r.levels.abandon = none ∧ r.misuse = none) ∧
      (Descent.ofText text).levels = r.levels ∧ (Descent.ofText text).misuse = r.misuse := by
  intro l r
  constructor
  · obtain ⟨x, hx⟩ := o.exists_isCourse f limits s
    obtain ⟨hends, hactive⟩ := hx.performs
    have hrestored := o.restored_lineage f limits s
    refine ⟨⟨x, hx, hends, hactive⟩, hrestored.depth, hrestored.active, ?_,
      o.lineage_misuse f limits s⟩
    rw [Guard.abandon, hrestored.active]
    rfl
  · obtain ⟨hlevels, hmisuse⟩ := Reading.ofText_restores text
    obtain ⟨-, hlevels', hmisuse', -⟩ := Descent.ofText_eq text
    refine ⟨fun m hm front rest hstack => ?_,
      ⟨by rw [hlevels]; rfl, by rw [hlevels]; rfl, hmisuse⟩, hlevels', hmisuse'⟩
    have hcounted := Reading.Counted.unwind front (hstack ▸ hm.counted)
    exact ⟨hcounted.depth, hcounted.misuse⟩

/-- A walk that is cut off by cycles and by both limits, and a text that ends where two brackets are
open. -/
theorem check_guarded_cyclic :
    let l := Registry.cyclic.oracle.lineage .none ⟨2, 3⟩ (.type ⟨1⟩)
    let r := Reading.ofText "a.Map<a.K, ? extends a.List<a.V"
    l.truncated = true ∧ l.guard.active = [] ∧ l.misuse = none ∧
      TypeTree.ofSignature "a.Map<a.K, ? extends a.List<a.V" = .error (.unexpectedEnd 31) ∧
      r.levels.depth = 0 ∧ r.misuse = none ∧
      (Descent.ofText "a.Map<a.K, ? extends a.List<a.V").misuse = none := by
  intro l r
  obtain ⟨⟨-, -, hactive, -, hwalk⟩, -, ⟨hdepth, -, hreading⟩, -, hdescent⟩ :=
    Registry.cyclic.oracle.check_guarded .none ⟨2, 3⟩ (.type ⟨1⟩) "a.Map<a.K, ? extends a.List<a.V"
  exact ⟨by decide +kernel, hactive, hwalk, by decide +kernel, hdepth, hreading,
    hdescent.trans hreading⟩

end TypeAncestry
