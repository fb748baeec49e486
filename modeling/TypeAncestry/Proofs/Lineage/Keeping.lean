import Mathlib.Data.List.Forall2
import TypeAncestry.Proofs.Lineage.Budget

/-!
# What every walk keeps

Whatever a walk meets, be it cycles or limits, it leaves each type that it has entered, the latest
first.  So an expansion gives the guard back as it found it but for its counts, and the guard of a
complete lineage has nothing open.

* `Walk.Keeps` : nothing has been entered that was not left again.
* `Walk.expandWith_cases` : the two ways in which an expansion goes.
* `Walk.expand_keeps` : every expansion keeps the guard.
* `Walk.Reports` : a budget that is exceeded has been reported.
* `Filters.kept`, `Walk.attach_forall₂` : what comes to stand below a type.
* `Oracle.lineage_misuse`, `Oracle.lineage_reports` : the same for the lineage of a subject.
-/

namespace TypeAncestry

/-- The candidates that no filter keeps out. -/
def Filters.kept {H : Type} (f : Filters) (cs : List (Candidate H)) : List (Candidate H) :=
  cs.filter fun c => !f.excludes c.role.filterKind c.name

section Kept

variable {H : Type} {f : Filters} {c : Candidate H}

theorem Filters.kept_of_excluded (cs : List (Candidate H))
    (h : f.excludes c.role.filterKind c.name = true) : f.kept (c :: cs) = f.kept cs :=
  List.filter_cons_of_neg (by simp [h])

theorem Filters.kept_of_not_excluded (cs : List (Candidate H))
    (h : f.excludes c.role.filterKind c.name = false) : f.kept (c :: cs) = c :: f.kept cs :=
  List.filter_cons_of_pos (by simp [h])

theorem Filters.kept_none (cs : List (Candidate H)) : Filters.none.kept cs = cs :=
  List.filter_eq_self.2 fun _ _ => by simp

end Kept

namespace Walk

variable {H : Type} [DecidableEq H] {o : Oracle H} {f : Filters} {u v w w' : Walk H}

/-! ### The guard -/

/-- Between `w` and `w'` nothing has been entered that was not left again, and the guard has not
been misused. -/
structure Keeps (w w' : Walk H) : Prop where
  limits : w'.guard.limits = w.guard.limits
  active : w'.guard.active = w.guard.active
  depth : w'.guard.depth = w.guard.depth
  misuse : w'.misuse = w.misuse

namespace Keeps

omit [DecidableEq H] in
theorem refl (w : Walk H) : Keeps w w := ⟨rfl, rfl, rfl, rfl⟩

omit [DecidableEq H] in
theorem trans (huv : Keeps u v) (hvw : Keeps v w) : Keeps u w :=
  ⟨hvw.limits.trans huv.limits, hvw.active.trans huv.active, hvw.depth.trans huv.depth,
    hvw.misuse.trans huv.misuse⟩

omit [DecidableEq H] in
theorem note (w : Walk H) (es : List LineageEvent) : Keeps w (w.note es) := ⟨rfl, rfl, rfl, rfl⟩

/-- Leaving the type that was entered last takes the guard back to where it was before. -/
theorem leave {t : Target H} (h : Keeps (w.opened t) w') : Keeps w (w'.leave t) := by
  have hactive : w'.guard.active = t :: w.guard.active := h.active
  unfold Walk.leave
  rw [Guard.leave_head hactive]
  refine ⟨h.limits, rfl, ?_, h.misuse⟩
  have hdepth : w'.guard.depth = w.guard.depth + 1 := h.depth
  simp only [hdepth, Nat.add_sub_cancel]

end Keeps

/-- **The two ways in which an expansion goes**: it is refused and leaves a leaf, or the type, which
was not open, is entered, its candidates are attached, and it is left again. -/
theorem expandWith_cases (o : Oracle H) (f : Filters)
    (grow : Target H → Walk H → TypeTree × Walk H) (t : Target H) (w : Walk H) :
    (∃ e cut, e ≠ .entered ∧ w.guard.enter t = (e, w.guard.advance 1 cut) ∧
      expandWith o f grow t w =
        (.leaf (o.canonicalName t.handle),
          { w with guard := w.guard.advance 1 cut }.note
            [.cutOff (o.canonicalName t.handle) e w.guard.depth])) ∨
    (t ∉ w.guard.active ∧ w.guard.enter t = (.entered, w.guard.opened t) ∧
      expandWith o f grow t w =
        (let r := attach f grow (o.layer t).candidates (w.opened t)
         (.node (o.canonicalName t.handle) r.1,
          ((r.2.note (o.layer t).remarks).leave t).note
            [.built (o.canonicalName t.handle) r.1.length]))) := by
  obtain ⟨-, h⟩ | ⟨-, h⟩ | ⟨-, -, h⟩ | ⟨-, hmem, h⟩ := w.guard.enter_cases t
  · exact .inl ⟨_, _, by decide, h, expandWith_denied h (by decide)⟩
  · exact .inl ⟨_, _, by decide, h, expandWith_denied h (by decide)⟩
  · exact .inl ⟨_, _, by decide, h, expandWith_denied h (by decide)⟩
  · exact .inr ⟨hmem, h, expandWith_entered h⟩

theorem expandWith_keeps {grow : Target H → Walk H → TypeTree × Walk H}
    (hgrow : ∀ t w, Keeps w (grow t w).2) (t : Target H) (w : Walk H) :
    Keeps w (expandWith o f grow t w).2 := by
  obtain ⟨e, cut, -, -, h⟩ | ⟨-, -, h⟩ := expandWith_cases o f grow t w
  · rw [h]
    exact ⟨rfl, rfl, rfl, rfl⟩
  · rw [h]
    have hattach := attach_rel (f := f) Keeps.refl Keeps.trans Keeps.note hgrow
      (o.layer t).candidates (w.opened t)
    exact (hattach.trans (.note _ _)).leave.trans (.note _ _)

/-- **Every expansion keeps the guard,** within its limits and beyond them. -/
theorem expand_keeps (levels : Nat) :
    ∀ (t : Target H) (w : Walk H), Keeps w (expand o f levels t w).2 := by
  induction levels with
  | zero => exact expandWith_keeps fun _ w => .refl w
  | succ levels ih => exact expandWith_keeps ih

/-! ### The report of a limit -/

/-- If the budget of steps is exceeded, it has been reported that a limit was reached. -/
def Reports (w : Walk H) : Prop :=
  w.guard.truncated = false → w.guard.steps ≤ w.guard.limits.maxSteps.toNat

theorem reports_enter (w : Walk H) (t : Target H) :
    Reports { w with guard := (w.guard.enter t).2 } := by
  unfold Reports
  simp only [Guard.enter]
  split
  · intro hcut
    cases hcut
  · next hsteps =>
    split
    · intro hcut
      cases hcut
    · split <;> exact fun _ => Nat.le_of_not_lt hsteps

theorem Reports.leave (h : w.Reports) (t : Target H) : (w.leave t).Reports := by
  unfold Walk.leave
  split
  · next g hg =>
    unfold Guard.leave at hg
    split at hg
    · obtain rfl := Except.ok.inj hg
      exact h
    · cases hg
  · exact h

/-- A walk that has reported what it exceeded goes on to do so. -/
theorem expand_reports (levels : Nat) (t : Target H) (w : Walk H) (h : w.Reports) :
    (expand o f levels t w).2.Reports :=
  expand_rel (R := fun w w' => w.Reports → w'.Reports) (fun _ h => h)
    (fun huv hvw h => hvw (huv h)) (fun _ _ h => h) (fun w t _ => w.reports_enter t)
    (fun _ t h => h.leave t) levels t w h

/-! ### What stands below a type -/

omit [DecidableEq H] in
/-- Below a type stand, in order, the leaves of the candidates without a target and the trees that
`grow` makes of the targets of the others; what filters keep out is missing.  An invariant `I` that
`grow` keeps holds when each of them is made. -/
theorem attach_forall₂ {P : Candidate H → TypeTree → Prop} {I : Walk H → Prop}
    {grow : Target H → Walk H → TypeTree × Walk H} (note : ∀ w es, I w → I (w.note es))
    (hgrow : ∀ t w, I w → I (grow t w).2) (cs : List (Candidate H)) :
    ∀ w, I w → (∀ c ∈ f.kept cs, c.target = none → P c (.leaf c.name)) →
      (∀ c ∈ f.kept cs, ∀ t, c.target = some t → ∀ w, I w → P c (grow t w).1) →
      List.Forall₂ P (f.kept cs) (attach f grow cs w).1 := by
  induction cs with
  | nil => exact fun _ _ _ _ => .nil
  | cons c cs ih =>
    intro w hw hleaf htarget
    have hnote := note w c.remarks hw
    rcases hx : f.excludes c.role.filterKind c.name
    · rw [Filters.kept_of_not_excluded cs hx] at hleaf htarget ⊢
      obtain ⟨hleaf, hleaves⟩ := List.forall_mem_cons.1 hleaf
      obtain ⟨htarget, htargets⟩ := List.forall_mem_cons.1 htarget
      rcases ht : c.target with _ | t
      · rw [attach_leaf hx ht]
        exact .cons (hleaf ht) (ih _ hnote hleaves htargets)
      · rw [attach_target hx ht]
        exact .cons (htarget t ht _ hnote) (ih _ (hgrow t _ hnote) hleaves htargets)
    · rw [Filters.kept_of_excluded cs hx] at hleaf htarget ⊢
      rw [attach_excluded hx]
      exact ih _ (note _ _ hnote) hleaf htarget

end Walk

namespace Oracle

variable {H : Type} [DecidableEq H] (o : Oracle H) (f : Filters) (limits : Limits)

/-- The lineage of a subject that leads to a type is what the expansion of the type ends with. -/
theorem exists_lineage_eq_expand {s : Subject H} {h : H} (hs : o.root? s = some h) :
    ∃ es : List LineageEvent,
      let r := Walk.expand o f limits.maxDepth.toNat (.declared h) ((Walk.new limits).note es)
      o.lineage f limits s = .ofWalk r.1 r.2 := by
  cases s with
  | type k =>
    obtain rfl := Option.some.inj hs
    exact ⟨_, rfl⟩
  | null => cases hs
  | value tag =>
    obtain ⟨k, hk, rfl⟩ := Option.map_eq_some_iff.1 hs
    simp only [lineage, hk]
    exact ⟨_, rfl⟩

/-- The lineage of a subject that leads to no type has one node, and nothing was tried for it. -/
theorem lineage_of_rootless {s : Subject H} (hs : o.root? s = none) :
    Agrees (o.lineage f limits s) (.node none (rootlessName s) none []) := by
  have hx : (o.subjectOutline limits s).prune f = .node none (rootlessName s) none [] := by
    rw [subjectOutline, hs]
    rfl
  rw [← hx]
  refine o.lineage_eq_outline f limits s (.inr ?_)
  rw [hx]
  exact Nat.zero_le _

/-- The walk that makes a lineage keeps its guard, and reports what it exceeds. -/
theorem exists_lineage_eq_ofWalk (s : Subject H) :
    ∃ tree w, o.lineage f limits s = .ofWalk tree w ∧ (Walk.new limits).Keeps w ∧ w.Reports := by
  have hnew : (Walk.new (H := H) limits).Reports := fun _ => Nat.zero_le _
  rcases hs : o.root? s with _ | h
  · cases s with
    | type k => cases hs
    | null => exact ⟨_, _, rfl, .refl _, hnew⟩
    | value tag =>
      have ht : o.runtimeType tag = none := Option.map_eq_none_iff.1 hs
      simp only [lineage, ht]
      exact ⟨_, _, rfl, .note _ _, hnew⟩
  · obtain ⟨es, hl⟩ := o.exists_lineage_eq_expand f limits hs
    exact ⟨_, _, hl, (Walk.Keeps.note _ es).trans (Walk.expand_keeps _ _ _),
      Walk.expand_reports _ _ _ hnew⟩

/-- **The guard of a lineage is never misused**, whatever the limits. -/
theorem lineage_misuse (s : Subject H) : (o.lineage f limits s).misuse = none := by
  obtain ⟨tree, w, hl, hkeeps, -⟩ := o.exists_lineage_eq_ofWalk f limits s
  rw [hl, Lineage.ofWalk, Guard.abandon, hkeeps.misuse, hkeeps.active]
  rfl

/-- A lineage that does not report a limit has stayed within its budget. -/
theorem lineage_reports {s : Subject H} (h : (o.lineage f limits s).truncated = false) :
    (o.lineage f limits s).steps ≤ limits.maxSteps.toNat := by
  obtain ⟨tree, w, hl, hkeeps, hreports⟩ := o.exists_lineage_eq_ofWalk f limits s
  rw [hl] at h ⊢
  have hsteps := hreports h
  rw [hkeeps.limits] at hsteps
  exact hsteps

end Oracle

end TypeAncestry
