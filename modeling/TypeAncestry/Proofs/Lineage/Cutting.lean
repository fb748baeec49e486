import TypeAncestry.Proofs.Lineage.Keeping
import TypeAncestry.Proofs.Lineage.Pruning
import TypeAncestry.Proofs.Tree.Positions

/-!
# Limits cut

Two walks over the same types with different limits go different ways once one of them is refused
something: what is cut off in one place leaves more of the budget for another.  But if one of the
walks is not cut off by its limits, its tree is an outline that no limit has touched, and whatever
the other walk builds is this outline cut short.

* `Oracle.prune_outline_of_le` : an outline that is not cut off by depth does not change if more
  levels may be opened.
* `Walk.expand_buildsCuts` : an expansion, whatever its limits, builds a cut of such an outline.
* `Oracle.lineage_of_limits` : what other limits do to a lineage that is not truncated.
-/

namespace TypeAncestry

namespace Outline

theorem treeAll_eq_map (xs : List Outline) : treeAll xs = xs.map tree := by
  induction xs with
  | nil => rfl
  | cons x xs ih => rw [treeAll, ih, List.map_cons]

theorem cutByDepthAny_eq_false_iff {xs : List Outline} :
    cutByDepthAny xs = false ↔ ∀ x ∈ xs, x.cutByDepth = false := by
  induction xs with
  | nil => simp [cutByDepthAny]
  | cons x xs ih => simp [cutByDepthAny, ih]

end Outline

/-! ### Outlines that are not cut off by depth -/

namespace Oracle

variable {H : Type} [DecidableEq H] {o : Oracle H} {f : Filters} {levels levels' : Nat}
  {path : List (Target H)} {role : Option Role} {t : Target H}

/-- Pruning the outlines of candidates leaves those that no filter keeps out. -/
theorem pruneAll_sketch (f : Filters) (levels : Nat) (path : List (Target H))
    (cs : List (Candidate H))
    (hcs : ∀ c ∈ cs, ∀ t, c.target = some t → c.name = o.canonicalName t.handle) :
    Outline.pruneAll f (cs.map (sketch (o.outline levels path))) =
      (f.kept cs).map fun c => (sketch (o.outline levels path) c).prune f := by
  induction cs with
  | nil => rfl
  | cons c cs ih =>
    obtain ⟨hc, hcs⟩ := List.forall_mem_cons.1 hcs
    have hx := excluded_sketch f levels path hc
    rw [List.map_cons]
    rcases hf : f.excludes c.role.filterKind c.name
    · rw [Outline.pruneAll_of_not_excluded _ (hx.trans hf), ih hcs,
        Filters.kept_of_not_excluded cs hf, List.map_cons]
    · rw [Outline.pruneAll_of_excluded _ (hx.trans hf), ih hcs, Filters.kept_of_excluded cs hf]

theorem prune_outline_of_mem (h : t ∈ path) : (o.outline (levels + 1) path role t).prune f =
    .node role (o.canonicalName t.handle) (some .cycle) [] := by
  rw [outline, if_pos h, Outline.prune, Outline.pruneAll]

theorem prune_outline_of_not_mem (h : t ∉ path) : (o.outline (levels + 1) path role t).prune f =
    .node role (o.canonicalName t.handle) (some .entered)
      ((f.kept (o.layer t).candidates).map fun c =>
        (sketch (o.outline levels (t :: path)) c).prune f) := by
  rw [outline, if_neg h, Outline.prune, pruneAll_sketch _ _ _ _ fun c hc u hu => layer_name hc hu]

/-- If the outline of a type is not cut off by depth, neither is that of a candidate below it. -/
theorem cutByDepth_sketch (hmem : t ∉ path)
    (h : ((o.outline (levels + 1) path role t).prune f).cutByDepth = false) :
    ∀ c ∈ f.kept (o.layer t).candidates,
      ((sketch (o.outline levels (t :: path)) c).prune f).cutByDepth = false := by
  intro c hc
  rw [prune_outline_of_not_mem hmem] at h
  have hall := Outline.cutByDepthAny_eq_false_iff.1 h
  exact hall _ (List.mem_map_of_mem hc)

theorem cutByDepth_outline_zero : ((o.outline 0 path role t).prune f).cutByDepth = true := rfl

/-- **More levels do not change an outline that is not cut off by depth.** -/
theorem prune_outline_of_le (hle : levels ≤ levels')
    (h : ((o.outline levels path role t).prune f).cutByDepth = false) :
    (o.outline levels' path role t).prune f = (o.outline levels path role t).prune f := by
  induction levels generalizing levels' path role t with
  | zero => rw [cutByDepth_outline_zero] at h; cases h
  | succ levels ih =>
    obtain ⟨levels', rfl⟩ : ∃ m, levels' = m + 1 := ⟨levels' - 1, by omega⟩
    by_cases hmem : t ∈ path
    · rw [prune_outline_of_mem hmem, prune_outline_of_mem hmem]
    · have hbelow := cutByDepth_sketch hmem h
      rw [prune_outline_of_not_mem hmem, prune_outline_of_not_mem hmem]
      congr 1
      refine List.map_congr_left fun c hc => ?_
      have hc := hbelow c hc
      unfold sketch at hc ⊢
      split
      · next u hu =>
        rw [hu] at hc
        exact ih (Nat.le_of_succ_le_succ hle) hc
      · rfl

/-- The tree of the outline of a type has its name at the root. -/
theorem exists_tree_prune_outline (o : Oracle H) (f : Filters) (levels : Nat)
    (path : List (Target H)) (role : Option Role) (t : Target H) :
    ∃ ts, ((o.outline levels path role t).prune f).tree = .node (o.canonicalName t.handle) ts := by
  cases levels with
  | zero => exact ⟨_, rfl⟩
  | succ levels =>
    by_cases hmem : t ∈ path
    · exact ⟨_, by rw [prune_outline_of_mem hmem, Outline.tree]⟩
    · exact ⟨_, by rw [prune_outline_of_not_mem hmem, Outline.tree]⟩

end Oracle

/-! ### Walks with other limits -/

namespace Walk

variable {H : Type} [DecidableEq H] {o : Oracle H} {f : Filters}

/-- What `grow` builds are cuts of outlines: if an outline below the types that are open is not cut
off by depth, then what `grow` builds in its place is a cut of it. -/
def BuildsCuts (o : Oracle H) (f : Filters) (grow : Target H → Walk H → TypeTree × Walk H) :
    Prop :=
  ∀ (levels : Nat) (role : Option Role) (t : Target H) (w : Walk H),
    ((o.outline levels w.guard.active role t).prune f).cutByDepth = false →
      (grow t w).1.CutOf ((o.outline levels w.guard.active role t).prune f).tree

theorem leaf_cutOf_outline (levels : Nat) (path : List (Target H)) (role : Option Role)
    (t : Target H) :
    (TypeTree.leaf (o.canonicalName t.handle)).CutOf
      ((o.outline levels path role t).prune f).tree := by
  obtain ⟨ts, hts⟩ := o.exists_tree_prune_outline f levels path role t
  rw [hts]
  exact .leaf _ ts

/-- The candidates of a type are cuts of their outlines, if `grow` builds cuts. -/
theorem attach_cutOf {grow : Target H → Walk H → TypeTree × Walk H}
    (hkeeps : ∀ t w, Keeps w (grow t w).2) (hgrow : BuildsCuts o f grow) (levels : Nat)
    (cs : List (Candidate H)) (w : Walk H)
    (h : ∀ c ∈ f.kept cs,
      ((Oracle.sketch (o.outline levels w.guard.active) c).prune f).cutByDepth = false) :
    List.Forall₂ TypeTree.CutOf (attach f grow cs w).1
      ((f.kept cs).map fun c =>
        ((Oracle.sketch (o.outline levels w.guard.active) c).prune f).tree) := by
  generalize hpath : w.guard.active = path at h ⊢
  have hattach := attach_forall₂ (f := f) (I := fun w => w.guard.active = path)
    (P := fun c u => u.CutOf ((Oracle.sketch (o.outline levels path) c).prune f).tree)
    (fun _ _ hw => hw) (fun t w hw => (hkeeps t w).active.trans hw) cs w hpath ?_ ?_
  · exact List.forall₂_map_right_iff.2 hattach.flip
  · intro c hc hleaf
    rw [Oracle.sketch, hleaf]
    exact .leaf c.name []
  · intro c hc t ht w hw
    have hcut := h c hc
    rw [Oracle.sketch, ht, ← hw] at hcut ⊢
    exact hgrow levels (some c.role) t w hcut

/-- An expansion builds cuts, if this is so below the type: either it is refused, or every child is
cut in turn. -/
theorem expandWith_buildsCuts {grow : Target H → Walk H → TypeTree × Walk H}
    (hkeeps : ∀ t w, Keeps w (grow t w).2) (hgrow : BuildsCuts o f grow) :
    BuildsCuts o f (expandWith o f grow) := by
  intro levels role t w h
  obtain ⟨e, cut, -, -, hw⟩ | ⟨hmem, -, hw⟩ := expandWith_cases o f grow t w
  · rw [hw]
    exact leaf_cutOf_outline levels _ role t
  · cases levels with
    | zero =>
      rw [Oracle.cutByDepth_outline_zero] at h
      cases h
    | succ levels =>
      -- the children are built while `t` is open, and their outlines stand below `t` too
      have hcuts := attach_cutOf hkeeps hgrow levels (o.layer t).candidates (w.opened t)
        (Oracle.cutByDepth_sketch hmem h)
      rw [hw, Oracle.prune_outline_of_not_mem hmem, Outline.tree, Outline.treeAll_eq_map,
        List.map_map]
      exact .node _ hcuts

/-- **Whatever its limits, an expansion builds a cut of the outline,** if the outline is not cut off
by depth.  The levels of the expansion and of the outline need not be the same. -/
theorem expand_buildsCuts (levels : Nat) : BuildsCuts o f (expand o f levels) := by
  induction levels with
  | zero =>
    exact expandWith_buildsCuts (fun _ w => .refl w) fun levels role t w _ =>
      leaf_cutOf_outline levels w.guard.active role t
  | succ levels ih => exact expandWith_buildsCuts (expand_keeps levels) ih

end Walk

namespace Oracle

variable {H : Type} [DecidableEq H] (o : Oracle H) (f : Filters) {limits limits' : Limits}
  {s : Subject H}

/-- A lineage that is not truncated is an outline that is not cut off. -/
theorem agrees_of_not_truncated (h : (o.lineage f limits s).truncated = false) :
    Agrees (o.lineage f limits s) ((o.subjectOutline limits s).prune f) ∧
      ((o.subjectOutline limits s).prune f).cutByDepth = false := by
  have hagrees := o.lineage_eq_outline f limits s (.inl (o.lineage_reports f limits h))
  exact ⟨hagrees, hagrees.2.2.1.symm.trans h⟩

/-- The outline of a subject is the same under limits that are as wide, if it is not cut off. -/
theorem prune_subjectOutline_of_le (hle : limits.maxDepth ≤ limits'.maxDepth)
    (h : ((o.subjectOutline limits s).prune f).cutByDepth = false) :
    (o.subjectOutline limits' s).prune f = (o.subjectOutline limits s).prune f := by
  unfold subjectOutline at h ⊢
  split
  · next k hk =>
    rw [hk] at h
    exact prune_outline_of_le (UInt32.le_iff_toNat_le.1 hle) h
  · rfl

theorem lineage_cutOf (h : (o.lineage f limits s).truncated = false) :
    (o.lineage f limits' s).tree.CutOf (o.lineage f limits s).tree := by
  obtain ⟨⟨htree, -⟩, hcut⟩ := o.agrees_of_not_truncated f h
  rcases hs : o.root? s with _ | k
  · rw [(o.lineage_of_rootless f limits hs).1, (o.lineage_of_rootless f limits' hs).1]
    exact .leaf _ []
  · obtain ⟨es, hl⟩ := o.exists_lineage_eq_expand f limits' hs
    have hx : o.subjectOutline limits s =
        o.outline limits.maxDepth.toNat [] none (.declared k) := by rw [subjectOutline, hs]
    rw [hx] at htree hcut
    rw [htree, hl]
    exact Walk.expand_buildsCuts _ _ none _ ((Walk.new limits').note es) hcut

/-- **Limits only cut.**  If a lineage is not truncated under some limits, then under any other
limits its tree is cut below some nodes and not changed otherwise; it is not truncated either if the
other limits are as wide; and if it is not truncated, the tree and the number of steps are the
same. -/
theorem lineage_of_limits (o : Oracle H) (f : Filters) (s : Subject H) (limits limits' : Limits)
    (h : (o.lineage f limits' s).truncated = false) :
    (o.lineage f limits s).tree.CutOf (o.lineage f limits' s).tree ∧
      (limits'.maxDepth ≤ limits.maxDepth → limits'.maxSteps ≤ limits.maxSteps →
        (o.lineage f limits s).truncated = false) ∧
      ((o.lineage f limits s).truncated = false →
        (o.lineage f limits s).tree = (o.lineage f limits' s).tree ∧
          (o.lineage f limits s).steps = (o.lineage f limits' s).steps) := by
  obtain ⟨⟨htree', hsteps', -⟩, hcut'⟩ := o.agrees_of_not_truncated f h
  refine ⟨o.lineage_cutOf f h, fun hdepth hsteps => ?_, fun hwhole => ?_⟩
  · have hx := o.prune_subjectOutline_of_le f hdepth hcut'
    have hbudget := o.lineage_reports f limits' h
    rw [hsteps'] at hbudget
    have hle := UInt32.le_iff_toNat_le.1 hsteps
    obtain ⟨-, -, htruncated, -⟩ := o.lineage_eq_outline f limits s
      (.inr (hx ▸ Nat.le_trans hbudget hle))
    rw [htruncated, hx, hcut']
  · obtain ⟨⟨htree, hsteps, -⟩, hcut⟩ := o.agrees_of_not_truncated f hwhole
    have hx : (o.subjectOutline limits s).prune f = (o.subjectOutline limits' s).prune f := by
      rcases UInt32.le_total limits.maxDepth limits'.maxDepth with hle | hle
      · exact (o.prune_subjectOutline_of_le f hle hcut).symm
      · exact o.prune_subjectOutline_of_le f hle hcut'
    exact ⟨by rw [htree, hx, htree'], by rw [hsteps, hx, hsteps']⟩

end Oracle

/-- The cycles of `a.Node` alone end its lineage after 8 steps.  A smaller budget is spent on the
list and leaves nothing for the super-type; greater limits change nothing. -/
theorem lineage_of_limits_cyclic :
    let l := fun limits => Registry.cyclic.oracle.lineage .none limits (.type ⟨1⟩)
    (l ⟨5, 8⟩).truncated = false ∧
      ((l ⟨4, 6⟩).tree.CutOf (l ⟨5, 8⟩).tree ∧ (l ⟨4, 6⟩).tree ≠ (l ⟨5, 8⟩).tree ∧
        (l ⟨4, 6⟩).truncated = true) ∧
      (l ⟨10, 100⟩).truncated = false ∧ (l ⟨10, 100⟩).tree = (l ⟨5, 8⟩).tree ∧
        (l ⟨10, 100⟩).steps = 8 := by
  intro l
  have hwhole : (l ⟨5, 8⟩).truncated = false := by decide +kernel
  have hsteps : (l ⟨5, 8⟩).steps = 8 := by decide +kernel
  obtain ⟨hcut, -⟩ :=
    Registry.cyclic.oracle.lineage_of_limits .none (.type ⟨1⟩) ⟨4, 6⟩ ⟨5, 8⟩ hwhole
  obtain ⟨-, hwide, hsame⟩ :=
    Registry.cyclic.oracle.lineage_of_limits .none (.type ⟨1⟩) ⟨10, 100⟩ ⟨5, 8⟩ hwhole
  have hlarge : (l ⟨10, 100⟩).truncated = false := hwide (by decide) (by decide)
  obtain ⟨htree, hcount⟩ := hsame hlarge
  exact ⟨hwhole, ⟨hcut, by decide +kernel, by decide +kernel⟩, hlarge, htree, hcount.trans hsteps⟩

end TypeAncestry
