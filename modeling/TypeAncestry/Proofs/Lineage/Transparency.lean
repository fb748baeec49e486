import TypeAncestry.Proofs.Lineage.Budget
import TypeAncestry.Proofs.Lineage.Unfolding
import TypeAncestry.Registry.Core

/-!
# The guard does not show where it is not needed

A type that unfolds into a finite tree is never open below itself: it would take more expansions
than itself.  So the guard has no cycle to find on the way, and within its limits it refuses nothing
at all, however often a type is reached along different paths.

* `Oracle.Longer` : a type unfolds in more than a given number of expansions.
* `Oracle.Unfolds.outline` : the pruned outline of a type that unfolds is what it unfolds into.
* `Oracle.lineage_of_unfolds` : so is its lineage.
-/

namespace TypeAncestry

namespace Oracle

variable {H : Type} {o : Oracle H} {f : Filters}

/-- The type unfolds, in more than `n` expansions. -/
def Longer (o : Oracle H) (f : Filters) (n : Nat) (t : Target H) : Prop :=
  ∃ tree m d, o.Unfolds f t tree m d ∧ n < m

theorem Longer.mono {n m : Nat} {t : Target H} (h : o.Longer f n t) (hm : m ≤ n) :
    o.Longer f m t := by
  obtain ⟨tree, k, d, hu, hk⟩ := h
  exact ⟨tree, k, d, hu, by omega⟩

/-- A type does not unfold in more expansions than it unfolds in. -/
theorem Unfolds.not_longer {t : Target H} {tree : TypeTree} {n d : Nat}
    (h : o.Unfolds f t tree n d) : ¬ o.Longer f n t := by
  rintro ⟨tree', m, d', hu, hm⟩
  obtain ⟨-, rfl, -⟩ := h.unique hu
  exact Nat.lt_irrefl _ hm

/-! ### The layer of a type, reference by reference -/

theorem leafName_fst (name : String) : (o.leafName name).1 = o.resolvedName name := by
  unfold leafName resolvedName
  by_cases hp : Name.isPlaceholder name = true
  · rw [if_pos hp, if_pos hp]
  · rw [if_neg hp, if_neg hp]
    cases o.resolve name <;> rfl

/-- A reference stands in a layer under the name that the rules of unfolding give it. -/
theorem reference_shownName (role : Role) (r : TypeRef H) :
    (o.reference role r).name = o.shownName r ∧ (o.reference role r).role = role := by
  cases r with
  | applied h as => exact ⟨rfl, rfl⟩
  | plain h =>
    simp only [reference, shownName]
    split
    · exact ⟨rfl, rfl⟩
    · exact ⟨leafName_fst _, rfl⟩
  | var n => exact ⟨leafName_fst n, rfl⟩

theorem reference_target {role : Role} {r : TypeRef H} (h : r.isApplied = false) :
    (o.reference role r).target = none := by
  cases r with
  | applied => simp [TypeRef.isApplied] at h
  | plain k => simp only [reference]; split <;> rfl
  | var n => rfl

/-- The candidates that a super-type gives rise to. -/
def ancestors (o : Oracle H) (r : Option (TypeRef H)) : List (Candidate H) :=
  ((r.bind TypeRef.target?).map o.ancestor).getD []

theorem superLayer_candidates (h : H) :
    (o.superLayer h).candidates = o.ancestors (o.superType h) := by
  unfold superLayer ancestors
  rcases o.superType h with _ | _ | _ | _ <;> rfl

theorem ancestors_of_target_none {r : TypeRef H} (h : r.target? = none) :
    o.ancestors (some r) = [] := by
  simp [ancestors, h]

theorem ancestors_of_top {r : TypeRef H} {t : Target H} (h : r.target? = some t)
    (ht : o.isUniversalTop t.handle = true) : o.ancestors (some r) = [] := by
  simp [ancestors, h, ancestor, ht]

theorem ancestors_of_target {r : TypeRef H} {t : Target H} (h : r.target? = some t)
    (ht : o.isUniversalTop t.handle = false) :
    o.ancestors (some r) = [⟨.superType, o.canonicalName t.handle, some t, []⟩] := by
  simp [ancestors, h, ancestor, ht]

/-! ### Outlines of types that unfold -/

/-- The outlines show the trees, and count so many expansions, none of them refused for depth. -/
structure Shows (xs : List Outline) (ts : List TypeTree) (n : Nat) : Prop where
  trees : Outline.treeAll xs = ts
  tries : Outline.triesAll xs = n
  uncut : Outline.cutByDepthAny xs = false

theorem Shows.nil : Shows [] [] 0 := ⟨rfl, rfl, rfl⟩

theorem Shows.append {xs ys : List Outline} {ts us : List TypeTree} {n m : Nat}
    (hx : Shows xs ts n) (hy : Shows ys us m) : Shows (xs ++ ys) (ts ++ us) (n + m) :=
  ⟨by rw [Outline.treeAll_append, hx.trees, hy.trees],
    by rw [Outline.triesAll_append, hx.tries, hy.tries],
    by rw [Outline.cutByDepthAny_append, hx.uncut, hy.uncut]; rfl⟩

theorem Shows.leaf {xs : List Outline} {ts : List TypeTree} {n : Nat} (role : Option Role)
    (name : String) (h : Shows xs ts n) :
    Shows (.node role name none [] :: xs) (.leaf name :: ts) n := by
  refine ⟨?_, ?_, ?_⟩
  · rw [Outline.treeAll, h.trees]; rfl
  · rw [Outline.triesAll, h.tries]; simp [Outline.tries, Outline.triesAll]
  · rw [Outline.cutByDepthAny, h.uncut]; rfl

/-- What stands below a type shows the trees, once the type itself is entered. -/
theorem Shows.node {xs : List Outline} {ts : List TypeTree} {n : Nat} (role : Option Role)
    (name : String) (h : Shows xs ts n) :
    Shows [.node role name (some .entered) xs] [.node name ts] (1 + n) := by
  refine ⟨?_, ?_, ?_⟩
  · simp [Outline.treeAll, Outline.tree, h.trees]
  · simp [Outline.triesAll, Outline.tries, h.tries]
  · simp [Outline.cutByDepthAny, Outline.cutByDepth, h.uncut]

theorem Shows.cons {x : Outline} {xs : List Outline} {t : TypeTree} {ts : List TypeTree}
    {n m : Nat} (hx : Shows [x] [t] n) (hxs : Shows xs ts m) :
    Shows (x :: xs) (t :: ts) (n + m) :=
  hx.append hxs

theorem shows_parameters (kin : Option Role → Target H → Outline) (ps : List String) :
    Shows (Outline.pruneAll f ((ps.map fun p => o.leaf (.parameter p) p).map (sketch kin)))
      (((ps.map o.resolvedName).filter fun n => !f.excludes .parameter n).map .leaf) 0 := by
  induction ps with
  | nil => exact .nil
  | cons p ps ih =>
    have hx : (sketch kin (o.leaf (.parameter p) p)).excluded f =
        f.excludes .parameter (o.resolvedName p) := by
      rw [← leafName_fst]; rfl
    simp only [List.map_cons]
    by_cases hf : f.excludes .parameter (o.resolvedName p) = true
    · rw [Outline.pruneAll_of_excluded _ (hx.trans hf), List.filter_cons_of_neg (by simp [hf])]
      exact ih
    · rw [Bool.not_eq_true] at hf
      rw [Outline.pruneAll_of_not_excluded _ (hx.trans hf),
        List.filter_cons_of_pos (by simp [hf]), ← leafName_fst]
      exact ih.leaf (some (.parameter p)) _

variable [DecidableEq H]

theorem excluded_reference (levels : Nat) (path : List (Target H)) (role : Role) (r : TypeRef H) :
    (sketch (o.outline levels path) (o.reference role r)).excluded f =
      f.excludes role.filterKind (o.shownName r) := by
  rw [excluded_sketch f levels path fun t h => reference_name h, (reference_shownName role r).1,
    (reference_shownName role r).2]

/-- A type that unfolds is entered where no type is open that does not take longer than it. -/
theorem shows_entered {levels n m d : Nat} {path : List (Target H)} {t : Target H}
    {tree : TypeTree} {ts : List TypeTree} (role : Option Role) (hu : o.Unfolds f t tree n d)
    (hpath : ∀ p ∈ path, o.Longer f n p)
    (h : Shows
      (Outline.pruneAll f ((o.layer t).candidates.map (sketch (o.outline levels (t :: path))))) ts
      m) :
    Shows [(o.outline (levels + 1) path role t).prune f] [.node (o.canonicalName t.handle) ts]
      (1 + m) := by
  -- were the type open already, it would take more expansions than itself
  have hmem : t ∉ path := fun h => hu.not_longer (hpath t h)
  rw [outline, if_neg hmem, Outline.prune]
  exact h.node role _

omit [DecidableEq H] in
/-- Below a type, all that is open takes longer than what stands there. -/
theorem longer_below {n m d : Nat} {path : List (Target H)} {t : Target H} {tree : TypeTree}
    (hu : o.Unfolds f t tree n d) (hpath : ∀ p ∈ path, o.Longer f n p) (hm : m < n) :
    ∀ p ∈ t :: path, o.Longer f m p := by
  intro p hp
  rcases List.mem_cons.1 hp with rfl | hp
  · exact ⟨tree, n, d, hu, hm⟩
  · exact (hpath p hp).mono (Nat.le_of_lt hm)

mutual

/-- **A type that unfolds has an outline that shows it**, if so many levels may be opened and all
that is open takes longer. -/
theorem Unfolds.outline {t : Target H} {tree : TypeTree} {n d : Nat} :
    o.Unfolds f t tree n d → ∀ (levels : Nat) (path : List (Target H)) (role : Option Role),
      d ≤ levels → (∀ p ∈ path, o.Longer f n p) →
      Shows [(o.outline levels path role t).prune f] [tree] n
  | .declared (h := h) hi hs, levels, path, role, hd, hpath => by
    have hu := Unfolds.declared hi hs
    obtain ⟨levels, rfl⟩ : ∃ l, levels = l + 1 := ⟨levels - 1, by omega⟩
    have his := hi.outlines levels _ .interface rfl (by omega) (longer_below hu hpath (by omega))
    have hss := hs.outlines levels _ (by omega) (longer_below hu hpath (by omega))
    refine shows_entered role hu hpath ?_
    simp only [layer, Target.handle, parameters, superLayer_candidates, List.map_append,
      Outline.pruneAll_append]
    rw [← Nat.zero_add (_ + _), ← Nat.add_assoc]
    exact ((shows_parameters _ (o.typeParameters h)).append his).append hss
  | .applied ha hi hs, levels, path, role, hd, hpath => by
    have hu := Unfolds.applied ha hi hs
    obtain ⟨levels, rfl⟩ : ∃ l, levels = l + 1 := ⟨levels - 1, by omega⟩
    have has := ha.outlines levels _ .argument rfl (by omega) (longer_below hu hpath (by omega))
    have his := hi.outlines levels _ .interface rfl (by omega) (longer_below hu hpath (by omega))
    have hss := hs.outlines levels _ (by omega) (longer_below hu hpath (by omega))
    refine shows_entered role hu hpath ?_
    simp only [layer, Target.handle, parameters, superLayer_candidates, List.map_append,
      Outline.pruneAll_append]
    exact (has.append his).append hss

theorem UnfoldsAll.outlines {kind : FilterKind} {rs : List (TypeRef H)} {ts : List TypeTree}
    {n d : Nat} :
    o.UnfoldsAll f kind rs ts n d → ∀ (levels : Nat) (path : List (Target H)) (role : Role),
      role.filterKind = kind → d ≤ levels → (∀ p ∈ path, o.Longer f n p) →
      Shows (Outline.pruneAll f
        ((rs.map (o.reference role)).map (sketch (o.outline levels path)))) ts n
  | .nil, _, _, _, _, _, _ => .nil
  | .excluded hx hr, levels, path, role, hrole, hd, hpath => by
    simp only [List.map_cons]
    rw [Outline.pruneAll_of_excluded _ (by rw [excluded_reference, hrole, hx])]
    exact hr.outlines levels path role hrole hd hpath
  | .leaf (r := r) hx hl hr, levels, path, role, hrole, hd, hpath => by
    simp only [List.map_cons]
    rw [Outline.pruneAll_of_not_excluded _ (by rw [excluded_reference, hrole, hx]), sketch,
      reference_target hl, (reference_shownName role r).1]
    exact (hr.outlines levels path role hrole hd hpath).leaf _ _
  | .applied hx ht hr, levels, path, role, hrole, hd, hpath => by
    have hts := ht.outline levels path (some role) (by omega) fun p hp =>
      (hpath p hp).mono (by omega)
    have hrs := hr.outlines levels path role hrole (by omega) fun p hp =>
      (hpath p hp).mono (by omega)
    simp only [List.map_cons]
    rw [Outline.pruneAll_of_not_excluded]
    · exact hts.cons hrs
    · rw [excluded_reference, hrole]
      exact hx

theorem UnfoldsSuper.outlines {r : Option (TypeRef H)} {ts : List TypeTree} {n d : Nat} :
    o.UnfoldsSuper f r ts n d → ∀ (levels : Nat) (path : List (Target H)),
      d ≤ levels → (∀ p ∈ path, o.Longer f n p) →
      Shows (Outline.pruneAll f ((o.ancestors r).map (sketch (o.outline levels path)))) ts n
  | .absent, _, _, _, _ => .nil
  | .typeVariable hr, _, _, _, _ => by
    rw [ancestors_of_target_none hr]
    exact .nil
  | .top hr ht, _, _, _, _ => by
    rw [ancestors_of_top hr ht]
    exact .nil
  | .excluded (t := t) hr ht hx, levels, path, hd, hpath => by
    have hx' := (excluded_outline f levels path .superType t).trans hx
    rw [ancestors_of_target hr ht]
    exact Outline.pruneAll_of_excluded [] hx' ▸ .nil
  | .unfolded (t := t) hr ht hx hu, levels, path, hd, hpath => by
    have hx' := (excluded_outline f levels path .superType t).trans hx
    rw [ancestors_of_target hr ht]
    have hts := hu.outline levels path (some .superType) hd hpath
    exact Outline.pruneAll_of_not_excluded [] hx' ▸ hts

end

/-- **The guard does not show where it is not needed.**  If the type that a subject leads to unfolds
into a tree, in no more expansions than the budget has steps and no more of them nested than the
depth allows, then that tree is the lineage of the subject; so many steps are counted, no limit is
reported and the guard is not misused. -/
theorem lineage_of_unfolds {limits : Limits} {s : Subject H} {h : H} {tree : TypeTree} {n d : Nat}
    (hs : o.root? s = some h) (hu : o.Unfolds f (.declared h) tree n d)
    (hd : d ≤ limits.maxDepth.toNat) (hn : n ≤ limits.maxSteps.toNat) :
    (o.lineage f limits s).tree = tree ∧ (o.lineage f limits s).steps = n ∧
      (o.lineage f limits s).truncated = false ∧ (o.lineage f limits s).misuse = none := by
  have hshow := hu.outline _ [] none hd (by simp)
  have hx : o.subjectOutline limits s = o.outline limits.maxDepth.toNat [] none (.declared h) := by
    rw [subjectOutline, hs]
  have htree : ((o.subjectOutline limits s).prune f).tree = tree := by
    rw [hx]; exact (List.cons.inj hshow.trees).1
  have htries : ((o.subjectOutline limits s).prune f).tries = n := by
    rw [hx]; exact hshow.tries
  have huncut : ((o.subjectOutline limits s).prune f).cutByDepth = false := by
    rw [hx, ← Bool.or_false (Outline.cutByDepth _)]; exact hshow.uncut
  have hcap : limits.maxSteps.toNat ≤ Guard.stepsCap := by
    have := limits.maxSteps.toNat_lt
    simp only [Guard.stepsCap]; omega
  have hmin : min n Guard.stepsCap = n := by omega
  obtain ⟨h₁, h₂, h₃, h₄⟩ := o.lineage_eq_outline f limits s (.inr (by omega))
  exact ⟨h₁.trans htree, by rw [h₂, htries, hmin], h₃.trans huncut, h₄⟩

end Oracle

/-- A registry in which a matrix is a list of lists, and a list again through its super-type. -/
def Registry.matrix : Registry :=
  .addAll .empty
    [{ TypeDef.class_ "a.Matrix" with
        superType := some (.plain ⟨2⟩)
        interfaces := [.applied ⟨3⟩ [.applied ⟨3⟩ [.plain ⟨4⟩]]] },
      { TypeDef.class_ "a.Base" with interfaces := [.applied ⟨3⟩ [.plain ⟨4⟩]] },
      { TypeDef.interface "a.List" with
        typeParameters := ["E"]
        interfaces := [.applied ⟨5⟩ [.var "E"]] },
      .class_ "a.Number",
      { TypeDef.interface "a.Collection" with typeParameters := ["E"] }]

/-- The list inside the list is expanded, and so is every collection, though it is reached along
three paths; the limits are as narrow as they can be. -/
theorem lineage_of_unfolds_matrix :
    ∃ tree : TypeTree,
      Registry.matrix.oracle.root? (.type ⟨1⟩) = some ⟨1⟩ ∧
      Registry.matrix.oracle.Unfolds .none (.declared ⟨1⟩) tree 8 4 ∧
      (Registry.matrix.oracle.lineage .none ⟨4, 8⟩ (.type ⟨1⟩)).tree = tree ∧
      (Registry.matrix.oracle.lineage .none ⟨4, 8⟩ (.type ⟨1⟩)).steps = 8 ∧
      tree = .node "a.Matrix"
        [.node "a.List"
            [.node "a.List" [.leaf "a.Number", .node "a.Collection" [.leaf "?"]],
              .node "a.Collection" [.leaf "?"]],
          .node "a.Base"
            [.node "a.List" [.leaf "a.Number", .node "a.Collection" [.leaf "?"]]]] := by
  have hroot : Registry.matrix.oracle.root? (.type ⟨1⟩) = some ⟨1⟩ := rfl
  have hcollection : Registry.matrix.oracle.Unfolds .none (.applied ⟨5⟩ [.var "E"]) _ _ _ :=
    .applied (.leaf rfl rfl .nil) .nil .absent
  have hlist : Registry.matrix.oracle.Unfolds .none (.applied ⟨3⟩ [.plain ⟨4⟩]) _ _ _ :=
    .applied (.leaf rfl rfl .nil) (.applied rfl hcollection .nil) .absent
  have hlists : Registry.matrix.oracle.Unfolds .none
      (.applied ⟨3⟩ [.applied ⟨3⟩ [.plain ⟨4⟩]]) _ _ _ :=
    .applied (.applied rfl hlist .nil) (.applied rfl hcollection .nil) .absent
  have hmatrix : Registry.matrix.oracle.Unfolds .none (.declared ⟨1⟩) _ _ _ :=
    .declared (.applied rfl hlists .nil)
      (.unfolded rfl rfl rfl (.declared (.applied rfl hlist .nil) .absent))
  have hdepth : 4 ≤ (⟨4, 8⟩ : Limits).maxDepth.toNat := by decide
  have hsteps : 8 ≤ (⟨4, 8⟩ : Limits).maxSteps.toNat := by decide
  obtain ⟨htree, hcount, -⟩ := Oracle.lineage_of_unfolds hroot hmatrix hdepth hsteps
  exact ⟨_, hroot, hmatrix, htree, hcount, by decide +kernel⟩

end TypeAncestry
