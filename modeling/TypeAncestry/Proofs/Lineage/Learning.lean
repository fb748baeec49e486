import TypeAncestry.Proofs.Lineage.Renaming
import TypeAncestry.Proofs.Lineage.Stems

/-!
# Oracles that learn a name

An oracle learns a name if it comes to know a type under a name that led nowhere before, and nothing
else changes for the types that it knew.  Walks from these types do not notice, except that a leaf
that stems from a parameter or a type variable with this name shows the new type: expansions hang on
references, and nothing refers to the new type.

* `Oracle.Learns` : an oracle learns a name.
* `Oracle.Learns.origins`, `Oracle.Learns.candidate` : what stands below a type stems from the same
  origins, and only the names of leaves differ.
* `Oracle.Runs.spelled` : what stems from the name was `?` before.
* `Oracle.Runs.learn` : a walk takes the same course as before, up to these leaves.
-/

namespace TypeAncestry

variable {H : Type}

/-- The handles in an origin. -/
def Origin.handles : Origin H → List H
  | parameter _ => []
  | argument r => r.handles
  | interface r => r.handles
  | superType t => t.handles

namespace Target

theorem handle_mem_handles (t : Target H) : t.handle ∈ t.handles := by
  cases t <;> exact List.mem_cons_self

/-- What a reference names has the handles of the reference. -/
theorem handles_of_target? {r : TypeRef H} {t : Target H} (h : r.target? = some t) :
    t.handles = r.handles := by
  cases r with
  | var v => cases h
  | plain k =>
    obtain rfl := Option.some.inj h
    rfl
  | applied k args =>
    obtain rfl := Option.some.inj h
    rfl

end Target

namespace Oracle

/-- The types in `S` are those that `o` knows, and they refer only to one another.  The oracle `o'`
knows the same of them, and it knows a type under the name `n`, which leads nowhere in `o` and is
none of theirs, unless it is a placeholder. -/
structure Learns (o o' : Oracle H) (n : String) (S : H → Prop) : Prop where
  closed : ∀ h, S h → ∀ r ∈ (o.superType h).toList ++ o.interfaces h, ∀ k ∈ r.handles, S k
  found : ∀ m h, o.resolve m = some h → S h
  unknown : o.resolve n = none
  unnamed : ∀ h, S h → o.canonicalName h = n → Name.isPlaceholder n = true
  resolve : ∀ m, m ≠ n → o'.resolve m = o.resolve m
  canonicalName : ∀ h, S h → o'.canonicalName h = o.canonicalName h
  typeParameters : ∀ h, S h → o'.typeParameters h = o.typeParameters h
  superType : ∀ h, S h → o'.superType h = o.superType h
  interfaces : ∀ h, S h → o'.interfaces h = o.interfaces h
  isUniversalTop : ∀ h, S h → o'.isUniversalTop h = o.isUniversalTop h

variable {o o' : Oracle H} {n : String} {S : H → Prop} {t : Target H} {g : Origin H}

namespace Learns

/-! ### Names -/

theorem resolvedName_of_ne (hl : o.Learns o' n S) {m : String} (hm : m ≠ n) :
    o'.resolvedName m = o.resolvedName m := by
  unfold Oracle.resolvedName
  rw [hl.resolve m hm]
  rcases hfound : o.resolve m with _ | h
  · rfl
  · have hS := hl.found m h hfound
    simp only [hl.canonicalName h hS, hl.isUniversalTop h hS]

theorem resolvedName_canonicalName (hl : o.Learns o' n S) {h : H} (hS : S h) :
    o'.resolvedName (o.canonicalName h) = o.resolvedName (o.canonicalName h) := by
  by_cases hm : o.canonicalName h = n
  · have hplaceholder := hl.unnamed h hS hm
    rw [hm, Oracle.resolvedName, Oracle.resolvedName, if_pos hplaceholder, if_pos hplaceholder]
  · exact hl.resolvedName_of_ne hm

theorem shownName (hl : o.Learns o' n S) {r : TypeRef H} (hr : ∀ k ∈ r.handles, S k)
    (hv : ∀ v, r ≠ .var v) : o'.shownName r = o.shownName r := by
  cases r with
  | applied h args => exact hl.canonicalName h (hr h List.mem_cons_self)
  | plain h =>
    have hS : S h := hr h (List.mem_singleton_self h)
    simp only [Oracle.shownName, hl.isUniversalTop h hS, hl.canonicalName h hS,
      hl.resolvedName_canonicalName hS]
  | var v => exact absurd rfl (hv v)

/-! ### Origins and candidates -/

theorem superOrigins (hl : o.Learns o' n S) {h : H} (hS : S h) :
    o'.superOrigins h = o.superOrigins h := by
  have htop : ∀ t ∈ ((o.superType h).bind TypeRef.target?).toList,
      (!o'.isUniversalTop t.handle) = !o.isUniversalTop t.handle := by
    intro t ht
    rw [Option.mem_toList, Option.bind_eq_some_iff] at ht
    obtain ⟨r, hr, htarget⟩ := ht
    have hmem : r ∈ (o.superType h).toList ++ o.interfaces h := by simp [hr]
    have hhandle : t.handle ∈ r.handles := Target.handles_of_target? htarget ▸ t.handle_mem_handles
    rw [hl.isUniversalTop _ (hl.closed h hS r hmem _ hhandle)]
  rw [Oracle.superOrigins, Oracle.superOrigins, hl.superType h hS, List.filter_congr htop]

/-- **What stands below a type that was known stems from the same origins as before.** -/
theorem origins (hl : o.Learns o' n S) (ht : ∀ k ∈ t.handles, S k) :
    o'.origins t = o.origins t := by
  have hS : S t.handle := ht _ t.handle_mem_handles
  have hparameters : o'.parameterOrigins t = o.parameterOrigins t := by
    cases t with
    | declared h => rw [parameterOrigins, parameterOrigins, hl.typeParameters h hS]
    | applied h args => rfl
  rw [Oracle.origins, Oracle.origins, hparameters, hl.interfaces _ hS, hl.superOrigins hS]

/-- All types in these origins were known. -/
theorem handles_origins (hl : o.Learns o' n S) (ht : ∀ k ∈ t.handles, S k)
    (hg : g ∈ o.origins t) : ∀ k ∈ g.handles, S k := by
  have hS : S t.handle := ht _ t.handle_mem_handles
  have hclosed := hl.closed t.handle hS
  simp only [Oracle.origins, List.mem_append] at hg
  rcases hg with (hg | hg) | hg
  · cases t with
    | declared h =>
      obtain ⟨p, -, rfl⟩ := List.mem_map.1 hg
      intro k hk
      cases hk
    | applied h args =>
      obtain ⟨r, hr, rfl⟩ := List.mem_map.1 hg
      exact fun k hk => ht k (List.mem_cons_of_mem h (TypeRef.mem_handlesAll.2 ⟨r, hr, hk⟩))
  · obtain ⟨r, hr, rfl⟩ := List.mem_map.1 hg
    exact hclosed r (List.mem_append_right _ hr)
  · obtain ⟨u, hu, rfl⟩ := List.mem_map.1 hg
    obtain ⟨r, hr, htarget⟩ :=
      Option.bind_eq_some_iff.1 (Option.mem_toList.1 (List.mem_filter.1 hu).1)
    have hmem : r ∈ (o.superType t.handle).toList ++ o.interfaces t.handle := by simp [hr]
    change ∀ k ∈ u.handles, S k
    rw [Target.handles_of_target? htarget]
    exact hclosed r hmem

/-- What stems from the name was `?`. -/
theorem candidate_of_spelled (hl : o.Learns o' n S) (hg : g.spelling? = some n) :
    (o.candidate g).target = none ∧ (o.candidate g).name = Name.top := by
  have hleaf := candidate_of_isLeaf (o := o) (Origin.isLeaf_of_spelling? hg)
  exact ⟨hleaf.1, (candidate_of_spelling hg).trans (resolvedName_of_unknown hl.unknown)⟩

/-- It becomes what the name leads to now, and all else keeps its name. -/
theorem candidate_name (hl : o.Learns o' n S) (hg : ∀ k ∈ g.handles, S k) :
    (o'.candidate g).name =
      if g.spelling? = some n then o'.resolvedName n else (o.candidate g).name := by
  have hleaf : ∀ m, (o'.leafName m).1 =
      if some m = some n then o'.resolvedName n else (o.leafName m).1 := by
    intro m
    rw [leafName_fst, leafName_fst]
    split_ifs with hm
    · rw [Option.some.inj hm]
    · exact hl.resolvedName_of_ne fun he => hm (congrArg some he)
  have href : ∀ (role : Role) (r : TypeRef H), (∀ k ∈ r.handles, S k) → (∀ v, r ≠ .var v) →
      (o'.reference role r).name = (o.reference role r).name := by
    intro role r hr hv
    rw [(reference_shownName role r).1, (reference_shownName role r).1, hl.shownName hr hv]
  rcases g with p | (h | ⟨h, args⟩ | v) | (h | ⟨h, args⟩ | v) | u
  case parameter => exact hleaf p
  case argument.var | interface.var => exact hleaf v
  case superType => exact hl.canonicalName _ (hg _ u.handle_mem_handles)
  all_goals exact href _ _ hg fun v => by simp

end Learns

/-- It hangs on the origin alone whether something is expanded, and what. -/
theorem candidate_target (o o' : Oracle H) (g : Origin H) :
    (o'.candidate g).target = (o.candidate g).target := by
  rcases g with p | (h | ⟨h, args⟩ | v) | (h | ⟨h, args⟩ | v) | u
  case argument.plain | interface.plain =>
    simp only [candidate]
    rw [reference_target rfl, reference_target rfl]
  all_goals rfl

theorem handles_of_candidate {u : Target H} (hu : (o.candidate g).target = some u) :
    u.handles = g.handles := by
  rcases g with p | (h | ⟨h, args⟩ | v) | (h | ⟨h, args⟩ | v) | w
  case argument.applied | interface.applied | superType =>
    obtain rfl := Option.some.inj hu
    rfl
  case argument.plain | interface.plain =>
    simp only [candidate, reference_target (o := o) (r := .plain h) rfl] at hu
    cases hu
  all_goals cases hu

/-! ### Walks -/

variable [DecidableEq H]

/-- **What stems from the name was `?` before.** -/
theorem Runs.spelled (hl : o.Learns o' n S) {k k' : Guard (Target H)} {x : Course H}
    {p : Position} {u : TypeTree} (hr : o.Runs .none t k x k') (hu : (x.tree o).at? p = some u)
    (hp : x.isSpelled o n p = true) : u = .top := by
  rw [Course.at?_tree, Option.map_eq_some_iff] at hu
  obtain ⟨y, hy, rfl⟩ := hu
  induction p generalizing t k k' x with
  | nil =>
    rw [Course.isSpelled_nil] at hp
    cases hp
  | cons i p ih =>
    obtain ⟨z, hz, hzy⟩ := Course.at?_cons_eq_some_iff.1 hy
    cases hr with
    | refused => simp [Course.children] at hz
    | @entered _ _ _ _ xs he hr _ =>
      have hz : xs[i]? = some z := hz
      obtain ⟨c, hc, hcourse⟩ := hr.getElem? hz
      rw [Filters.kept_none, layer_candidates, List.getElem?_map, Option.map_eq_some_iff] at hc
      obtain ⟨g, hg, rfl⟩ := hc
      rw [Course.isSpelled_attempt] at hp
      rcases p with _ | ⟨j, p⟩
      · -- the node stands right below `t`, and its origin is the name
        have hspelled : g.spelling? = some n := by
          simpa [Course.isSpelledBelow, hg] using hp
        obtain ⟨htarget, hname⟩ := hl.candidate_of_spelled hspelled
        obtain rfl : z = y := by simpa [Course.at?] using hzy
        obtain ⟨-, rfl⟩ | ⟨v, _, _, hv, -⟩ := hcourse
        · rw [Course.tree, hname]
          rfl
        · rw [htarget] at hv
          cases hv
      · obtain ⟨-, rfl⟩ | ⟨v, _, _, -, hv⟩ := hcourse
        · simp [Course.at?, Course.children] at hzy
        · rw [Course.isSpelledBelow, hz] at hp
          exact ih hv hp hzy

section Learn

variable (hl : o.Learns o' n S)

include hl

mutual

/-- **A walk takes the same course when the name is learned,** but for the leaves that stem from
it. -/
theorem Runs.learn {t : Target H} {k k' : Guard (Target H)} {x : Course H} :
    (∀ h ∈ t.handles, S h) → o.Runs .none t k x k' →
      ∃ x', o'.Runs .none t k x' k' ∧
        x'.tree o' =
          (x.tree o).replace (fun _ => .leaf (o'.resolvedName n)) (x.isSpelled o n)
  | ht, .refused he => by
    refine ⟨_, .refused he, ?_⟩
    have hname := hl.canonicalName _ (ht _ t.handle_mem_handles)
    rw [TypeTree.replace_of_not_chosen (Course.isSpelled_nil _)]
    simp [Course.tree, Course.treeAll, TypeTree.replaceAll, hname]
  | ht, .entered he hr hleave => by
    have hgs : ∀ g ∈ o.origins t, ∀ h ∈ g.handles, S h := fun g hg => hl.handles_origins ht hg
    obtain ⟨xs', hr', htrees⟩ := hr.learn hgs (o.layer_candidates t)
    rw [← hl.origins ht, ← layer_candidates] at hr'
    refine ⟨_, .entered he hr' hleave, ?_⟩
    have hname := hl.canonicalName _ (ht _ t.handle_mem_handles)
    rw [TypeTree.replace_of_not_chosen (Course.isSpelled_nil _)]
    simp only [Course.isSpelled_attempt, Course.tree, TypeTree.name_node, TypeTree.children_node]
    rw [htrees, hname]

/-- The same for what stems from a list of origins. -/
theorem RunsAll.learn {gs : List (Origin H)} {cs : List (Candidate H)} {k k' : Guard (Target H)}
    {xs : List (Course H)} :
    (∀ g ∈ gs, ∀ h ∈ g.handles, S h) → cs = gs.map o.candidate → o.RunsAll .none cs k xs k' →
      ∃ xs', o'.RunsAll .none (gs.map o'.candidate) k xs' k' ∧
        Course.treeAll o' xs' =
          TypeTree.replaceAll (fun _ => .leaf (o'.resolvedName n))
            (Course.isSpelledBelow o n gs xs) (Course.treeAll o xs)
  | hgs, hcs, .nil => by
    obtain rfl : gs = [] := List.map_eq_nil_iff.1 hcs.symm
    exact ⟨[], .nil, rfl⟩
  | _, _, .excluded hx _ => by simp at hx
  | hgs, hcs, .leaf _ htarget hr => by
    obtain ⟨g, gs, rfl, rfl, hrest⟩ := List.map_eq_cons_iff.1 hcs.symm
    obtain ⟨hg, hgs⟩ := List.forall_mem_cons.1 hgs
    obtain ⟨xs', hr', htrees⟩ := hr.learn hgs hrest.symm
    have htarget' := (candidate_target o o' g).trans htarget
    refine ⟨_, .leaf (Filters.none_excludes _ _) htarget' hr', ?_⟩
    simp only [Course.treeAll, Course.tree, TypeTree.replaceAll, TypeTree.replace_leaf,
      Course.isSpelledBelow_zero, Course.isSpelledBelow_succ, hl.candidate_name hg, htrees,
      if_true, beq_iff_eq, apply_ite TypeTree.leaf]
  | hgs, hcs, .target _ htarget hu hr => by
    obtain ⟨g, gs, rfl, rfl, hrest⟩ := List.map_eq_cons_iff.1 hcs.symm
    obtain ⟨hg, hgs⟩ := List.forall_mem_cons.1 hgs
    obtain ⟨x', hu', htree⟩ := hu.learn (handles_of_candidate htarget ▸ hg)
    obtain ⟨xs', hr', htrees⟩ := hr.learn hgs hrest.symm
    have htarget' := (candidate_target o o' g).trans htarget
    refine ⟨_, .target (Filters.none_excludes _ _) htarget' hu' hr', ?_⟩
    -- what is expanded does not stem from the name
    have hspelled : g.spelling? ≠ some n := by
      intro hg
      rw [(hl.candidate_of_spelled hg).1] at htarget
      cases htarget
    have hbelow : ∀ (x : Course H) (ys : List (Course H)),
        Course.isSpelledBelow o n (g :: gs) (x :: ys) 0 = x.isSpelled o n := by
      intro x ys
      rw [Course.isSpelledBelow_zero]
      funext p
      split_ifs with hp
      · rw [hp, Course.isSpelled_nil]
        simpa using hspelled
      · rfl
    simp only [Course.treeAll, TypeTree.replaceAll, hbelow, Course.isSpelledBelow_succ, htree,
      htrees]

end

end Learn

end Oracle

end TypeAncestry
