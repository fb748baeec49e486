import TypeAncestry.Proofs.Lineage.Origins

/-!
# What stands where in a lineage

Of the origins of a type the filters keep some out.  What is left comes to stand below the type, in
order, and each origin says under which name, and whether as a leaf.

* `Oracle.stems`, `Course.stem?` : what stems from what, where filters are.
* `Oracle.RunsAll.getElem?` : what is done for the candidate at a place.
* `Oracle.Runs.exists_stem` : every node but the root stems from something.
* `Origin.isLeaf`, `Oracle.candidate_of_isLeaf` : what stands in a tree as a leaf, and its name.
* `Oracle.Runs.named_after_stem` : what a node stems from gives it its name.
-/

namespace TypeAncestry

variable {H : Type}

/-! ### Stems -/

namespace Oracle

variable (o : Oracle H) (f : Filters)

/-- The origins of a type that are not kept out. -/
def stems (t : Target H) : List (Origin H) :=
  (o.origins t).filter fun g => !f.excludes (o.candidate g).role.filterKind (o.candidate g).name

theorem kept_layer (t : Target H) :
    f.kept (o.layer t).candidates = (o.stems f t).map o.candidate := by
  rw [layer_candidates, Filters.kept, List.filter_map]
  rfl

end Oracle

namespace Course

variable {x y : Course H} {p q : Position} {i : Nat}

theorem at?_concat_eq_some_iff :
    x.at? (q ++ [i]) = some y ↔ ∃ z, x.at? q = some z ∧ z.children[i]? = some y := by
  rw [at?_append, Option.bind_eq_some_iff]
  simp [at?]

variable (o : Oracle H) (f : Filters)

/-- What the node at a position stems from; the root stems from nothing. -/
def stem? (x : Course H) (p : Position) : Option (Origin H) :=
  p.getLast?.bind fun i =>
    match x.at? p.dropLast with
    | some (attempt a _) => (o.stems f a.target)[i]?
    | _ => none

variable {o f}

theorem stem?_concat {a : Attempt H} {ys : List (Course H)} (h : x.at? q = some (.attempt a ys)) :
    x.stem? o f (q ++ [i]) = (o.stems f a.target)[i]? := by
  rw [stem?, List.getLast?_concat, List.dropLast_concat, h]
  rfl

/-- What a node stems from is an origin of a type. -/
theorem exists_mem_origins_of_stem? {w : Origin H} (h : x.stem? o f p = some w) :
    ∃ t, w ∈ o.origins t := by
  obtain ⟨i, -, h⟩ := Option.bind_eq_some_iff.1 h
  split at h
  · exact ⟨_, (List.mem_filter.1 (List.mem_of_getElem? h)).1⟩
  · cases h

end Course

namespace Oracle

variable [DecidableEq H] {o : Oracle H} {f : Filters}

/-- Every candidate that is not kept out gets its course, in its place. -/
theorem RunsAll.getElem? {cs : List (Candidate H)} {g g' : Guard (Target H)}
    {xs : List (Course H)} {i : Nat} {y : Course H} :
    o.RunsAll f cs g xs g' → xs[i]? = some y → ∃ c, (f.kept cs)[i]? = some c ∧
      ((c.target = none ∧ y = .leaf c.name) ∨
        ∃ u h h', c.target = some u ∧ o.Runs f u h y h')
  | .nil, hy => by simp at hy
  | .excluded hx hr, hy => by
    rw [Filters.kept_of_excluded _ hx]
    exact hr.getElem? hy
  | .leaf (c := c) hx ht hr, hy => by
    rw [Filters.kept_of_not_excluded _ hx]
    cases i with
    | zero =>
      obtain rfl : Course.leaf c.name = y := by simpa using hy
      exact ⟨c, rfl, .inl ⟨ht, rfl⟩⟩
    | succ i => exact hr.getElem? (by simpa using hy)
  | .target (c := c) (t := u) (x := x) hx ht hu hr, hy => by
    rw [Filters.kept_of_not_excluded _ hx]
    cases i with
    | zero =>
      obtain rfl : x = y := by simpa using hy
      exact ⟨c, rfl, .inr ⟨u, _, _, ht, hu⟩⟩
    | succ i => exact hr.getElem? (by simpa using hy)

/-- **Every node but the root stems from something,** which says whether it is a leaf and, if not,
what is expanded there. -/
theorem Runs.exists_stem {t : Target H} {g g' : Guard (Target H)} {x y : Course H} {p : Position}
    (hr : o.Runs f t g x g') (hy : x.at? p = some y) (hp : p ≠ []) :
    ∃ w, x.stem? o f p = some w ∧
      (((o.candidate w).target = none ∧ y = .leaf (o.candidate w).name) ∨
        ∃ u h h', (o.candidate w).target = some u ∧ o.Runs f u h y h') := by
  obtain ⟨q, i, rfl⟩ := (List.eq_nil_or_concat p).resolve_left hp
  rw [List.concat_eq_append] at hy ⊢
  obtain ⟨z, hz, hzy⟩ := Course.at?_concat_eq_some_iff.1 hy
  obtain ⟨n, rfl⟩ | ⟨u, h, h', hu, -⟩ := hr.runs_at hz
  · simp [Course.children] at hzy
  · cases hu with
    | refused => simp [Course.children] at hzy
    | entered _ hall _ =>
      obtain ⟨c, hc, hcourse⟩ := hall.getElem? hzy
      rw [kept_layer, List.getElem?_map, Option.map_eq_some_iff] at hc
      obtain ⟨w, hw, rfl⟩ := hc
      exact ⟨w, (Course.stem?_concat hz).trans hw, hcourse⟩

end Oracle

/-! ### Names of nodes -/

namespace Origin

/-- A declared parameter, a type variable and a plain reference stand in a tree as leaves. -/
def isLeaf : Origin H → Bool
  | parameter _ => true
  | argument r => !r.isApplied
  | interface r => !r.isApplied
  | superType _ => false

/-- The origin is a super-type. -/
def isSuperType : Origin H → Bool
  | superType _ => true
  | _ => false

theorem isLeaf_of_spelling? {w : Origin H} {n : String} (hw : w.spelling? = some n) :
    w.isLeaf = true := by
  rcases w with p | (h | ⟨h, args⟩ | v) | (h | ⟨h, args⟩ | v) | u
  case parameter | argument.var | interface.var => rfl
  all_goals cases hw

end Origin

namespace Oracle

variable {o : Oracle H} {w : Origin H}

/-- A name leads to `?`, or it is qualified and leads to the name of a type that is not the
universal top. -/
theorem resolvedName_cases (o : Oracle H) (n : String) : o.resolvedName n = Name.top ∨
    ∃ h, Name.isQualified n = true ∧ o.resolve n = some h ∧ o.isUniversalTop h = false ∧
      o.resolvedName n = o.canonicalName h := by
  unfold resolvedName
  by_cases hp : Name.isPlaceholder n = true
  · exact .inl (if_pos hp)
  · have hqualified : Name.isQualified n = true := by simpa [Name.isPlaceholder] using hp
    rw [if_neg hp]
    rcases o.resolve n with _ | h
    · exact .inl rfl
    · rcases htop : o.isUniversalTop h
      · exact .inr ⟨h, hqualified, rfl, htop, by simp [htop]⟩
      · exact .inl (by simp [htop])

theorem resolvedName_of_unknown {n : String} (hn : o.resolve n = none) :
    o.resolvedName n = Name.top := by
  obtain h | ⟨h, -, hh, -⟩ := o.resolvedName_cases n
  · exact h
  · rw [hn] at hh
    cases hh

/-- What a parameter or a type variable is written with is resolved. -/
theorem candidate_of_spelling {n : String} (hw : w.spelling? = some n) :
    (o.candidate w).name = o.resolvedName n := by
  rcases w with p | (h | ⟨h, args⟩ | v) | (h | ⟨h, args⟩ | v) | u
  case parameter | argument.var | interface.var =>
    obtain rfl := Option.some.inj hw
    exact leafName_fst _
  all_goals cases hw

/-- **A leaf is named `?`, or a qualified name leads to the type whose name it has,** which is not
the universal top. -/
theorem candidate_of_isLeaf (hw : w.isLeaf = true) : (o.candidate w).target = none ∧
    ((o.candidate w).name = Name.top ∨
      ∃ n h, Name.isQualified n = true ∧ o.resolve n = some h ∧ o.isUniversalTop h = false ∧
        (o.candidate w).name = o.canonicalName h) := by
  have hresolved : ∀ n, o.resolvedName n = Name.top ∨
      ∃ m h, Name.isQualified m = true ∧ o.resolve m = some h ∧ o.isUniversalTop h = false ∧
        o.resolvedName n = o.canonicalName h :=
    fun n => (o.resolvedName_cases n).imp_right fun hn => ⟨n, hn⟩
  have hplain : ∀ role r, TypeRef.isApplied r = false → (o.reference role r).target = none ∧
      ((o.reference role r).name = Name.top ∨
        ∃ n h, Name.isQualified n = true ∧ o.resolve n = some h ∧ o.isUniversalTop h = false ∧
          (o.reference role r).name = o.canonicalName h) := by
    intro role r hr
    refine ⟨reference_target hr, ?_⟩
    rw [(reference_shownName role r).1]
    cases r with
    | applied => cases hr
    | var v => exact hresolved v
    | plain h =>
      rw [shownName]
      split
      · exact .inl rfl
      · exact hresolved _
  cases w with
  | parameter p =>
    refine ⟨rfl, ?_⟩
    have hname : (o.candidate (.parameter p)).name = o.resolvedName p := leafName_fst p
    rw [hname]
    exact hresolved p
  | argument r => exact hplain _ r (by simpa [Origin.isLeaf] using hw)
  | interface r => exact hplain _ r (by simpa [Origin.isLeaf] using hw)
  | superType u => cases hw

/-- What stems from anything else is to be expanded, and stands under the name of its type. -/
theorem isLeaf_or_target (o : Oracle H) (w : Origin H) : w.isLeaf = true ∨
    ∃ u, (o.candidate w).target = some u ∧ (o.candidate w).name = o.canonicalName u.handle := by
  rcases w with p | (h | ⟨h, args⟩ | v) | (h | ⟨h, args⟩ | v) | u
  case argument.applied | interface.applied | superType => exact .inr ⟨_, rfl, rfl⟩
  all_goals exact .inl rfl

/-- **Every node but the root has the name that its stem gives it,** and where the stem says so it
is a leaf. -/
theorem Runs.named_after_stem [DecidableEq H] {f : Filters} {t : Target H}
    {g g' : Guard (Target H)} {x y : Course H} {p : Position} (hr : o.Runs f t g x g')
    (hy : x.at? p = some y) (hp : p ≠ []) :
    ∃ w, x.stem? o f p = some w ∧ (y.tree o).name = (o.candidate w).name ∧
      (w.isLeaf = true → (y.tree o).children = []) := by
  obtain ⟨w, hw, hcourse⟩ := hr.exists_stem hy hp
  refine ⟨w, hw, ?_⟩
  obtain ⟨-, rfl⟩ | ⟨u, h, h', hu, hy⟩ := hcourse
  · exact ⟨rfl, fun _ => rfl⟩
  · rcases hleaf : w.isLeaf
    · obtain ⟨v, hv, hname⟩ := (o.isLeaf_or_target w).resolve_left (by simp [hleaf])
      obtain rfl := Option.some.inj (hv.symm.trans hu)
      exact ⟨hy.tree_name.trans hname.symm, nofun⟩
    · rw [(candidate_of_isLeaf hleaf).1] at hu
      cases hu

/-- What is the universal top is no super-type in a tree. -/
theorem not_top_of_superType {t u : Target H} (hu : .superType u ∈ o.origins t) :
    o.isUniversalTop u.handle = false := by
  have hparameters : .superType u ∉ o.parameterOrigins t := by
    cases t <;> simp [parameterOrigins]
  have hinterfaces : Origin.superType u ∉ (o.interfaces t.handle).map .interface := by simp
  simp only [origins, List.mem_append, hparameters, hinterfaces, false_or] at hu
  obtain ⟨v, hv, he⟩ := List.mem_map.1 hu
  obtain rfl := Origin.superType.inj he
  simpa using (List.mem_filter.1 hv).2

end Oracle

end TypeAncestry
