import TypeAncestry.Proofs.Registry.Changes
import TypeAncestry.Proofs.Registry.References
import TypeAncestry.Signature.Reading

/-!
# What stands below a type that is not known

A handle without a definition is that of a type that is not known, and its name is `?`.  A walk asks
nothing of it but its name, so nothing comes below such a type where it stands as a leaf or as it is
declared.  If it is applied, its arguments come below it all the same.

* `Registry.NoneUnknown`, `Registry.noneUnknown_after` : no definition is named `?`, and this stays
  so as long as none with this name is registered.
* `Oracle.Runs.at?` : what is done at a position of a course is a course itself.
* `Oracle.RunsAll.names` : the names of what comes below a type.
* `Registry.candidates_unknown` : the layer of a type that is not known.
* `Registry.lineage_wildcards` : which nodes named `?` have children.
-/

namespace TypeAncestry

/-! ### Names below a type -/

namespace Oracle

variable {H : Type} [DecidableEq H] {o : Oracle H} {f : Filters} {x : Course H} {p : Position}

/-- What is done at a position of a course is a course of its own. -/
theorem Runs.at? {t : Target H} {g g' : Guard (Target H)} {a : Attempt H} {ys : List (Course H)}
    (hr : o.Runs f t g x g') (ha : x.at? p = some (.attempt a ys)) :
    ∃ h h', o.Runs f a.target h (.attempt a ys) h' := by
  obtain ⟨n, hn⟩ | ⟨u, h, h', hu, -⟩ := hr.runs_at ha
  · cases hn
  · have htarget : a.target = u := by cases hu <;> rfl
    exact ⟨h, h', htarget ▸ hu⟩

/-- Where what is to be expanded stands under the name of its type, the names below a type are those
of the candidates that are not kept out. -/
theorem RunsAll.names {cs : List (Candidate H)} {g g' : Guard (Target H)} {xs : List (Course H)}
    (hcs : ∀ c ∈ cs, ∀ u, c.target = some u → c.name = o.canonicalName u.handle) :
    o.RunsAll f cs g xs g' → (xs.map fun x => (x.tree o).name) = (f.kept cs).map (·.name)
  | .nil => rfl
  | .excluded hx hr => by
    rw [Filters.kept_of_excluded _ hx]
    exact hr.names (List.forall_mem_cons.1 hcs).2
  | .leaf hx _ hr => by
    rw [Filters.kept_of_not_excluded _ hx, List.map_cons, List.map_cons,
      hr.names (List.forall_mem_cons.1 hcs).2]
    rfl
  | .target hx ht hu hr => by
    obtain ⟨hc, hcs⟩ := List.forall_mem_cons.1 hcs
    rw [Filters.kept_of_not_excluded _ hx, List.map_cons, List.map_cons, hr.names hcs,
      hu.tree_name, hc _ ht]

end Oracle

namespace Registry

variable {r : Registry} {h : Handle} {d : TypeDef} {c : Change} {cs : List Change}

/-! ### Registries without a definition named `?` -/

/-- No definition has the name of the types that are not known. -/
def NoneUnknown (r : Registry) : Prop := ∀ h d, r.get? h = some d → d.name ≠ Name.top

theorem noneUnknown_empty : empty.NoneUnknown := fun _ _ hd => nomatch hd

theorem noneUnknown_core : core.NoneUnknown := by
  have hall : ∀ d ∈ core.allDefinitions, d.name ≠ Name.top := by decide +kernel
  exact fun _ d hd => hall d (mem_allDefinitions hd)

theorem NoneUnknown.apply (hr : r.NoneUnknown) (hc : ∀ d ∈ c.definition?, d.name ≠ Name.top) :
    (r.apply c).NoneUnknown := by
  intro h d hd
  obtain ⟨e, rfl⟩ | hnone := c.cases
  · change (r.register e).2.get? h = some d at hd
    rw [get?_register] at hd
    split_ifs at hd
    · obtain rfl := Option.some.inj hd
      exact hc _ rfl
    · exact hr h d hd
  · -- a definition that is only amended keeps its name
    rw [get?_apply hnone] at hd
    obtain ⟨e, he, rfl⟩ := Option.map_eq_some_iff.1 hd
    rw [Change.amend_name]
    exact hr h e he

/-- **Changes that register no definition named `?` lead to none.** -/
theorem noneUnknown_after {start : Registry} (hstart : start = empty ∨ start = core)
    (hcs : ∀ d ∈ registrations cs, d.name ≠ Name.top) : (start.after cs).NoneUnknown := by
  induction cs using List.reverseRecOn with
  | nil =>
    rcases hstart with rfl | rfl
    · exact noneUnknown_empty
    · exact noneUnknown_core
  | append_singleton cs c ih =>
    rw [registrations_append, List.forall_mem_append] at hcs
    rw [after_concat]
    refine (ih hcs.1).apply fun d hd => hcs.2 d ?_
    exact List.mem_filterMap.2 ⟨c, List.mem_singleton_self c, hd⟩

theorem NoneUnknown.get?_eq_none (hr : r.NoneUnknown)
    (hname : r.oracle.canonicalName h = Name.top) : r.get? h = none := by
  rcases hd : r.get? h with _ | d
  · rfl
  · have : d.name = Name.top := by simpa [oracle, hd] using hname
    exact absurd this (hr h d hd)

/-! ### Types that are not known -/

/-- Below a type without a definition there is nothing but the arguments it is applied to. -/
theorem candidates_unknown (t : Target Handle) (ht : r.get? t.handle = none) :
    (r.oracle.layer t).candidates =
      match t with
      | .declared _ => []
      | .applied _ args => args.map (r.oracle.reference .argument) := by
  have hinterfaces : r.oracle.interfaces t.handle = [] := by simp [oracle, ht]
  have hsuper : r.oracle.superType t.handle = none := by simp [oracle, ht]
  have hparameters : r.oracle.typeParameters t.handle = [] := by simp [oracle, ht]
  simp only [Oracle.layer, Oracle.superLayer, hinterfaces, hsuper, List.map_nil, List.append_nil]
  cases t with
  | declared h =>
    rw [Target.handle] at hparameters
    simp [Oracle.parameters, hparameters]
  | applied h args => rfl

/-- The children of a type that is not known, in a walk. -/
theorem children_unknown {f : Filters} {t : Target Handle} {g g' : Guard (Target Handle)}
    {a : Attempt Handle} {ys : List (Course Handle)}
    (hr : r.oracle.Runs f t g (.attempt a ys) g') (ht : r.get? t.handle = none) (hys : ys ≠ []) :
    ∃ h args, t = .applied h args ∧
      (ys.map fun y => (y.tree r.oracle).name) =
        (f.kept (args.map (r.oracle.reference .argument))).map (·.name) := by
  cases hr with
  | refused => exact absurd rfl hys
  | entered he hall hl =>
    have hnames := hall.names fun c hc u hu => Oracle.layer_name hc hu
    rw [candidates_unknown t ht] at hnames
    cases t with
    | declared h => exact absurd (List.map_eq_nil_iff.1 hnames) hys
    | applied h args => exact ⟨h, args, rfl, hnames⟩

/-- **A node named `?` has no children, unless a type that is not known is applied there.**  Let a
registry come of the empty one, or of the one with the core types, by changes that register no
definition named `?`.  If a node of a lineage is named `?` and has children, then what the walk
expands at its place is an applied type without a definition, which some definition refers to, and
the children are named after its arguments, but for those that are filtered out. -/
theorem lineage_wildcards {start : Registry} (hstart : start = empty ∨ start = core)
    (cs : List Change) (hcs : ∀ d ∈ registrations cs, d.name ≠ Name.top) (f : Filters)
    (limits : Limits) (s : Subject Handle) :
    let r := start.after cs
    ∃ x, r.oracle.IsCourse f limits s x ∧
      ∀ p ts, (r.oracle.lineage f limits s).tree.at? p = some (.node Name.top ts) → ts ≠ [] →
        ∃ a ys h args, x.at? p = some (.attempt a ys) ∧ a.target = .applied h args ∧
          .applied h args ∈ r.applications ∧ r.get? h = none ∧
          ts.map (·.name) = (f.kept (args.map (r.oracle.reference .argument))).map (·.name) := by
  intro r
  have hr : r.NoneUnknown := noneUnknown_after hstart hcs
  obtain ⟨x, hx⟩ := r.oracle.exists_isCourse f limits s
  refine ⟨x, hx, fun p ts hat hts => ?_⟩
  rw [hx.tree, Course.at?_tree] at hat
  obtain ⟨y, hy, htree⟩ := Option.map_eq_some_iff.1 hat
  cases y with
  | leaf n =>
    obtain ⟨-, rfl⟩ := TypeTree.node.inj htree
    exact absurd rfl hts
  | attempt a ys =>
    obtain ⟨hname, rfl⟩ := TypeTree.node.inj htree
    rw [Course.treeAll_eq_map] at hts ⊢
    obtain ⟨k, -, hruns⟩ | ⟨n, rfl, -⟩ := hx.takes.cases
    · obtain ⟨g, g', ha⟩ := hruns.at? hy
      have hunknown := hr.get?_eq_none hname
      obtain ⟨h, args, htarget, hnames⟩ :=
        children_unknown ha hunknown fun hnil => hts (by rw [hnil]; rfl)
      -- an applied type that is expanded is written in a definition
      have hkey := ((hruns.spans (r.closed_keys k).obeyed List.mem_cons_self).attempts a
        (Course.mem_attempts_of_at? hy)).1
      rw [htarget] at hkey hunknown
      refine ⟨a, ys, h, args, hy, htarget, by simpa [keys] using hkey, hunknown, ?_⟩
      rw [List.map_map]
      exact hnames
    · exact absurd hy (Course.at?_leaf n p a ys)

/-- A class `a.Box` that implements a type without a definition, applied to `a.Box`. -/
def boxOfUnknown : List Change :=
  [.register { TypeDef.class_ "a.Box" with interfaces := [.applied ⟨7⟩ [.plain ⟨1⟩]] }]

/-- The child of `?` in the lineage of `a.Box` is named after the argument of the type that is
expanded there. -/
theorem lineage_wildcards_boxOfUnknown :
    (∀ d ∈ registrations boxOfUnknown, d.name ≠ Name.top) ∧
      ((empty.after boxOfUnknown).oracle.lineage .none .hierarchy (.type ⟨1⟩)).tree.at? [0] =
        some (.node Name.top [.leaf "a.Box"]) ∧
      ∃ x a ys h args, (empty.after boxOfUnknown).oracle.IsCourse .none .hierarchy (.type ⟨1⟩) x ∧
        x.at? [0] = some (.attempt a ys) ∧ a.target = .applied h args ∧
        .applied h args ∈ (empty.after boxOfUnknown).applications ∧
        (empty.after boxOfUnknown).get? h = none := by
  have hnames : ∀ d ∈ registrations boxOfUnknown, d.name ≠ Name.top := by decide
  have hat : ((empty.after boxOfUnknown).oracle.lineage .none .hierarchy (.type ⟨1⟩)).tree.at? [0] =
      some (.node Name.top [.leaf "a.Box"]) := by decide +kernel
  obtain ⟨x, hx, hall⟩ :=
    lineage_wildcards (.inl rfl) boxOfUnknown hnames .none .hierarchy (.type ⟨1⟩)
  obtain ⟨a, ys, h, args, hy, htarget, happlied, hunknown, -⟩ := hall [0] _ hat (by simp)
  exact ⟨hnames, hat, x, a, ys, h, args, hx, hy, htarget, happlied, hunknown⟩

/-- So not every node named `?` is a leaf, and the tree of a lineage may have a written form that is
not a signature. -/
theorem wildcard_with_children :
    (¬ ∀ (cs : List Change) (f : Filters) (limits : Limits) (s : Subject Handle),
      (∀ d ∈ registrations cs, d.name ≠ Name.top) →
        ∀ p ts, ((empty.after cs).oracle.lineage f limits s).tree.at? p =
          some (.node Name.top ts) → ts = []) ∧
      ((empty.after boxOfUnknown).oracle.lineage .none .hierarchy (.type ⟨1⟩)).tree.render =
        "a.Box<?<a.Box>>" ∧
      TypeTree.ofSignature "a.Box<?<a.Box>>" = .error (.unexpectedChar '<' 7) := by
  refine ⟨fun hleaf => ?_, by decide +kernel, rfl⟩
  have hnames : ∀ d ∈ registrations boxOfUnknown, d.name ≠ Name.top := by decide
  have hat : ((empty.after boxOfUnknown).oracle.lineage .none .hierarchy (.type ⟨1⟩)).tree.at? [0] =
      some (.node Name.top [.leaf "a.Box"]) := by decide +kernel
  have hnil := hleaf boxOfUnknown .none .hierarchy (.type ⟨1⟩) hnames [0] _ hat
  cases hnil

end Registry

end TypeAncestry
