import Mathlib.Data.List.Dedup
import TypeAncestry.Proofs.Lineage.Cycles
import TypeAncestry.Proofs.Lineage.Pruning
import TypeAncestry.Proofs.Lineage.Transparency

/-!
# The references of a registry

However the definitions of a registry refer to one another, its walks expand nothing but the type
that they start from, types that are super-types as they are, and applied types that are written
somewhere in a definition.  There are only so many of these, and in walks through a registry that
is all the bound there need be.

* `TypeRef.applications` : the applied types that are written in a reference.
* `Registry.keys`, `Registry.keyBound` : the types that can be expanded, and how many they are.
* `Registry.closed_keys` : nothing else comes below them.
* `Registry.lineage_cycles` : cycles alone bound a walk through a registry.
-/

namespace TypeAncestry

/-! ### Applied types in references -/

namespace TypeRef

variable {H : Type}

mutual

/-- The applied types that are written in a reference, however deep they lie among arguments. -/
def applications : TypeRef H → List (Target H)
  | plain _ => []
  | applied h args => .applied h args :: applicationsAll args
  | var _ => []

/-- The applied types that are written in a list of references. -/
def applicationsAll : List (TypeRef H) → List (Target H)
  | [] => []
  | r :: rs => r.applications ++ applicationsAll rs

end

theorem mem_applicationsAll {t : Target H} {rs : List (TypeRef H)} :
    t ∈ applicationsAll rs ↔ ∃ r ∈ rs, t ∈ r.applications := by
  induction rs with
  | nil => simp [applicationsAll]
  | cons r rs ih => simp [applicationsAll, ih]

theorem mem_applications_applied (h : H) (args : List (TypeRef H)) :
    .applied h args ∈ (applied h args).applications := by
  simp [applications]

mutual

/-- What is written in an argument is written in the reference. -/
theorem applications_trans {h : H} {args : List (TypeRef H)} {t : Target H} :
    ∀ r : TypeRef H, .applied h args ∈ r.applications → t ∈ applicationsAll args →
      t ∈ r.applications
  | plain _, hr, _ => nomatch hr
  | var _, hr, _ => nomatch hr
  | applied k as, hr, ht => by
    rw [applications] at hr ⊢
    rcases List.mem_cons.1 hr with heq | hr
    · obtain ⟨rfl, rfl⟩ := Target.applied.inj heq
      exact List.mem_cons_of_mem _ ht
    · exact List.mem_cons_of_mem _ (applicationsAll_trans as hr ht)

theorem applicationsAll_trans {h : H} {args : List (TypeRef H)} {t : Target H} :
    ∀ rs : List (TypeRef H), .applied h args ∈ applicationsAll rs → t ∈ applicationsAll args →
      t ∈ applicationsAll rs
  | [], hr, _ => nomatch hr
  | r :: rs, hr, ht => by
    rw [applicationsAll, List.mem_append] at hr ⊢
    exact hr.imp (applications_trans r · ht) (applicationsAll_trans rs · ht)

end

end TypeRef

/-! ### What is expanded below a type -/

namespace Oracle

variable {H : Type} {o : Oracle H} {t u : Target H} {c : Candidate H}

theorem reference_eq_applied {role : Role} {r : TypeRef H}
    (h : (o.reference role r).target = some u) :
    ∃ k as, r = .applied k as ∧ u = .applied k as := by
  cases r with
  | applied k as => exact ⟨k, as, rfl, (Option.some.inj h).symm⟩
  | plain k =>
    rw [reference_target rfl] at h
    cases h
  | var n => cases h

/-- What is expanded below a type is an applied type among its arguments or its interfaces, or its
super-type. -/
theorem layer_target (hc : c ∈ (o.layer t).candidates) (hu : c.target = some u) :
    (∃ h args k as, t = .applied h args ∧ .applied k as ∈ args ∧ u = .applied k as) ∨
      (∃ k as, .applied k as ∈ o.interfaces t.handle ∧ u = .applied k as) ∨
      ∃ r, o.superType t.handle = some r ∧ r.target? = some u := by
  simp only [layer, List.mem_append, List.mem_map] at hc
  rcases hc with (hc | ⟨r, hr, rfl⟩) | hc
  · refine .inl ?_
    cases t with
    | declared h =>
      obtain ⟨p, -, rfl⟩ := List.mem_map.1 hc
      cases hu
    | applied h args =>
      obtain ⟨r, hr, rfl⟩ := List.mem_map.1 hc
      obtain ⟨k, as, rfl, rfl⟩ := reference_eq_applied hu
      exact ⟨h, args, k, as, rfl, hr, rfl⟩
  · obtain ⟨k, as, rfl, rfl⟩ := reference_eq_applied hu
    exact .inr (.inl ⟨k, as, hr, rfl⟩)
  · refine .inr (.inr ?_)
    rw [superLayer_candidates] at hc
    rcases hs : o.superType t.handle with _ | r
    · rw [hs] at hc
      cases hc
    · rw [hs] at hc
      rcases ht : r.target? with _ | v
      · rw [ancestors_of_target_none ht] at hc
        cases hc
      · rcases htop : o.isUniversalTop v.handle
        · rw [ancestors_of_target ht htop] at hc
          obtain rfl := List.mem_singleton.1 hc
          exact ⟨r, rfl, ht.trans hu⟩
        · rw [ancestors_of_top ht htop] at hc
          cases hc

end Oracle

/-! ### The types that a registry can expand -/

/-- The value of a key is that of an entry. -/
theorem OrderedMap.exists_mem_of_get? {K V : Type} [DecidableEq K] {m : OrderedMap K V} {k : K}
    {v : V} (h : m.get? k = some v) : ∃ e ∈ m.entries, e.2 = v := by
  obtain ⟨es⟩ := m
  unfold get? at h
  induction es with
  | nil => cases h
  | cons e es ih =>
    rw [lookup] at h
    split at h
    · exact ⟨e, List.mem_cons_self, Option.some.inj h⟩
    · obtain ⟨e', he, hv⟩ := ih h
      exact ⟨e', List.mem_cons_of_mem _ he, hv⟩

namespace Registry

variable (r : Registry)

/-- The definitions. -/
def allDefinitions : List TypeDef := r.definitions.entries.map (·.2)

/-- The types that are super-types as they are, once for each definition. -/
def plainSuperTypes : List Handle :=
  r.allDefinitions.filterMap fun d =>
    match d.superType with
    | some (.plain h) => some h
    | _ => none

/-- The applied types that are written in the super-type or the interfaces of a definition. -/
def applications : List (Target Handle) :=
  r.allDefinitions.flatMap fun d =>
    TypeRef.applicationsAll (d.superType.toList ++ d.interfaces)

/-- How many types can be expanded: the one that a walk starts from, those that are super-types as
they are, and the applied types. -/
def keyBound : Nat := 1 + r.plainSuperTypes.dedup.length + r.applications.dedup.length

/-- The types that can be expanded in a walk that starts from `h`. -/
def keys (h : Handle) : List (Target Handle) :=
  .declared h :: (r.plainSuperTypes.dedup.map .declared ++ r.applications.dedup)

theorem length_keys (h : Handle) : (r.keys h).length = r.keyBound := by
  simp only [keys, keyBound, List.length_cons, List.length_append, List.length_map]
  omega

variable {r} {h k : Handle} {d : TypeDef}

theorem mem_allDefinitions (hd : r.get? h = some d) : d ∈ r.allDefinitions := by
  obtain ⟨e, he, rfl⟩ := OrderedMap.exists_mem_of_get? hd
  exact List.mem_map_of_mem he

theorem mem_keys_of_applications {t : Target Handle} (ht : t ∈ r.applications) : t ∈ r.keys h :=
  List.mem_cons_of_mem _ (List.mem_append_right _ (List.mem_dedup.2 ht))

/-- What is written in an interface or a super-type is among the applied types. -/
theorem mem_applications {ref : TypeRef Handle} {t : Target Handle} (hd : r.get? k = some d)
    (href : ref ∈ d.superType.toList ++ d.interfaces) (ht : t ∈ ref.applications) :
    t ∈ r.applications :=
  List.mem_flatMap.2 ⟨d, mem_allDefinitions hd, TypeRef.mem_applicationsAll.2 ⟨ref, href, ht⟩⟩

/-- **Nothing else comes below the types that can be expanded,** be the references cyclic or not. -/
theorem closed_keys (r : Registry) (h : Handle) : r.oracle.Closed (r.keys h) := by
  intro t ht c hc u hu
  obtain ⟨k, args, l, as, rfl, hmem, rfl⟩ | ⟨l, as, hmem, rfl⟩ | ⟨ref, href, hu⟩ :=
    Oracle.layer_target hc hu
  · -- an applied type that can be expanded is written in a definition, and so are its arguments
    have hwritten : .applied k args ∈ r.applications := by
      simpa [keys] using ht
    obtain ⟨d, hd, hwritten⟩ := List.mem_flatMap.1 hwritten
    have hargument := TypeRef.mem_applicationsAll.2 ⟨_, hmem, TypeRef.mem_applications_applied l as⟩
    exact mem_keys_of_applications
      (List.mem_flatMap.2 ⟨d, hd, TypeRef.applicationsAll_trans _ hwritten hargument⟩)
  · -- a handle without a definition has no interfaces
    rcases hd : r.get? t.handle with _ | d
    · simp [oracle, hd] at hmem
    · simp only [oracle, hd, Option.map_some, Option.getD_some] at hmem
      exact mem_keys_of_applications (mem_applications hd (List.mem_append_right _ hmem)
        (TypeRef.mem_applications_applied l as))
  · obtain ⟨d, hd, hsuper⟩ := Option.bind_eq_some_iff.1 href
    cases ref with
    | var n => cases hu
    | plain l =>
      obtain rfl := Option.some.inj hu
      have hplain : l ∈ r.plainSuperTypes :=
        List.mem_filterMap.2 ⟨d, mem_allDefinitions hd, by rw [hsuper]⟩
      exact List.mem_cons_of_mem _ (List.mem_append_left _
        (List.mem_map_of_mem (List.mem_dedup.2 hplain)))
    | applied l as =>
      obtain rfl := Option.some.inj hu
      have href : .applied l as ∈ d.superType.toList ++ d.interfaces :=
        List.mem_append_left _ (by rw [hsuper]; exact List.mem_singleton_self _)
      exact mem_keys_of_applications (mem_applications hd href
        (TypeRef.mem_applications_applied l as))

/-- **Cycles alone bound a walk through a registry.**  At every moment of the walk the types that
are open are distinct and not more than the types that can be expanded.  So if the limit on depth is
greater than their number, no type is refused for depth; and if the budget is not exceeded either,
nothing is reported to be cut off, and whatever is refused stands below a node of the same name at
which the same type is expanded. -/
theorem lineage_cycles (r : Registry) (f : Filters) (limits : Limits) (s : Subject Handle) :
    let l := r.oracle.lineage f limits s
    ∃ x, r.oracle.IsCourse f limits s x ∧
      (∀ a ∈ x.attempts, ∀ g ∈ a.guards, g.active.Nodup ∧ g.active.length ≤ r.keyBound) ∧
      (r.keyBound < limits.maxDepth.toNat →
        (∀ a ∈ x.attempts, a.answer ≠ .depthExceeded) ∧
          (l.steps ≤ limits.maxSteps.toNat →
            l.truncated = false ∧
              ∀ p a ys, x.at? p = some (.attempt a ys) → a.answer ≠ .entered →
                a.answer = .cycle ∧
                  ∃ q b zs, q.Above p ∧ x.at? q = some (.attempt b zs) ∧ b.answer = .entered ∧
                    b.target = a.target ∧
                    (l.tree.at? q).map (·.name) = (l.tree.at? p).map (·.name))) := by
  intro l
  obtain ⟨x, hx⟩ := r.oracle.exists_isCourse f limits s
  refine ⟨x, hx, ?_⟩
  obtain ⟨h, -, hruns⟩ | ⟨n, rfl, hg⟩ := hx.takes.cases
  · have hclosed := r.closed_keys h
    have hroot : .declared h ∈ r.keys h := List.mem_cons_self
    have htracks := hruns.tracks hclosed hroot
    refine ⟨fun a ha g hg => ?_, fun hroom => ?_⟩
    · obtain ⟨hg, -⟩ := htracks.2 a ha g hg
      exact ⟨hg.nodup, r.length_keys h ▸ hg.length_le⟩
    · obtain ⟨hdepth, hcycle⟩ :=
        hruns.cut_by_cycle hclosed hroot (by rw [length_keys]; exact hroom)
      refine ⟨hdepth, fun hbudget => ?_⟩
      obtain ⟨hwhole, hcycle⟩ := hcycle hbudget
      refine ⟨hwhole, fun p a ys hp hrefused => ?_⟩
      obtain ⟨hanswer, q, b, zs, hq, hb, hentered, htarget⟩ := hcycle p a ys hp hrefused
      refine ⟨hanswer, q, b, zs, hq, hb, hentered, htarget, ?_⟩
      have htree : l.tree = x.tree r.oracle := hx.tree
      rw [htree, Course.at?_tree, Course.at?_tree, hp, hb]
      simp [Course.tree, htarget]
  · have hwhole : l.truncated = false := congrArg Guard.truncated hg
    exact ⟨fun a ha => (nomatch ha), fun _ => ⟨fun a ha => (nomatch ha), fun _ =>
      ⟨hwhole, fun p a ys hp => absurd hp (Course.at?_leaf n p a ys)⟩⟩⟩

end Registry

/-- The cyclic registry has 5 types to expand: `a.Node`, from which the walk starts, `a.Base` and
`a.Node` again as super-types, and two applied types.  With one level more than that its walk is cut
off by cycles alone. -/
theorem lineage_cycles_cyclic :
    Registry.cyclic.keyBound < (⟨6, 100⟩ : Limits).maxDepth.toNat ∧
      (Registry.cyclic.oracle.lineage .none ⟨6, 100⟩ (.type ⟨1⟩)).steps ≤
        (⟨6, 100⟩ : Limits).maxSteps.toNat ∧
      (Registry.cyclic.oracle.lineage .none ⟨6, 100⟩ (.type ⟨1⟩)).truncated = false ∧
      (Registry.cyclic.oracle.lineage .none ⟨6, 100⟩ (.type ⟨1⟩)).tree =
        .node "a.Node"
          [.leaf "?",
            .node "a.List"
              [.node "a.Node" [.leaf "?", .leaf "a.List", .node "a.Base" [.leaf "a.Node"]],
                .leaf "a.Base"],
            .node "a.Base" [.leaf "a.Node"]] ∧
      ∃ x, Registry.cyclic.oracle.IsCourse .none ⟨6, 100⟩ (.type ⟨1⟩) x ∧
        (∀ a ∈ x.attempts, ∀ g ∈ a.guards, g.active.Nodup ∧ g.active.length ≤ 5) ∧
        (∀ a ∈ x.attempts, a.answer ≠ .depthExceeded) ∧
        ∀ p a ys, x.at? p = some (.attempt a ys) → a.answer ≠ .entered →
          a.answer = .cycle ∧ ∃ q b zs, q.Above p ∧ x.at? q = some (.attempt b zs) ∧
            b.answer = .entered ∧ b.target = a.target := by
  have hbound : Registry.cyclic.keyBound = 5 := by decide +kernel
  have hroom : Registry.cyclic.keyBound < (⟨6, 100⟩ : Limits).maxDepth.toNat := by
    rw [hbound]
    decide
  have hbudget : (Registry.cyclic.oracle.lineage .none ⟨6, 100⟩ (.type ⟨1⟩)).steps ≤
      (⟨6, 100⟩ : Limits).maxSteps.toNat := by decide +kernel
  obtain ⟨x, hx, hactive, hcut⟩ := Registry.cyclic.lineage_cycles .none ⟨6, 100⟩ (.type ⟨1⟩)
  obtain ⟨hdepth, hcycle⟩ := hcut hroom
  obtain ⟨hwhole, hcycle⟩ := hcycle hbudget
  refine ⟨hroom, hbudget, hwhole, by decide +kernel, x, hx, hbound ▸ hactive, hdepth, ?_⟩
  intro p a ys hp hrefused
  obtain ⟨hanswer, q, b, zs, hq, hb, hentered, htarget, -⟩ := hcycle p a ys hp hrefused
  exact ⟨hanswer, q, b, zs, hq, hb, hentered, htarget⟩

end TypeAncestry
