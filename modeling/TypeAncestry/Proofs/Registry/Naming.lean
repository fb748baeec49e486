import TypeAncestry.Proofs.Lineage.Stems
import TypeAncestry.Proofs.Registry.Coherence
import TypeAncestry.Proofs.Registry.Orders
import TypeAncestry.Proofs.Registry.Rounds
import TypeAncestry.Proofs.Registry.Wildcards

/-!
# The names in the lineages of a registry

A name comes into a tree in several ways: as the name of a type that is expanded or cut off, and as
that of a type to which another name leads, be it written in a definition or the name of a type
itself.  Wherever it comes from, it is the name of a definition, and names of definitions are
registered.

* `Registry.Indexed.canonicalName_mem` : types are named `?` or by a registered name.
* `Registry.Distinct` : no two definitions share a name.
* `Registry.lineage_names` : the names in a lineage.
* `Registry.lineage_names_wrapped` : the name of a leaf need not be qualified once handles are given
  out twice.
-/

namespace TypeAncestry

namespace Registry

variable {r : Registry} {h k : Handle} {d : TypeDef} {n : String} {cs : List Change}

/-! ### Names of types -/

theorem canonicalName_of_some (hd : r.get? h = some d) : r.oracle.canonicalName h = d.name := by
  simp [oracle, hd]

/-- A type is named `?` or by a registered name. -/
theorem Indexed.canonicalName_mem (hr : r.Indexed) (h : Handle) :
    r.oracle.canonicalName h = Name.top ∨ r.oracle.canonicalName h ∈ r.names.keys := by
  rcases hd : r.get? h with _ | d
  · exact .inl (by simp [oracle, hd])
  · obtain ⟨k, hk⟩ := hr.listed hd
    rw [canonicalName_of_some hd]
    exact .inr (mem_keys_names.2 ⟨k, hk⟩)

theorem reached_after_start {start : Registry} (hstart : start = empty ∨ start = core)
    (cs : List Change) : (start.after cs).Reached :=
  ⟨start.replay ++ cs, after_replay_append hstart cs⟩

/-- A name leads to a type with this name, if no handle has been given out twice. -/
theorem named_after_start {start : Registry} (hstart : start = empty ∨ start = core)
    (hcount : start.size + (registrations cs).length ≤ UInt32.size) : (start.after cs).Named := by
  rw [← after_replay_append hstart]
  refine named_after ?_
  rwa [registrations_replay_append, List.length_append, length_allDefinitions]

/-- No two definitions share a name. -/
def Distinct (r : Registry) : Prop :=
  ∀ {h k d e}, r.get? h = some d → r.get? k = some e → d.name = e.name → h = k

/-- Where names are not shared, no universal top is named like a type that is none. -/
theorem Distinct.not_top (hr : r.Distinct) (htop : r.oracle.isUniversalTop h = false)
    (hname : r.oracle.canonicalName h ≠ Name.top) (hd : r.get? k = some d)
    (hdtop : d.isTop = true) : d.name ≠ r.oracle.canonicalName h := by
  intro he
  rcases hh : r.get? h with _ | e
  · exact hname (by simp [oracle, hh])
  · rw [canonicalName_of_some hh] at he
    obtain rfl := hr hd hh he
    simp [oracle, hd, hdtop] at htop

/-! ### Names in lineages -/

section Walks

variable {f : Filters} {limits : Limits} {s : Subject Handle} {x y : Course Handle}
  {g : Guard (Target Handle)} {p : Position} {w : Origin Handle}

/-- Every origin gives its node the name `?`, or that of a type. -/
theorem candidate_name_cases (r : Registry) (w : Origin Handle) :
    (r.oracle.candidate w).name = Name.top ∨
      ∃ h, (r.oracle.candidate w).name = r.oracle.canonicalName h := by
  obtain hleaf | ⟨u, -, hname⟩ := r.oracle.isLeaf_or_target w
  · exact (Oracle.candidate_of_isLeaf hleaf).2.imp_right fun ⟨_, h, _, _, _, hname⟩ => ⟨h, hname⟩
  · exact .inr ⟨_, hname⟩

/-- **The nodes in a walk are named `?` or by a registered name.** -/
theorem Indexed.name_mem (hr : r.Indexed) (hx : r.oracle.Takes f limits s x g) (hs : s ≠ .null)
    (hy : x.at? p = some y) :
    (y.tree r.oracle).name = Name.top ∨ (y.tree r.oracle).name ∈ r.names.keys := by
  rcases hroot : r.oracle.root? s with _ | k
  · -- there is only one node
    simp only [Oracle.Takes, hroot] at hx
    obtain ⟨rfl, -⟩ := hx
    cases p with
    | cons i p => simp [Course.at?, Course.children] at hy
    | nil =>
      obtain rfl := Option.some.inj hy
      cases s with
      | null => exact absurd rfl hs
      | type | value => exact .inl rfl
  · simp only [Oracle.Takes, hroot] at hx
    by_cases hp : p = []
    · subst hp
      obtain rfl : x = y := by simpa [Course.at?] using hy
      rw [hx.tree_name]
      exact hr.canonicalName_mem _
    · obtain ⟨w, -, hname, -⟩ := hx.named_after_stem hy hp
      rw [hname]
      obtain htop | ⟨h, hh⟩ := r.candidate_name_cases w
      · exact .inl htop
      · rw [hh]
        exact hr.canonicalName_mem h

/-- A leaf that stems from a parameter, a type variable or a plain reference, or a super-type, has
the name of a type that is not the universal top. -/
theorem not_top_of_stem (hw : x.stem? r.oracle f p = some w)
    (hkind : w.isLeaf = true ∨ w.isSuperType = true) : (r.oracle.candidate w).name = Name.top ∨
      ∃ h, r.oracle.isUniversalTop h = false ∧
        (r.oracle.candidate w).name = r.oracle.canonicalName h := by
  rcases hkind with hleaf | hsuper
  · exact (Oracle.candidate_of_isLeaf hleaf).2.imp_right
      fun ⟨_, h, _, _, htop, hname⟩ => ⟨h, htop, hname⟩
  · obtain ⟨t, ht⟩ := Course.exists_mem_origins_of_stem? hw
    cases w with
    | superType u => exact .inr ⟨u.handle, Oracle.not_top_of_superType ht, rfl⟩
    | parameter | argument | interface => cases hsuper

end Walks

/-- **Only registered names appear in a lineage.**  Let a registry come of the empty one, or of the
one with the core types, by any changes.  In the lineage of any subject but the absent value, every
node is named `?` or by a registered name.  Every node but the root stems from something that the
definition of the type above says, and has its name from there.  What a declared parameter or a type
variable is written with leads to `?` if it leads nowhere.  A node that stems from a declared
parameter, a type variable or a plain argument or interface is a leaf and named `?` or by a
registered name, which is qualified as long as no handle has been given out twice.  If no two
definitions share a name, neither these leaves nor super-types are named like a universal top. -/
theorem lineage_names {start : Registry} (hstart : start = empty ∨ start = core)
    (cs : List Change) (f : Filters) (limits : Limits) (s : Subject Handle) :
    let r := start.after cs
    let l := r.oracle.lineage f limits s
    (s = .null → l.tree = .null) ∧
      (s ≠ .null → ∀ p u, l.tree.at? p = some u → u.name = Name.top ∨ u.name ∈ r.names.keys) ∧
      ∃ x, r.oracle.IsCourse f limits s x ∧
        ∀ p u, l.tree.at? p = some u → p ≠ [] → ∃ w, x.stem? r.oracle f p = some w ∧
          u.name = (r.oracle.candidate w).name ∧
          (∀ n, w.spelling? = some n → r.lookup n = none → u.name = Name.top) ∧
          (w.isLeaf = true → u.children = [] ∧ (u.name = Name.top ∨ u.name ∈ r.names.keys ∧
            (start.size + (registrations cs).length ≤ UInt32.size →
              Name.isQualified u.name = true))) ∧
          (r.Distinct → w.isLeaf = true ∨ w.isSuperType = true → u.name ≠ Name.top →
            ∀ h d, r.get? h = some d → d.isTop = true → d.name ≠ u.name) := by
  intro r l
  have hr : r.Indexed := (reached_after_start hstart cs).indexed
  obtain ⟨x, hx⟩ := r.oracle.exists_isCourse f limits s
  have hat : ∀ {p u}, l.tree.at? p = some u → ∃ y, x.at? p = some y ∧ y.tree r.oracle = u := by
    intro p u hu
    rwa [hx.tree, Course.at?_tree, Option.map_eq_some_iff] at hu
  refine ⟨?_, ?_, x, hx, ?_⟩
  · rintro rfl
    rfl
  · intro hs p u hu
    obtain ⟨y, hy, rfl⟩ := hat hu
    exact hr.name_mem hx.takes hs hy
  · intro p u hu hp
    obtain ⟨y, hy, rfl⟩ := hat hu
    obtain ⟨k, -, hruns⟩ | ⟨n, rfl, -⟩ := hx.takes.cases
    case inr =>
      obtain ⟨i, p, rfl⟩ := List.exists_cons_of_ne_nil hp
      simp [Course.at?, Course.children] at hy
    obtain ⟨w, hw, hname, hleaf⟩ := hruns.named_after_stem hy hp
    rw [hname]
    refine ⟨w, hw, rfl, fun n hn hunknown => ?_, fun hwleaf => ⟨hleaf hwleaf, ?_⟩,
      fun hdistinct hkind hne h d hd hdtop => ?_⟩
    · rw [Oracle.candidate_of_spelling hn]
      exact Oracle.resolvedName_of_unknown hunknown
    · obtain htop | ⟨n, h, hqualified, hh, -, hcanonical⟩ := (Oracle.candidate_of_isLeaf hwleaf).2
      · exact .inl htop
      · rw [hcanonical]
        refine (hr.canonicalName_mem h).imp_right fun hmem => ⟨hmem, fun hcount => ?_⟩
        obtain ⟨d, hd, rfl⟩ := named_after_start hstart hcount n h hh
        rwa [canonicalName_of_some hd]
    · obtain htop | ⟨k, hk, hcanonical⟩ := not_top_of_stem hw hkind
      · exact absurd htop hne
      · rw [hcanonical] at hne ⊢
        exact hdistinct.not_top hk hne hd hdtop

/-- A map whose first parameter is called like a registered type; it implements a key, which is
applied to the universal top, to the other parameter and to the base of the map. -/
def keyedMap : List Change :=
  [.register { TypeDef.class_ "a.Any" with isTop := true },
    .register { TypeDef.interface "a.Key" with typeParameters := ["K"] },
    .register ((TypeDef.class_ "a.Base").extending (.plain ⟨1⟩)),
    .register { TypeDef.class_ "a.Map" with
      typeParameters := ["a.Key", "V"]
      superType := some (.plain ⟨3⟩)
      interfaces := [.applied ⟨2⟩ [.plain ⟨1⟩, .var "V", .plain ⟨3⟩]] }]

/-- The first parameter leads to a type and the other one to `?`, and so does the universal top. -/
theorem lineage_names_keyedMap :
    let r := empty.after keyedMap
    let l := r.oracle.lineage .none .hierarchy (.type ⟨4⟩)
    l.tree = .node "a.Map" [.leaf "a.Key", .leaf "?",
        .node "a.Key" [.leaf "?", .leaf "?", .leaf "a.Base"], .leaf "a.Base"] ∧
      r.Distinct ∧ empty.size + (registrations keyedMap).length ≤ UInt32.size ∧
      r.names.keys = ["a.Any", "a.Key", "a.Base", "a.Map"] ∧
      (∀ p u, l.tree.at? p = some u → u.name = Name.top ∨ u.name ∈ r.names.keys) ∧
      ∃ x, r.oracle.IsCourse .none .hierarchy (.type ⟨4⟩) x ∧
        ∀ p u, l.tree.at? p = some u → p ≠ [] → ∃ w, x.stem? r.oracle .none p = some w ∧
          (w.isLeaf = true → u.name = Name.top ∨ Name.isQualified u.name = true) ∧
          (w.isLeaf = true ∨ w.isSuperType = true → u.name ≠ "a.Any") := by
  intro r l
  have hself : r.SelfContained := by decide +kernel
  have hdistinct : r.Distinct := hself.distinct
  have hcount : empty.size + (registrations keyedMap).length ≤ UInt32.size := by decide
  have hany : ∃ d, r.get? ⟨1⟩ = some d ∧ d.isTop = true ∧ d.name = "a.Any" := ⟨_, rfl, rfl, rfl⟩
  obtain ⟨d, hd, hdtop, hdname⟩ := hany
  obtain ⟨-, hnames, x, hx, hnodes⟩ :=
    lineage_names (.inl rfl) keyedMap .none .hierarchy (.type ⟨4⟩)
  refine ⟨by decide +kernel, hdistinct, hcount, by decide +kernel, hnames nofun, x, hx,
    fun p u hu hp => ?_⟩
  obtain ⟨w, hw, -, -, hleaf, htop⟩ := hnodes p u hu hp
  refine ⟨w, hw, fun hwleaf => ?_, fun hkind he => ?_⟩
  · exact (hleaf hwleaf).2.imp_right fun ⟨_, hqualified⟩ => hqualified hcount
  · have hne : u.name ≠ Name.top := by rw [he]; decide
    exact htop hdistinct hkind hne ⟨1⟩ d hd hdtop (hdname.trans he.symm)

/-- The first node below a type with a declared parameter stems from that. -/
theorem stem?_parameter {x : Course Handle} {g : Guard (Target Handle)} {limits : Limits}
    {p : String} (hx : r.oracle.Takes .none limits (.type h) x g) (hroot : r.oracle.root? (.type h) = some h)
    (hp : r.oracle.typeParameters h = [p]) : x.stem? r.oracle .none [0] = some (.parameter p) := by
  simp only [Oracle.Takes, hroot] at hx
  obtain ⟨a, xs, rfl, ha⟩ : ∃ a xs, x = .attempt a xs ∧ a.target = .declared h := by
    cases hx with
    | refused => exact ⟨_, _, rfl, rfl⟩
    | entered => exact ⟨_, _, rfl, rfl⟩
  refine (Course.stem?_concat (q := []) rfl).trans ?_
  rw [ha]
  simp [Oracle.stems, Oracle.origins, Oracle.parameterOrigins, hp]

/-- When all handles have been given out, the name of the first class leads to what is registered
next.  If the name of that is not qualified, it stands in the lineage of a box with a parameter that
is called like the first class. -/
theorem lineage_names_wrapped :
    let r := ((round (.class_ "a.First")
      (boxed (UInt32.size - 3) (.class_ "a.Middle"))).register (.class_ "Last")).2
    r.Reached ∧
      (r.oracle.lineage .none .hierarchy (.type ⟨2⟩)).tree = .node "a.Box" [.leaf "Last"] ∧
      Name.isQualified "Last" = false ∧
      ∃ x, r.oracle.IsCourse .none .hierarchy (.type ⟨2⟩) x ∧
        x.stem? r.oracle .none [0] = some (.parameter "a.First") := by
  generalize hn : UInt32.size - 3 = n
  intro r
  have hlength : (boxed n (.class_ "a.Middle")).length + 1 = UInt32.size := by
    rw [length_boxed, ← hn]
    decide
  have hfirst : ∀ e ∈ boxed n (.class_ "a.Middle"), e.name ≠ "a.First" :=
    name_ne_of_mem_boxed (by decide) (by decide) (by decide)
  have hbox : r.get? ⟨2⟩ = some openBox := (get?_register_round hlength).2 ⟨0, rfl, rfl⟩
  refine ⟨reached_register_round _ _ _, ?_, by decide, ?_⟩
  · exact lineage_tree_openBox hbox (lookup_register_round hfirst (by decide))
      (get?_first_register_round hlength) rfl
  · obtain ⟨x, hx⟩ := r.oracle.exists_isCourse .none .hierarchy (.type ⟨2⟩)
    exact ⟨x, hx, stem?_parameter hx.takes (root?_openBox hbox) (typeParameters_openBox hbox)⟩

end Registry

end TypeAncestry
