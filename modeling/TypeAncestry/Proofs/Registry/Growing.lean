import TypeAncestry.Proofs.Lineage.Learning
import TypeAncestry.Proofs.Registry.Rounds

/-!
# Registering one more type

A definition with a new name is registered under a handle to which nothing refers yet.  All that a
walk from another type can notice is the name: where a declared parameter or a type variable is
spelled like it, the leaf `?` becomes the new type, unless this is the universal top or its name is
a placeholder.

* `Registry.learns_register` : a registration teaches the oracle of a registry one name.
* `Registry.lineage_register` : what it makes of the lineages that there were.
* `Registry.lineage_register_wrapped` : a handle that is not new may change a lineage.
-/

namespace TypeAncestry

namespace Registry

variable {r : Registry} {d e : TypeDef} {h : Handle} {s : Subject Handle}

theorem get?_register_of_ne (d : TypeDef) (hne : h ≠ r.next) :
    (r.register d).2.get? h = r.get? h := by
  rw [get?_register, if_neg hne]

theorem lookup_register_of_ne {n : String} (hne : n ≠ d.name) :
    (r.register d).2.lookup n = r.lookup n := by
  rw [lookup_register, if_neg hne]

/-- **A registration teaches a registry one name,** if the name is new, the handle is, and no
definition refers to it. -/
theorem learns_register (hr : r.Reached) (hname : r.lookup d.name = none)
    (hnew : r.get? r.next = none) (hunused : ∀ h e, r.get? h = some e → r.next ∉ e.handles) :
    r.oracle.Learns (r.register d).2.oracle d.name (· ≠ r.next) where
  closed := by
    intro h _ ref href k hk
    rintro rfl
    rcases he : r.get? h with _ | e
    · simp [oracle, he] at href
    · refine hunused h e he (TypeRef.mem_handlesAll.2 ⟨ref, ?_, hk⟩)
      simpa [oracle, he] using href
  found := by
    rintro m h hfound rfl
    obtain ⟨e, he⟩ := hr.indexed.stored hfound
    rw [hnew] at he
    cases he
  unknown := hname
  unnamed := by
    intro h _ hcanonical
    rcases he : r.get? h with _ | e
    · -- a handle without a definition is that of a type that is not known
      have htop : Name.top = d.name := by simpa [oracle, he] using hcanonical
      rw [← htop]
      decide +kernel
    · have hsame : e.name = d.name := by simpa [oracle, he] using hcanonical
      obtain ⟨k, hk⟩ := hr.indexed.listed he
      rw [hsame, hname] at hk
      cases hk
  resolve m hm := lookup_register_of_ne hm
  canonicalName h hne := by simp only [oracle, get?_register_of_ne d hne]
  typeParameters h hne := by simp only [oracle, get?_register_of_ne d hne]
  superType h hne := by simp only [oracle, get?_register_of_ne d hne]
  interfaces h hne := by simp only [oracle, get?_register_of_ne d hne]
  isUniversalTop h hne := by simp only [oracle, get?_register_of_ne d hne]

/-- What the name of a new definition leads to. -/
theorem resolvedName_register (r : Registry) (d : TypeDef) :
    (r.register d).2.oracle.resolvedName d.name =
      if Name.isQualified d.name && !d.isTop then d.name else Name.top := by
  have hlookup : (r.register d).2.oracle.resolve d.name = some r.next := by
    simp [oracle, lookup_register]
  have htop : (r.register d).2.oracle.isUniversalTop r.next = d.isTop := by
    simp [oracle, get?_register]
  have hcanonical : (r.register d).2.oracle.canonicalName r.next = d.name := by
    simp [oracle, get?_register]
  simp only [Oracle.resolvedName, hlookup, htop, hcanonical, Name.isPlaceholder]
  rcases Name.isQualified d.name <;> rcases d.isTop <;> rfl

/-- A subject that leads to a type that is not primitive still leads to it: the names of the boxed
types that there are are not new. -/
theorem root?_register (hname : r.lookup d.name = none) (hnew : r.get? r.next = none)
    (hroot : r.oracle.root? s = some h) (he : r.get? h = some e)
    (hprimitive : e.primitive? = none) : (r.register d).2.oracle.root? s = some h := by
  have hboxed : ∀ k, (r.oracle.boxed k).1 = h → ((r.register d).2.oracle.boxed k).1 = h := by
    intro k hk
    have hne : k ≠ r.next := by
      rintro rfl
      have hself : (r.oracle.boxed r.next).1 = r.next := by simp [Oracle.boxed, oracle, hnew]
      rw [← hk, hself, hnew] at he
      cases he
    have hkind : (r.register d).2.oracle.primitiveKind k = r.oracle.primitiveKind k := by
      simp only [oracle, get?_register_of_ne d hne]
    unfold Oracle.boxed at hk ⊢
    rw [hkind]
    rcases hp : r.oracle.primitiveKind k with _ | p
    · rw [hp] at hk
      exact hk
    · rcases hb : r.oracle.resolve p.boxedName with _ | b
      · -- without a boxed type the subject would lead to the primitive type itself
        simp only [hp, hb] at hk
        rw [← hk] at he
        simp [oracle, he, hprimitive] at hp
      · have hboxedName : p.boxedName ≠ d.name := by
          intro hsame
          change r.lookup p.boxedName = some b at hb
          rw [hsame, hname] at hb
          cases hb
        have hb' : (r.register d).2.oracle.resolve p.boxedName = some b :=
          (lookup_register_of_ne hboxedName).trans hb
        simp only [hp, hb] at hk
        simp only [hb', hk]
  cases s with
  | type k =>
    have hk : (r.oracle.boxed k).1 = h := Option.some.inj hroot
    exact congrArg some (hboxed k hk)
  | null => cases hroot
  | value tag =>
    obtain ⟨k, hk, hh⟩ := Option.map_eq_some_iff.1 hroot
    exact Option.map_eq_some_iff.2 ⟨k, hk, hboxed k hh⟩

/-- **Registering one more type only fills in what was left open.**  Let a definition be registered
whose name is new, whose handle is new, as it is while there are handles left (`get?_next_after`),
and to whose handle no definition refers.  In the lineage of
a subject that leads to a type which was there and is not primitive, the nodes that stem from a
declared parameter or a type variable with this name were `?`.  If the name is qualified and the new
type is not the universal top, they become childless nodes with this name; otherwise they stay as
they are.  Nothing else becomes of the tree, and as many steps are counted and the same is reported
of the limits as before. -/
theorem lineage_register (hr : r.Reached) (hname : r.lookup d.name = none)
    (hnew : r.get? r.next = none) (hunused : ∀ h e, r.get? h = some e → r.next ∉ e.handles)
    (hroot : r.oracle.root? s = some h) (he : r.get? h = some e) (hprimitive : e.primitive? = none)
    (limits : Limits) :
    let l := r.oracle.lineage .none limits s
    let l' := (r.register d).2.oracle.lineage .none limits s
    ∃ x, r.oracle.IsCourse .none limits s x ∧
      (∀ p u, l.tree.at? p = some u → x.isSpelled r.oracle d.name p = true → u = .top) ∧
      l'.tree =
        (if Name.isQualified d.name && !d.isTop then
          l.tree.replace (fun _ => .leaf d.name) (x.isSpelled r.oracle d.name)
        else l.tree) ∧
      l'.steps = l.steps ∧ l'.truncated = l.truncated := by
  intro l l'
  have hl := learns_register hr hname hnew hunused
  have hold : ∀ k ∈ (Target.declared h).handles, k ≠ r.next := by
    intro k hk
    rintro rfl
    rw [List.mem_singleton.1 hk] at hnew
    rw [hnew] at he
    cases he
  have hroot' := root?_register hname hnew hroot he hprimitive
  obtain ⟨x, hx⟩ := r.oracle.exists_isCourse .none limits s
  obtain ⟨y, hy⟩ := (r.register d).2.oracle.exists_isCourse .none limits s
  have hruns := hx.takes
  have hruns' := hy.takes
  simp only [Oracle.Takes, hroot] at hruns
  simp only [Oracle.Takes, hroot'] at hruns'
  -- the walk takes the same course as before, and there is no other one to take
  obtain ⟨x', hlearned, htree⟩ := hruns.learn hl hold
  obtain ⟨rfl, hguard⟩ := hruns'.unique hlearned
  have hspelled : ∀ p u, l.tree.at? p = some u → x.isSpelled r.oracle d.name p = true →
      u = .top := by
    intro p u hu hp
    rw [hx.tree] at hu
    exact hruns.spelled hl hu hp
  refine ⟨x, hx, hspelled, ?_, congrArg Guard.steps hguard, congrArg Guard.truncated hguard⟩
  rw [← hx.tree, ← hy.tree, resolvedName_register] at htree
  refine Eq.trans htree ?_
  split_ifs
  · rfl
  · exact TypeTree.replace_eq_self fun p u hu hp => (hspelled p u hu hp).symm

/-- A box is a list of items and an item itself, before there are items. -/
def box : List Change :=
  [.register { TypeDef.interface "a.List" with typeParameters := ["E"] },
    .register { TypeDef.class_ "a.Box" with
      typeParameters := ["a.Item", "T"]
      superType := some (.var "a.Item")
      interfaces := [.applied ⟨1⟩ [.var "a.Item"], .var "a.Item"] }]

/-- When items are registered, they are filled in as a parameter, an argument and an interface of
the box, but its parameter `T` stays open and its super-type stays away. -/
theorem lineage_register_box :
    let r := empty.after box
    let d := TypeDef.class_ "a.Item"
    let l := r.oracle.lineage .none ⟨3, 9⟩ (.type ⟨2⟩)
    let l' := (r.register d).2.oracle.lineage .none ⟨3, 9⟩ (.type ⟨2⟩)
    r.lookup d.name = none ∧ r.get? r.next = none ∧ r.oracle.root? (.type ⟨2⟩) = some ⟨2⟩ ∧
      l.tree = .node "a.Box" [.leaf "?", .leaf "?", .node "a.List" [.leaf "?"], .leaf "?"] ∧
      l'.tree = .node "a.Box"
        [.leaf "a.Item", .leaf "?", .node "a.List" [.leaf "a.Item"], .leaf "a.Item"] ∧
      l'.steps = l.steps ∧
      ∃ x, r.oracle.IsCourse .none ⟨3, 9⟩ (.type ⟨2⟩) x ∧
        l'.tree = l.tree.replace (fun _ => .leaf "a.Item") (x.isSpelled r.oracle "a.Item") := by
  intro r d l l'
  have hname : r.lookup d.name = none := by decide +kernel
  have hnew : r.get? r.next = none := get?_next_after (by decide)
  have hunused : ∀ h e, r.get? h = some e → r.next ∉ e.handles := by
    intro h e he
    have hall : ∀ h ∈ handed box, ∀ e ∈ r.get? h, r.next ∉ e.handles := by decide +kernel
    exact hall h (mem_handed_of_get? he) e he
  have hroot : r.oracle.root? (.type ⟨2⟩) = some ⟨2⟩ := rfl
  obtain ⟨x, hx, -, htree, hsteps, -⟩ :=
    lineage_register ⟨box, rfl⟩ hname hnew hunused hroot rfl rfl ⟨3, 9⟩
  have hqualified : (Name.isQualified d.name && !d.isTop) = true := by decide +kernel
  rw [if_pos hqualified] at htree
  exact ⟨hname, hnew, hroot, by decide +kernel, by decide +kernel, hsteps, x, hx, htree⟩

/-- When all handles have been given out, the next one is that of the first class, to which no
definition refers, but the name of the class does: what is registered then appears in the lineage of
a box with a parameter of that name, which had nothing left open. -/
theorem lineage_register_wrapped :
    let r := round (.class_ "a.First") (boxed (UInt32.size - 3) (.class_ "a.Middle"))
    let d := TypeDef.class_ "a.Last"
    r.Reached ∧ r.lookup d.name = none ∧ (∀ h e, r.get? h = some e → r.next ∉ e.handles) ∧
      r.oracle.root? (.type ⟨2⟩) = some ⟨2⟩ ∧ r.get? ⟨2⟩ = some openBox ∧
      openBox.primitive? = none ∧
      (r.oracle.lineage .none .hierarchy (.type ⟨2⟩)).tree = .node "a.Box" [.leaf "a.First"] ∧
      ((r.register d).2.oracle.lineage .none .hierarchy (.type ⟨2⟩)).tree =
        .node "a.Box" [.leaf "a.Last"] := by
  -- how many handles there are does not matter from here on
  generalize hn : UInt32.size - 3 = n
  intro r d
  have hlength : (boxed n (.class_ "a.Middle")).length + 1 = UInt32.size := by
    rw [length_boxed, ← hn]
    decide
  have hfirst : ∀ e ∈ boxed n (.class_ "a.Middle"), e.name ≠ "a.First" :=
    name_ne_of_mem_boxed (by decide) (by decide) (by decide)
  have hbox : r.get? ⟨2⟩ = some openBox := (get?_round hlength).2 ⟨1, rfl, rfl⟩
  have hbare : ∀ e ∈ TypeDef.class_ "a.First" :: boxed n (.class_ "a.Middle"),
      e.handles = [] := by
    refine List.forall_mem_cons.2 ⟨rfl, fun e he => ?_⟩
    exact handles_of_bare (bare_of_mem_boxed ⟨rfl, rfl⟩ e he)
  have hbox' : (r.register d).2.get? ⟨2⟩ = some openBox :=
    (get?_register_round hlength).2 ⟨0, rfl, rfl⟩
  refine ⟨⟨_, rfl⟩, lookup_round_of_ne (by decide) (name_ne_of_mem_boxed (by decide) (by decide)
    (by decide)), fun h e he hmem => ?_, ?_, hbox, rfl, ?_, ?_⟩
  · obtain ⟨i, hi, -⟩ := (get?_round hlength).1 he
    rw [hbare e (List.mem_of_getElem? hi)] at hmem
    cases hmem
  · exact root?_openBox hbox
  · exact lineage_tree_openBox hbox (lookup_round hfirst)
      ((get?_round hlength).2 ⟨0, rfl, rfl⟩) rfl
  · exact lineage_tree_openBox hbox' (lookup_register_round hfirst (by decide))
      (get?_first_register_round hlength) rfl

end Registry

end TypeAncestry
