import Mathlib.Data.List.Nodup
import TypeAncestry.Proofs.Lineage.Budget
import TypeAncestry.Proofs.Registry.Changes

/-!
# Registries that give out handles once more

Behind `2 ^ 32` registrations the handles come back: the next definition takes the place of the
first one, while the name of the first one still leads there.  So a type parameter with that name
stands under the name of whatever has been registered last.

* `Registry.get?_after_map_register` : where definitions go, for up to `2 ^ 32` of them.
* `Registry.round` : the registry in which all handles have been given out once.
* `Registry.get?_register_round`, `Registry.lookup_register_round` : what one more registration
  leaves of it.
* `Registry.openBox`, `Registry.lineage_tree_openBox` : a box with a type parameter, and its
  lineage.
* `Registry.boxed` : definitions with different names that fill a round.
-/

namespace TypeAncestry

namespace Oracle

variable {H : Type} [DecidableEq H] {o : Oracle H} {h : H}

/-- The outlines of leaves with the given names, in the roles of declared parameters. -/
def parameterOutlines (o : Oracle H) (ns : List String) : List Outline :=
  ns.map fun n => .node (some (.parameter n)) (o.leafName n).1 none []

omit [DecidableEq H] in
theorem triesAll_parameterOutlines (ns : List String) :
    Outline.triesAll (o.parameterOutlines ns) = 0 := by
  induction ns with
  | nil => rfl
  | cons n ns ih => exact (Nat.zero_add _).trans ih

omit [DecidableEq H] in
theorem treeAll_parameterOutlines (ns : List String) :
    Outline.treeAll (o.parameterOutlines ns) = ns.map fun n => .leaf (o.leafName n).1 := by
  induction ns with
  | nil => rfl
  | cons n ns ih => exact congrArg (List.cons _) ih

/-- A type with nothing but declared parameters stands above the leaves of these. -/
theorem lineage_tree_of_parameters (hprimitive : o.primitiveKind h = none)
    (hinterfaces : o.interfaces h = []) (hsuper : o.superType h = none) :
    (o.lineage .none .hierarchy (.type h)).tree =
      .node (o.canonicalName h) ((o.typeParameters h).map fun n => .leaf (o.leafName n).1) := by
  have hcandidates : (o.layer (.declared h)).candidates =
      (o.typeParameters h).map fun n => o.leaf (.parameter n) n := by
    have hs : o.superLayer h = ⟨[], []⟩ := by rw [superLayer, hsuper]
    simp only [layer, parameters, Target.handle, hinterfaces, hs, List.map_nil, List.append_nil]
  have houtline : o.subjectOutline .hierarchy (.type h) =
      .node none (o.canonicalName h) (some .entered)
        (o.parameterOutlines (o.typeParameters h)) := by
    have hroot : o.root? (.type h) = some h := by rw [root?, boxed, hprimitive]
    rw [subjectOutline, hroot]
    change outline o (255 + 1) [] none (.declared h) = _
    rw [outline, if_neg List.not_mem_nil, hcandidates, List.map_map]
    rfl
  have hagrees := o.lineage_eq_outline .none .hierarchy (.type h)
  dsimp only at hagrees
  rw [Outline.prune_none, houtline] at hagrees
  obtain ⟨htree, -⟩ := hagrees (.inr (by
    rw [Outline.tries, triesAll_parameterOutlines]
    decide))
  rw [htree, Outline.tree, treeAll_parameterOutlines]

end Oracle

namespace Registry

variable {r : Registry} {ds : List TypeDef} {d e : TypeDef} {h j : Handle} {n : String} {k : Nat}

/-! ### Any number of registrations -/

theorem after_cons (r : Registry) (c : Change) (cs : List Change) :
    r.after (c :: cs) = (r.apply c).after cs := rfl

theorem registrations_map_register (ds : List TypeDef) :
    registrations (ds.map .register) = ds := by
  rw [registrations, List.filterMap_map]
  exact List.filterMap_some

/-- **The definitions go under consecutive handles,** and what is under other handles stays there,
as long as no handle is given out twice. -/
theorem get?_after_map_register (hr : r.next = .ofNumber k) (hds : ds.length ≤ UInt32.size) :
    (r.after (ds.map .register)).get? h = some d ↔
      (∃ i, ds[i]? = some d ∧ h = .ofNumber (k + i)) ∨
        (r.get? h = some d ∧ ∀ i < ds.length, h ≠ .ofNumber (k + i)) := by
  induction ds generalizing r k with
  | nil => simp [after]
  | cons e ds ih =>
    rw [List.length_cons] at hds
    have hnext : (r.apply (.register e)).next = .ofNumber (k + 1) := by
      rw [← Handle.next_ofNumber, ← hr]
      rfl
    have hget : (r.apply (.register e)).get? h = if h = .ofNumber k then some e else r.get? h := by
      rw [← hr]
      exact r.get?_register e h
    have hshift : ∀ i, k + 1 + i = k + (i + 1) := fun i => by omega
    rw [List.map_cons, after_cons, ih hnext (by omega), hget]
    simp only [hshift]
    constructor
    · rintro (⟨i, hi, rfl⟩ | ⟨he, hother⟩)
      · exact .inl ⟨i + 1, hi, rfl⟩
      · split_ifs at he with hh
        · exact .inl ⟨0, he, hh⟩
        · refine .inr ⟨he, fun i hi => ?_⟩
          cases i with
          | zero => exact hh
          | succ i => exact hother i (Nat.lt_of_succ_lt_succ hi)
    · rintro (⟨i, hi, rfl⟩ | ⟨he, hother⟩)
      · cases i with
        | zero =>
          refine .inr ⟨(if_pos rfl).trans hi, fun i hi => ?_⟩
          exact Handle.ofNumber_ne (by omega) (by omega)
        | succ i => exact .inl ⟨i, hi, rfl⟩
      · refine .inr ⟨(if_neg (hother 0 (Nat.succ_pos _))).trans he, fun i hi => ?_⟩
        exact hother (i + 1) (Nat.succ_lt_succ hi)

/-- A name that is not registered leads where it led before. -/
theorem lookup_after_map_register (hn : ∀ d ∈ ds, d.name ≠ n) :
    (r.after (ds.map .register)).lookup n = r.lookup n := by
  induction ds generalizing r with
  | nil => rfl
  | cons e ds ih =>
    obtain ⟨he, hds⟩ := List.forall_mem_cons.1 hn
    rw [List.map_cons, after_cons, ih hds]
    exact (r.lookup_register e n).trans (if_neg (Ne.symm he))

/-! ### A full round -/

section Round

variable {first : TypeDef} {rest : List TypeDef}

/-- The registry in which all handles have been given out once. -/
def round (first : TypeDef) (rest : List TypeDef) : Registry :=
  empty.after ((first :: rest).map .register)

theorem next_round (hrest : rest.length + 1 = UInt32.size) : (round first rest).next = .first := by
  rw [round, next_after, registrations_map_register, List.length_cons, hrest]
  rfl

theorem get?_round (hrest : rest.length + 1 = UInt32.size) : (round first rest).get? h = some e ↔
    ∃ i, (first :: rest)[i]? = some e ∧ h = .ofNumber (1 + i) := by
  have hlength : (first :: rest).length ≤ UInt32.size := Nat.le_of_eq hrest
  rw [round, get?_after_map_register (k := 1) rfl hlength]
  exact or_iff_left fun hempty => nomatch hempty.1

/-- The first definition is lost when one more is registered, and no other one is. -/
theorem get?_register_round (hrest : rest.length + 1 = UInt32.size) :
    ((round first rest).register e).2.get? h = some d ↔
      ∃ i, (rest ++ [e])[i]? = some d ∧ h = .ofNumber (2 + i) := by
  have hcs : (empty.apply (.register first)).after ((rest ++ [e]).map .register) =
      ((round first rest).register e).2 := by
    rw [List.map_append, after_append]
    rfl
  have hlength : (rest ++ [e]).length = UInt32.size := by
    rw [List.length_append, List.length_singleton, hrest]
  rw [← hcs, get?_after_map_register (k := 2) rfl (Nat.le_of_eq hlength)]
  -- the only definition that was there is under the handle that the last registration gets
  refine or_iff_left fun ⟨hd, hother⟩ => ?_
  have hlast := hother (UInt32.size - 1) (by rw [hlength]; decide)
  change (empty.register first).2.get? h = some d at hd
  rw [get?_register] at hd
  split_ifs at hd with hh
  · exact hlast hh
  · cases hd

theorem after_map_register_round (first : TypeDef) (rest : List TypeDef) (e : TypeDef) :
    empty.after ((first :: rest ++ [e]).map .register) = ((round first rest).register e).2 := by
  rw [List.map_append, after_append]
  rfl

theorem reached_register_round (first : TypeDef) (rest : List TypeDef) (e : TypeDef) :
    ((round first rest).register e).2.Reached :=
  ⟨_, after_map_register_round first rest e⟩

/-- The name of the first definition leads to its handle, whatever is found there. -/
theorem lookup_round (hfirst : ∀ d ∈ rest, d.name ≠ first.name) :
    (round first rest).lookup first.name = some .first := by
  rw [round, List.map_cons, after_cons, lookup_after_map_register hfirst]
  exact (empty.lookup_register first first.name).trans (if_pos rfl)

theorem lookup_round_of_ne (hfirst : first.name ≠ n) (hrest : ∀ d ∈ rest, d.name ≠ n) :
    (round first rest).lookup n = none :=
  lookup_after_map_register (List.forall_mem_cons.2 ⟨hfirst, hrest⟩)

theorem lookup_register_round (hfirst : ∀ d ∈ rest, d.name ≠ first.name)
    (he : e.name ≠ first.name) :
    ((round first rest).register e).2.lookup first.name = some .first := by
  rw [lookup_register, if_neg (Ne.symm he), lookup_round hfirst]

theorem get?_first_register_round (hrest : rest.length + 1 = UInt32.size) :
    ((round first rest).register e).2.get? .first = some e := by
  rw [get?_register, next_round hrest, if_pos rfl]

end Round

/-! ### A box with an open parameter -/

/-- A box whose type parameter is called like another class. -/
def openBox : TypeDef := { TypeDef.class_ "a.Box" with typeParameters := ["a.First"] }

theorem root?_openBox (hbox : r.get? h = some openBox) :
    r.oracle.root? (.type h) = some h := by
  have hprimitive : r.oracle.primitiveKind h = none := by
    simp only [oracle, hbox, Option.bind_some]
    rfl
  rw [Oracle.root?, Oracle.boxed, hprimitive]

theorem typeParameters_openBox (hbox : r.get? h = some openBox) :
    r.oracle.typeParameters h = ["a.First"] := by
  simp only [oracle, hbox, Option.map_some, Option.getD_some]
  rfl

/-- The parameter stands under the name of the type that its own name leads to. -/
theorem lineage_tree_openBox (hbox : r.get? h = some openBox)
    (hfirst : r.lookup "a.First" = some j) (hd : r.get? j = some d) (htop : d.isTop = false) :
    (r.oracle.lineage .none .hierarchy (.type h)).tree = .node "a.Box" [.leaf d.name] := by
  have hplaceholder : Name.isPlaceholder "a.First" = false := by decide
  have hname : (r.oracle.leafName "a.First").1 = d.name := by
    simp [Oracle.leafName, hplaceholder, oracle, hfirst, hd, htop]
  have htree := Oracle.lineage_tree_of_parameters (o := r.oracle) (h := h)
    (by simp [oracle, hbox]; rfl) (by simp [oracle, hbox]; rfl) (by simp [oracle, hbox]; rfl)
  have hcanonical : r.oracle.canonicalName h = "a.Box" := by simp [oracle, hbox]; rfl
  rw [htree, hcanonical, typeParameters_openBox hbox, List.map_singleton, hname]

/-- A class without a lineage, with as many letters in its name as `n` says. -/
def filler (n : Nat) : TypeDef := .class_ (.ofList ('b' :: '.' :: List.replicate n 'x'))

/-- The box, the definition `d`, and `n` others. -/
def boxed (n : Nat) (d : TypeDef) : List TypeDef := openBox :: d :: (List.range n).map filler

theorem length_boxed (n : Nat) (d : TypeDef) : (boxed n d).length = n + 2 := by
  simp only [boxed, List.length_cons, List.length_map, List.length_range]

theorem filler_injective : Function.Injective filler := by
  intro n m he
  have hlength := congrArg (·.name.toList.length) he
  simpa [filler, TypeDef.class_] using hlength

theorem name_filler_ne {s : String} (hs : s.toList.head? ≠ some 'b') (n : Nat) :
    (filler n).name ≠ s := by
  rintro rfl
  exact hs (by simp [filler, TypeDef.class_])

/-- None of the definitions refers to another one. -/
theorem bare_of_mem_boxed {n : Nat} (hd : d.superType = none ∧ d.interfaces = []) :
    ∀ e ∈ boxed n d, e.superType = none ∧ e.interfaces = [] := by
  intro e he
  simp only [boxed, List.mem_cons, List.mem_map] at he
  rcases he with rfl | rfl | ⟨i, -, rfl⟩
  · exact ⟨rfl, rfl⟩
  · exact hd
  · exact ⟨rfl, rfl⟩

theorem handles_of_bare (hd : d.superType = none ∧ d.interfaces = []) : d.handles = [] := by
  rw [TypeDef.handles, hd.1, hd.2]
  rfl

theorem name_ne_of_mem_boxed {s : String} {m : Nat} (hs : s.toList.head? ≠ some 'b')
    (hbox : s ≠ "a.Box") (hds : d.name ≠ s) : ∀ e ∈ boxed m d, e.name ≠ s := by
  intro e he
  simp only [boxed, List.mem_cons, List.mem_map] at he
  rcases he with rfl | rfl | ⟨i, -, rfl⟩
  · exact Ne.symm hbox
  · exact hds
  · exact name_filler_ne hs i

/-- The definitions have different names. -/
theorem nodup_names_boxed (hd : d.name.toList.head? ≠ some 'b') (hbox : d.name ≠ "a.Box")
    (n : Nat) : ((boxed n d).map (·.name)).Nodup := by
  have hfillers : (((List.range n).map filler).map (·.name)).Nodup := by
    rw [List.map_map]
    refine List.Nodup.map (fun i j hij => filler_injective ?_) List.nodup_range
    exact congrArg TypeDef.class_ hij
  refine List.nodup_cons.2 ⟨?_, List.nodup_cons.2 ⟨?_, hfillers⟩⟩
  · intro hmem
    rcases List.mem_cons.1 hmem with he | hmem
    · exact hbox he.symm
    · obtain ⟨e, he, hname⟩ := List.mem_map.1 hmem
      obtain ⟨i, -, rfl⟩ := List.mem_map.1 he
      exact name_filler_ne (s := "a.Box") (by decide) i hname
  · intro hmem
    obtain ⟨e, he, hname⟩ := List.mem_map.1 hmem
    obtain ⟨i, -, rfl⟩ := List.mem_map.1 he
    exact name_filler_ne hd i hname

end Registry

end TypeAncestry
