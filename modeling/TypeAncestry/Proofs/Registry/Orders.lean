import TypeAncestry.Proofs.Registry.Rounds

/-!
# The order of registration

The handles of a registry come from the order in which its definitions are registered.  If all names
are different and all references lead to definitions, the definitions can be told without handles:
every reference by the names of the types in it.  What a registry knows is then known to an oracle
whose handles are these names, and for this oracle no order is left.

* `Description`, `Registry.describe` : a definition told by names alone.
* `Registry.SelfContained` : the names are different, and the references lead to definitions.
* `Oracle.nominal` : the oracle that knows descriptions; its handles are names.
* `Registry.Orderly.renames_nominal` : a registry knows what this oracle knows.
* `lineage_ignores_handles` : no lineage depends on handles, nor on the order of registration.
* `Registry.lineage_order_wrapped` : it depends on the order once handles are given out twice.
-/

namespace TypeAncestry

/-! ### Definitions without handles -/

/-- The definition of a type that refers to other types by their names. -/
structure Description where
  /-- The kind of the type. -/
  kind : TypeKind
  /-- Its name. -/
  name : String
  /-- The names of its type parameters. -/
  typeParameters : List String
  /-- Its super-type. -/
  superType : Option (TypeRef String)
  /-- Its interfaces. -/
  interfaces : List (TypeRef String)
  /-- It is the type that all others descend from. -/
  isTop : Bool
  deriving DecidableEq

/-- The primitive type that a description is about. -/
def Description.primitive? (x : Description) : Option Primitive :=
  match x.kind with
  | .primitive p => some p
  | _ => none

namespace Registry

variable (r : Registry)

/-- A definition of the registry with names for handles. -/
def describe (d : TypeDef) : Description where
  kind := d.kind
  name := d.name
  typeParameters := d.typeParameters
  superType := d.superType.map (·.map r.oracle.canonicalName)
  interfaces := d.interfaces.map (·.map r.oracle.canonicalName)
  isTop := d.isTop

/-- The description is that of a definition in the registry. -/
def Describes (x : Description) : Prop := ∃ h d, r.get? h = some d ∧ r.describe d = x

/-- The description of the type that a name leads to. -/
def description? (n : String) : Option Description :=
  ((r.lookup n).bind r.get?).map r.describe

/-- The definitions have different names, and refer only to one another. -/
structure SelfContained : Prop where
  distinct : ∀ {h k d e}, r.get? h = some d → r.get? k = some e → d.name = e.name → h = k
  closed : ∀ {h d}, r.get? h = some d → ∀ k ∈ d.handles, ∃ e, r.get? k = some e

/-- What a handle is called where types are told by their names: the name of its definition; a
handle without a definition stands for itself. -/
def nominate (h : Handle) : String ⊕ Handle :=
  match r.get? h with
  | some d => .inl d.name
  | none => .inr h

variable {r} {h k : Handle} {d e : TypeDef} {n : String} {x : Description}

theorem nominate_of_some (hd : r.get? h = some d) : r.nominate h = .inl d.name := by
  rw [nominate, hd]

theorem nominate_of_none (hd : r.get? h = none) : r.nominate h = .inr h := by
  rw [nominate, hd]

theorem SelfContained.nominate_injective (hr : r.SelfContained) :
    Function.Injective r.nominate := by
  intro h k he
  rcases hd : r.get? h with _ | d
  · rcases hk : r.get? k with _ | e
    · rw [nominate_of_none hd, nominate_of_none hk] at he
      exact Sum.inr.inj he
    · rw [nominate_of_none hd, nominate_of_some hk] at he
      cases he
  · rcases hk : r.get? k with _ | e
    · rw [nominate_of_some hd, nominate_of_none hk] at he
      cases he
    · rw [nominate_of_some hd, nominate_of_some hk] at he
      exact hr.distinct hd hk (Sum.inl.inj he)

/-- What is referred to is called by its canonical name. -/
theorem SelfContained.map_nominate (hr : r.SelfContained) (hd : r.get? h = some d)
    {ref : TypeRef Handle} (href : ref ∈ d.superType.toList ++ d.interfaces) :
    ref.map r.nominate = (ref.map r.oracle.canonicalName).map .inl := by
  rw [TypeRef.map_map]
  refine TypeRef.map_congr ref fun k hk => ?_
  obtain ⟨e, he⟩ := hr.closed hd k (TypeRef.mem_handlesAll.2 ⟨ref, href, hk⟩)
  rw [nominate_of_some he]
  simp [oracle, he]

/-- The registry is self-contained, and all names lead where they should. -/
structure Orderly (r : Registry) : Prop extends r.SelfContained, r.Indexed where
  named : r.Named

theorem SelfContained.orderly {cs : List Change} (hr : (empty.after cs).SelfContained)
    (hcs : (registrations cs).length ≤ UInt32.size) : (empty.after cs).Orderly :=
  ⟨hr, indexed_after cs, named_after hcs⟩

/-- Each definition is the one that its name leads to. -/
theorem Orderly.lookup_name (hr : r.Orderly) (hd : r.get? h = some d) :
    r.lookup d.name = some h := by
  obtain ⟨k, hk⟩ := hr.listed hd
  obtain ⟨e, he, hname⟩ := hr.named _ _ hk
  rw [hk, hr.distinct he hd hname]

theorem Orderly.description?_eq_some_iff (hr : r.Orderly) :
    r.description? n = some x ↔ r.Describes x ∧ x.name = n := by
  constructor
  · intro hx
    obtain ⟨d, hfound, rfl⟩ := Option.map_eq_some_iff.1 hx
    obtain ⟨h, hlookup, hd⟩ := Option.bind_eq_some_iff.1 hfound
    obtain ⟨e, he, hname⟩ := hr.named n h hlookup
    obtain rfl := Option.some.inj (hd.symm.trans he)
    exact ⟨⟨h, d, hd, rfl⟩, hname⟩
  · rintro ⟨⟨h, d, hd, rfl⟩, rfl⟩
    have hlookup := hr.lookup_name hd
    change r.lookup (r.describe d).name = some h at hlookup
    rw [description?, hlookup, Option.bind_some, hd, Option.map_some]

end Registry

/-! ### Types told by their names -/

namespace Oracle

/-- The oracle that knows the descriptions in `known`.  A type is its name; there are other handles,
of which nothing is known. -/
def nominal (known : String → Option Description) : Oracle (String ⊕ Handle) :=
  let about : String ⊕ Handle → Option Description := Sum.elim known fun _ => none
  { canonicalName := fun k => ((about k).map (·.name)).getD Name.top
    typeParameters := fun k => ((about k).map (·.typeParameters)).getD []
    superType := fun k => (about k).bind fun x => x.superType.map (·.map .inl)
    interfaces := fun k => ((about k).map fun x => x.interfaces.map (·.map .inl)).getD []
    resolve := fun n => (known n).map fun _ => .inl n
    isUniversalTop := fun k => (about k).any (·.isTop)
    primitiveKind := fun k => (about k).bind (·.primitive?)
    runtimeType := fun _ => none }

end Oracle

namespace Registry

variable {r r' : Registry} {h h' : Handle} {d : TypeDef}

/-- **A registry knows what the oracle of its descriptions knows,** by other handles. -/
theorem Orderly.renames_nominal (hr : r.Orderly) :
    r.oracle.Renames (.nominal r.description?) r.nominate := by
  have habout : ∀ h, Sum.elim r.description? (fun _ => none) (r.nominate h) =
      (r.get? h).map r.describe := by
    intro h
    rcases hd : r.get? h with _ | d
    · rw [nominate_of_none hd]
      rfl
    · rw [nominate_of_some hd]
      exact hr.description?_eq_some_iff.2 ⟨⟨h, d, hd, rfl⟩, rfl⟩
  have hsuper : ∀ h d, r.get? h = some d →
      d.superType.map (·.map r.nominate) = (r.describe d).superType.map (·.map .inl) := by
    intro h d hd
    rcases hs : d.superType with _ | ref
    · simp [describe, hs]
    · have href : ref ∈ d.superType.toList ++ d.interfaces := by simp [hs]
      simp [describe, hs, hr.map_nominate hd href]
  have hinterfaces : ∀ h d, r.get? h = some d →
      d.interfaces.map (·.map r.nominate) = (r.describe d).interfaces.map (·.map .inl) := by
    intro h d hd
    rw [describe, List.map_map]
    exact List.map_congr_left fun ref href => hr.map_nominate hd (List.mem_append_right _ href)
  refine
    { injective := hr.nominate_injective
      canonicalName := fun h => ?name
      typeParameters := fun h => ?parameters
      superType := fun h => ?superType
      interfaces := fun h => ?interfaces
      resolve := fun n => ?resolve
      isUniversalTop := fun h => ?top
      primitiveKind := fun h => ?primitive }
  case resolve =>
    -- what a name leads to is called by this name
    simp only [Oracle.nominal, oracle, description?]
    rcases hl : r.lookup n with _ | h
    · rfl
    · obtain ⟨d, hd, rfl⟩ := hr.named n h hl
      simp [hd, nominate_of_some hd]
  all_goals
    simp only [Oracle.nominal, habout, oracle]
    rcases hd : r.get? h with _ | d
    · rfl
  case superType.some => exact (hsuper h d hd).symm
  case interfaces.some => exact (hinterfaces h d hd).symm
  all_goals rfl

/-- Registries with the same descriptions give the same lineage to a type of the same name. -/
theorem Orderly.agrees (hr : r.Orderly) (hr' : r'.Orderly)
    (hsame : ∀ x, r.Describes x ↔ r'.Describes x) (hd : r.get? h = some d) :
    ∃ h', r'.lookup d.name = some h' ∧ ∀ (f : Filters) (limits : Limits),
      (r.oracle.lineage f limits (.type h)).Agrees (r'.oracle.lineage f limits (.type h')) := by
  have hknown : r.description? = r'.description? := by
    funext n
    refine Option.ext fun x => ?_
    rw [hr.description?_eq_some_iff, hr'.description?_eq_some_iff, hsame]
  -- the definition with the same description is the one that the name leads to
  obtain ⟨h', d', hd', hdescribe⟩ := (hsame _).1 ⟨h, d, hd, rfl⟩
  have hname : d'.name = d.name := congrArg Description.name hdescribe
  refine ⟨h', hname ▸ hr'.lookup_name hd', fun f limits => ?_⟩
  have hl := hr.renames_nominal.agrees f limits h
  have hl' := hr'.renames_nominal.agrees f limits h'
  rw [nominate_of_some hd] at hl
  rw [nominate_of_some hd', hname, ← hknown] at hl'
  exact hl.of_common hl'

end Registry

/-! ### Deciding what definitions say -/

namespace Registry

variable {cs : List Change} {x : Description}

theorem selfContained_iff : (empty.after cs).SelfContained ↔
    (∀ h ∈ handed cs, ∀ k ∈ handed cs, ∀ d ∈ (empty.after cs).get? h,
      ∀ e ∈ (empty.after cs).get? k, d.name = e.name → h = k) ∧
    ∀ h ∈ handed cs, ∀ d ∈ (empty.after cs).get? h, ∀ k ∈ d.handles,
      (empty.after cs).contains k = true := by
  constructor
  · intro hr
    refine ⟨fun h _ k _ d hd e he => hr.distinct hd he, fun h _ d hd k hk => ?_⟩
    exact Option.isSome_iff_exists.2 (hr.closed hd k hk)
  · rintro ⟨hdistinct, hclosed⟩
    refine ⟨fun hd he => ?_, fun hd k hk => ?_⟩
    · exact hdistinct _ (mem_handed_of_get? hd) _ (mem_handed_of_get? he) _ hd _ he
    · exact Option.isSome_iff_exists.1 (hclosed _ (mem_handed_of_get? hd) _ hd k hk)

instance (cs : List Change) : Decidable (empty.after cs).SelfContained :=
  decidable_of_iff _ selfContained_iff.symm

/-- The descriptions of all definitions, in the order in which they were registered. -/
def descriptions (cs : List Change) : List Description :=
  (handed cs).filterMap fun h => ((empty.after cs).get? h).map (empty.after cs).describe

theorem mem_descriptions : x ∈ descriptions cs ↔ (empty.after cs).Describes x := by
  simp only [descriptions, List.mem_filterMap, Option.map_eq_some_iff]
  constructor
  · rintro ⟨h, -, d, hd, rfl⟩
    exact ⟨h, d, hd, rfl⟩
  · rintro ⟨h, d, hd, rfl⟩
    exact ⟨h, mem_handed_of_get? hd, d, hd, rfl⟩

end Registry

/-! ### Handles and lineages -/

/-- **No lineage depends on handles.**  If a renaming of handles is injective and commutes with all
answers of two oracles, the lineage of a subject through one of them shows what the lineage of the
renamed subject through the other shows.  So if the same definitions are registered in two orders,
and completed in any way, all types have the same lineages, as long as the names are different, the
definitions refer only to one another and no handle is given out twice. -/
theorem lineage_ignores_handles :
    (∀ (H K : Type) [DecidableEq H] [DecidableEq K] (o : Oracle H) (o' : Oracle K) (ρ : H → K),
      o.RenamesAll o' ρ → ∀ (f : Filters) (limits : Limits) (s : Subject H),
        (o.lineage f limits s).Agrees (o'.lineage f limits (s.map ρ))) ∧
    (∀ cs cs' : List Registry.Change,
      (Registry.registrations cs).length ≤ UInt32.size →
      (Registry.registrations cs').length ≤ UInt32.size →
      let r := Registry.empty.after cs
      let r' := Registry.empty.after cs'
      r.SelfContained → r'.SelfContained → (∀ x, r.Describes x ↔ r'.Describes x) →
        ∀ h d, r.get? h = some d →
          ∃ h', r'.lookup d.name = some h' ∧ ∀ (f : Filters) (limits : Limits),
            (r.oracle.lineage f limits (.type h)).Agrees
              (r'.oracle.lineage f limits (.type h'))) := by
  constructor
  · intro H K _ _ o o' ρ hr f limits s
    exact hr.agrees f limits s
  · intro cs cs' hcs hcs' r r' hr hr' hsame h d hd
    exact (hr.orderly hcs).agrees (hr'.orderly hcs') hsame hd

namespace Registry

/-- A node that is a list of itself, and the base of all nodes, which is a node; they are registered
one by one, and each is completed as soon as it can be. -/
def stepwise : List Change :=
  [.register { TypeDef.interface "a.List" with typeParameters := ["E"] },
    .register { TypeDef.class_ "a.Node" with typeParameters := ["T"] },
    .addInterface ⟨2⟩ (.applied ⟨1⟩ [.plain ⟨2⟩]),
    .register { TypeDef.class_ "a.Base" with interfaces := [.applied ⟨2⟩ [.var "T"]] },
    .setSuperType ⟨2⟩ (.plain ⟨3⟩)]

/-- The same definitions, the node first.  It is registered with a handle for its super-type that is
not given out yet and turns out to be wrong. -/
def nodeFirst : List Change :=
  [.register { TypeDef.class_ "a.Node" with
      typeParameters := ["T"]
      superType := some (.plain ⟨3⟩) },
    .register (.class_ "a.Base"),
    .setSuperType ⟨1⟩ (.plain ⟨2⟩),
    .register { TypeDef.interface "a.List" with typeParameters := ["E"] },
    .addInterface ⟨2⟩ (.applied ⟨1⟩ [.var "T"]),
    .addInterface ⟨1⟩ (.applied ⟨3⟩ [.plain ⟨1⟩])]

end Registry

/-- The node has handle 2 in one order and handle 1 in the other, and the same lineage, in which its
cycles are cut off.  Nor is there a difference if the handles are made plain numbers. -/
theorem lineage_ignores_handles_node :
    let r := Registry.empty.after Registry.stepwise
    let r' := Registry.empty.after Registry.nodeFirst
    let e : Handle ≃ UInt32 := ⟨Handle.index, Handle.mk, fun _ => rfl, fun _ => rfl⟩
    r.SelfContained ∧ r'.SelfContained ∧ (∀ x, r.Describes x ↔ r'.Describes x) ∧
      (r.oracle.lineage .none ⟨8, 100⟩ (.type ⟨2⟩)).Agrees
        (r'.oracle.lineage .none ⟨8, 100⟩ (.type ⟨1⟩)) ∧
      (r.oracle.lineage .none ⟨8, 100⟩ (.type ⟨2⟩)).Agrees
        ((r.oracle.rename e).lineage .none ⟨8, 100⟩ (.type 2)) ∧
      (r.oracle.lineage .none ⟨8, 100⟩ (.type ⟨2⟩)).tree =
        .node "a.Node"
          [.leaf "?", .node "a.List" [.leaf "a.Node"],
            .node "a.Base"
              [.node "a.Node"
                [.leaf "?", .node "a.List" [.leaf "a.Node"], .leaf "a.Base"]]] := by
  intro r r' e
  have hr : r.SelfContained := by decide +kernel
  have hr' : r'.SelfContained := by decide +kernel
  have hperm : (Registry.descriptions Registry.stepwise).Perm
      (Registry.descriptions Registry.nodeFirst) := by decide +kernel
  have hsame : ∀ x, r.Describes x ↔ r'.Describes x := by
    intro x
    rw [← Registry.mem_descriptions, ← Registry.mem_descriptions]
    exact hperm.mem_iff
  obtain ⟨hrename, horder⟩ := lineage_ignores_handles
  have hnode : r.get? ⟨2⟩ = some _ := rfl
  obtain ⟨h', hh', hlineage⟩ := horder Registry.stepwise Registry.nodeFirst (by decide)
    (by decide) hr hr' hsame ⟨2⟩ _ hnode
  obtain rfl : h' = ⟨1⟩ := by
    have hlookup : r'.lookup "a.Node" = some ⟨1⟩ := by decide +kernel
    exact Option.some.inj (hh'.symm.trans hlookup)
  exact ⟨hr, hr', hsame, hlineage .none ⟨8, 100⟩,
    hrename _ _ _ _ e (r.oracle.renamesAll_rename e) .none ⟨8, 100⟩ (.type ⟨2⟩),
    by decide +kernel⟩

namespace Registry

/-! ### Orders in which handles come back -/

section Round

variable {first e d : TypeDef} {rest : List TypeDef} {n : Nat}

/-- What is left behind a round is self-contained, if its names are different and nothing refers to
anything. -/
theorem selfContained_register_round (hrest : rest.length + 1 = UInt32.size)
    (hbare : ∀ d ∈ rest ++ [e], d.superType = none ∧ d.interfaces = [])
    (hnames : ((rest ++ [e]).map (·.name)).Nodup) :
    ((round first rest).register e).2.SelfContained where
  distinct {h k d d'} hd hd' hname := by
    obtain ⟨i, hi, rfl⟩ := (get?_register_round hrest).1 hd
    obtain ⟨j, hj, rfl⟩ := (get?_register_round hrest).1 hd'
    have hij : ((rest ++ [e]).map (·.name))[i]? = ((rest ++ [e]).map (·.name))[j]? := by
      rw [List.getElem?_map, List.getElem?_map, hi, hj, Option.map_some, Option.map_some, hname]
    have hlt : i < ((rest ++ [e]).map (·.name)).length := by
      rw [List.length_map]
      exact (List.getElem?_eq_some_iff.1 hi).1
    rw [(List.getElem?_inj hlt hnames).1 hij]
  closed {h d} hd k hk := by
    obtain ⟨i, hi, -⟩ := (get?_register_round hrest).1 hd
    rw [handles_of_bare (hbare d (List.mem_of_getElem? hi))] at hk
    cases hk

/-- What is left behind a round are the descriptions of all definitions but the first. -/
theorem describes_register_round (hrest : rest.length + 1 = UInt32.size)
    (hbare : ∀ d ∈ rest ++ [e], d.superType = none ∧ d.interfaces = []) (x : Description) :
    ((round first rest).register e).2.Describes x ↔
      ∃ d ∈ rest ++ [e], x = ⟨d.kind, d.name, d.typeParameters, none, [], d.isTop⟩ := by
  have hdescribe : ∀ (r : Registry), ∀ d ∈ rest ++ [e],
      r.describe d = ⟨d.kind, d.name, d.typeParameters, none, [], d.isTop⟩ := by
    intro r d hd
    rw [describe, (hbare d hd).1, (hbare d hd).2]
    rfl
  constructor
  · rintro ⟨h, d, hd, rfl⟩
    obtain ⟨i, hi, -⟩ := (get?_register_round hrest).1 hd
    have hmem := List.mem_of_getElem? hi
    exact ⟨d, hmem, hdescribe _ d hmem⟩
  · rintro ⟨d, hd, rfl⟩
    obtain ⟨i, hi⟩ := List.getElem?_of_mem hd
    exact ⟨_, d, (get?_register_round hrest).2 ⟨i, hi, rfl⟩, hdescribe _ d hd⟩

/-- Two definitions may change places in front of the fillers and behind them. -/
theorem perm_boxed (n : Nat) (d e : TypeDef) : (boxed n d ++ [e]).Perm (boxed n e ++ [d]) := by
  refine .cons openBox ?_
  refine (List.perm_append_singleton e _).trans (.trans ?_ (List.perm_append_singleton d _).symm)
  exact .swap d e _

section Wrapped

variable {s t : String}

theorem bare_of_mem_wrapped : ∀ e ∈ boxed n (.class_ s) ++ [TypeDef.class_ t],
    e.superType = none ∧ e.interfaces = [] := by
  intro e he
  rcases List.mem_append.1 he with he | he
  · exact bare_of_mem_boxed ⟨rfl, rfl⟩ e he
  · obtain rfl := List.mem_singleton.1 he
    exact ⟨rfl, rfl⟩

theorem nodup_names_wrapped (hs : s.toList.head? ≠ some 'b') (ht : t.toList.head? ≠ some 'b')
    (hsbox : s ≠ "a.Box") (htbox : t ≠ "a.Box") (hst : s ≠ t) :
    ((boxed n (.class_ s) ++ [TypeDef.class_ t]).map (·.name)).Nodup := by
  rw [List.map_append, List.nodup_append]
  refine ⟨nodup_names_boxed hs hsbox n, List.nodup_singleton _, fun m hm m' hm' => ?_⟩
  obtain ⟨e, he, rfl⟩ := List.mem_map.1 hm
  obtain rfl := List.mem_singleton.1 hm'
  exact name_ne_of_mem_boxed ht htbox hst e he

/-- What becomes of the box when the class `s` is registered in the first round, and the class `t`
behind it. -/
theorem order_wrapped (hn : n + 3 = UInt32.size) (hs : s.toList.head? ≠ some 'b')
    (ht : t.toList.head? ≠ some 'b') (hsbox : s ≠ "a.Box") (htbox : t ≠ "a.Box") (hst : s ≠ t)
    (hsfirst : s ≠ "a.First") (htfirst : t ≠ "a.First") :
    let ds := TypeDef.class_ "a.First" :: boxed n (.class_ s) ++ [TypeDef.class_ t]
    let r := empty.after (ds.map .register)
    (ds.map (·.name)).Nodup ∧ r.SelfContained ∧ r.get? ⟨2⟩ = some openBox ∧
      (r.oracle.lineage .none .hierarchy (.type ⟨2⟩)).tree = .node "a.Box" [.leaf t] ∧
      ∀ x, r.Describes x ↔ ∃ d ∈ boxed n (.class_ s) ++ [TypeDef.class_ t],
        x = ⟨d.kind, d.name, d.typeParameters, none, [], d.isTop⟩ := by
  intro ds r
  have hlength : (boxed n (.class_ s)).length + 1 = UInt32.size := by
    rw [length_boxed, hn]
  have hround : r = ((round (.class_ "a.First") (boxed n (.class_ s))).register (.class_ t)).2 :=
    after_map_register_round _ _ _
  have hfirst : ∀ e ∈ boxed n (.class_ s), e.name ≠ "a.First" :=
    name_ne_of_mem_boxed (by decide) (by decide) hsfirst
  have hnames := nodup_names_wrapped (n := n) hs ht hsbox htbox hst
  have hbox : r.get? ⟨2⟩ = some openBox := by
    rw [hround]
    exact (get?_register_round hlength).2 ⟨0, rfl, rfl⟩
  refine ⟨List.nodup_cons.2 ⟨fun hmem => ?_, hnames⟩, ?_, hbox, ?_, ?_⟩
  · obtain ⟨e, he, hname⟩ := List.mem_map.1 hmem
    rcases List.mem_append.1 he with he | he
    · exact hfirst e he hname
    · obtain rfl := List.mem_singleton.1 he
      exact htfirst hname
  · rw [hround]
    exact selfContained_register_round hlength bare_of_mem_wrapped hnames
  · refine lineage_tree_openBox hbox (j := .first) (d := .class_ t) ?_ ?_ rfl
    · rw [hround]
      exact lookup_register_round hfirst htfirst
    · rw [hround]
      exact get?_first_register_round hlength
  · rw [hround]
    exact describes_register_round hlength bare_of_mem_wrapped

end Wrapped

end Round

/-- When more definitions are registered than there are handles, the order matters: the first class
is lost in both orders, as the last definition gets its handle, and the parameter of the box that is
called like it stands under the name of the one that came last. -/
theorem lineage_order_wrapped :
    let ds := TypeDef.class_ "a.First" :: boxed (UInt32.size - 3) (.class_ "a.Middle") ++
      [TypeDef.class_ "a.Last"]
    let ds' := TypeDef.class_ "a.First" :: boxed (UInt32.size - 3) (.class_ "a.Last") ++
      [TypeDef.class_ "a.Middle"]
    let r := empty.after (ds.map .register)
    let r' := empty.after (ds'.map .register)
    ds.Perm ds' ∧ (ds.map (·.name)).Nodup ∧ r.SelfContained ∧ r'.SelfContained ∧
      (∀ x, r.Describes x ↔ r'.Describes x) ∧ r.get? ⟨2⟩ = some openBox ∧
      r'.get? ⟨2⟩ = some openBox ∧
      (r.oracle.lineage .none .hierarchy (.type ⟨2⟩)).tree = .node "a.Box" [.leaf "a.Last"] ∧
      (r'.oracle.lineage .none .hierarchy (.type ⟨2⟩)).tree =
        .node "a.Box" [.leaf "a.Middle"] := by
  have hsize : UInt32.size - 3 + 3 = UInt32.size := by decide
  generalize UInt32.size - 3 = n at hsize
  intro ds ds' r r'
  have hperm := perm_boxed n (.class_ "a.Middle") (.class_ "a.Last")
  obtain ⟨hnames, hself, hbox, htree, hdescribes⟩ := order_wrapped hsize (s := "a.Middle")
    (t := "a.Last") (by decide) (by decide) (by decide) (by decide) (by decide) (by decide)
    (by decide)
  obtain ⟨-, hself', hbox', htree', hdescribes'⟩ := order_wrapped hsize (s := "a.Last")
    (t := "a.Middle") (by decide) (by decide) (by decide) (by decide) (by decide) (by decide)
    (by decide)
  refine ⟨hperm.cons _, hnames, hself, hself', fun x => ?_, hbox, hbox', htree, htree'⟩
  rw [hdescribes, hdescribes']
  simp only [hperm.mem_iff]

end Registry

end TypeAncestry
