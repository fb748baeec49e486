import Mathlib.Algebra.Group.Nat.Defs
import TypeAncestry.Proofs.Registry.Changes
import TypeAncestry.Proofs.Registry.References

/-!
# What a registry keeps straight

A registry keeps its definitions by their handles and, apart from them, the latest handle for each
name.  What the two have to do with each other is told by the names that have been registered, in
order: the definition number `n` has the name number `n`, a name leads to the last of its
definitions, and the names are listed in the order in which they came up.  Registering a definition
adds one name; the other changes add none and leave names and handles as they are.

* `Registry.Coherent` : the registry agrees with the names that have been registered.
* `Registry.Coherent.register`, `Registry.Coherent.apply` : it still does after a change.
* `Registry.Amends` : what completing a definition does to a registry.
* `Registry.coherent_after` : registries are coherent as long as there are handles left.
-/

namespace TypeAncestry

namespace Handle

/-- The number of a handle. -/
def number (h : Handle) : Nat := h.index.toNat

theorem number_ofNumber {n : Nat} (hn : n < UInt32.size) : (ofNumber n).number = n :=
  UInt32.toNat_ofNat_of_lt' hn

theorem eq_of_number {h k : Handle} (he : h.number = k.number) : h = k := by
  obtain ⟨i⟩ := h
  obtain ⟨j⟩ := k
  exact congrArg Handle.mk (UInt32.toNat_inj.1 he)

end Handle

namespace Registry

variable {r : Registry} {ns : List String} {n : String} {h : Handle} {d : TypeDef} {c : Change}
  {cs : List Change}

/-- The registry agrees with the names `ns`, which have been registered in this order. -/
structure Coherent (r : Registry) (ns : List String) : Prop where
  /-- Each registration has added a definition. -/
  size : r.size = ns.length
  /-- The next handle is the one behind all that have been given out. -/
  next : r.next = .ofNumber (ns.length + 1)
  /-- The handles with a definition are those from one up to the number of definitions. -/
  defined : ∀ h, (∃ d, r.get? h = some d) ↔ 1 ≤ h.number ∧ h.number ≤ r.size
  /-- The handles were given out in the order of registration. -/
  named : ∀ h d, r.get? h = some d → ns[h.number - 1]? = some d.name
  /-- A name leads to the last of its definitions. -/
  latest : ∀ n h, r.lookup n = some h ↔
    (∃ d, r.get? h = some d ∧ d.name = n) ∧
      ∀ k e, r.get? k = some e → e.name = n → k.number ≤ h.number
  /-- The names of the definitions are listed. -/
  listed : ∀ n, n ∈ r.names.keys ↔ ∃ h d, r.get? h = some d ∧ d.name = n
  /-- They are listed once each, in the order of their first registration. -/
  order : r.names.keys.Pairwise (ns.idxOf · < ns.idxOf ·)

theorem mem_keys_definitions : h ∈ r.definitions.keys ↔ ∃ d, r.get? h = some d :=
  OrderedMap.mem_keys_iff

theorem mem_keys_names : n ∈ r.names.keys ↔ ∃ h, r.lookup n = some h :=
  OrderedMap.mem_keys_iff

/-! ### Completing a definition -/

/-- What it does to a registry to amend the definition under `h` by `f`; `x` is whether there was
one, and what has become of the registry. -/
structure Amends (r : Registry) (h : Handle) (f : TypeDef → TypeDef) (x : Bool × Registry) :
    Prop where
  /-- It succeeds if there is a definition. -/
  succeeds : x.1 = true ↔ ∃ d, r.get? h = some d
  /-- If it does not, the registry stays as it is. -/
  refused : x.1 = false → x.2 = r
  /-- The definition is the amended one. -/
  amended : ∀ d, r.get? h = some d → x.2.get? h = some (f d)
  /-- The other definitions stay as they are. -/
  others : ∀ k, k ≠ h → x.2.get? k = r.get? k
  /-- There are definitions under the same handles, in the same order. -/
  handles : x.2.definitions.keys = r.definitions.keys
  names : x.2.names = r.names
  values : x.2.values = r.values
  next : x.2.next = r.next

theorem keys_modify (r : Registry) (h : Handle) (f : TypeDef → TypeDef) :
    (r.modify h f).2.definitions.keys = r.definitions.keys := by
  rcases hd : r.definitions.get? h with _ | d
  · simp [modify, OrderedMap.adjust, hd]
  · have hmem : h ∈ r.definitions.keys := OrderedMap.mem_keys_iff.2 ⟨d, hd⟩
    simp [modify, OrderedMap.adjust, hd, OrderedMap.keys_insert, hmem]

theorem amends_modify (r : Registry) (h : Handle) (f : TypeDef → TypeDef) :
    r.Amends h f (r.modify h f) where
  succeeds := by
    rcases hd : r.definitions.get? h with _ | d <;> simp [modify, OrderedMap.adjust, hd, get?]
  refused := by
    rcases hd : r.definitions.get? h with _ | d <;> simp [modify, OrderedMap.adjust, hd]
  amended d hd := by rw [get?_modify, hd, Option.map_some, if_pos rfl]
  others k hk := by simp only [get?_modify, if_neg hk, Option.map_id']
  handles := r.keys_modify h f
  names := (r.modify_keeps h f).1
  values := (r.modify_keeps h f).2.2
  next := (r.modify_keeps h f).2.1

theorem keys_apply (hc : c.definition? = none) (r : Registry) :
    (r.apply c).definitions.keys = r.definitions.keys := by
  cases c with
  | register d => nomatch hc
  | setSuperType h ref => exact r.keys_modify h _
  | addInterface h ref => exact r.keys_modify h _
  | bind tag h => rfl

namespace Coherent

/-! ### What follows -/

theorem lookup_eq_none_iff (hr : r.Coherent ns) :
    r.lookup n = none ↔ ∀ h d, r.get? h = some d → d.name ≠ n := by
  have hlisted := mem_keys_names.symm.trans (hr.listed n)
  rw [← not_iff_not, ← ne_eq, Option.ne_none_iff_exists', hlisted]
  simp

theorem named_of_lookup (hr : r.Coherent ns) : r.Named :=
  fun n h hn => ((hr.latest n h).1 hn).1

theorem mem_of_get? (hr : r.Coherent ns) (hd : r.get? h = some d) : d.name ∈ ns :=
  List.mem_of_getElem? (hr.named h d hd)

/-- Every name that has been registered is the name of a definition. -/
theorem mem_keys_iff (hr : r.Coherent ns) (hroom : ns.length < UInt32.size) :
    n ∈ r.names.keys ↔ n ∈ ns := by
  rw [hr.listed]
  constructor
  · rintro ⟨h, d, hd, rfl⟩
    exact hr.mem_of_get? hd
  · intro hn
    obtain ⟨i, hi, rfl⟩ := List.mem_iff_getElem.1 hn
    have hnumber : (Handle.ofNumber (i + 1)).number = i + 1 := Handle.number_ofNumber (by omega)
    obtain ⟨d, hd⟩ := (hr.defined (.ofNumber (i + 1))).2 (by rw [hr.size]; omega)
    have hname := hr.named _ d hd
    rw [hnumber, Nat.add_sub_cancel, List.getElem?_eq_getElem hi] at hname
    exact ⟨_, d, hd, (Option.some.inj hname).symm⟩

theorem number_next (hr : r.Coherent ns) (hroom : ns.length + 1 < UInt32.size) :
    r.next.number = ns.length + 1 := by
  rw [hr.next, Handle.number_ofNumber hroom]

theorem number_le (hr : r.Coherent ns) (hd : r.get? h = some d) : h.number ≤ ns.length :=
  hr.size ▸ ((hr.defined h).1 ⟨d, hd⟩).2

/-- The next handle is new. -/
theorem get?_next (hr : r.Coherent ns) (hroom : ns.length + 1 < UInt32.size) :
    r.get? r.next = none := by
  rw [Option.eq_none_iff_forall_ne_some]
  intro d hd
  have hle := hr.number_le hd
  rw [hr.number_next hroom] at hle
  omega

/-! ### Registering -/

theorem size_register (hr : r.Coherent ns) (d : TypeDef) (hroom : ns.length + 1 < UInt32.size) :
    (r.register d).2.size = ns.length + 1 := by
  have hfresh : r.next ∉ r.definitions.keys := by simp [mem_keys_definitions, hr.get?_next hroom]
  have hkeys : (r.register d).2.definitions.keys = r.definitions.keys ++ [r.next] := by
    simp only [Registry.register, OrderedMap.keys_insert, if_neg hfresh]
  rw [Registry.size, OrderedMap.size_eq_length_keys, hkeys, List.length_append,
    ← OrderedMap.size_eq_length_keys, ← Registry.size, hr.size]
  rfl

/-- Definitions with another name are those that there were. -/
theorem get?_register_of_name_ne (hr : r.Coherent ns) (hroom : ns.length + 1 < UInt32.size)
    {e : TypeDef} (hne : e.name ≠ d.name) :
    (r.register d).2.get? h = some e ↔ r.get? h = some e := by
  rw [get?_register]
  split_ifs with hh
  · subst hh
    rw [hr.get?_next hroom]
    exact ⟨fun he => absurd (congrArg (·.name) (Option.some.inj he)).symm hne, nofun⟩
  · rfl

/-- The name of the new definition leads to it, and its handle is the greatest. -/
theorem latest_register (hr : r.Coherent ns) (d : TypeDef) (hroom : ns.length + 1 < UInt32.size)
    (n : String) (h : Handle) :
    (r.register d).2.lookup n = some h ↔
      (∃ e, (r.register d).2.get? h = some e ∧ e.name = n) ∧
        ∀ k e, (r.register d).2.get? k = some e → e.name = n → k.number ≤ h.number := by
  rw [lookup_register]
  by_cases hn : n = d.name
  · subst hn
    have hself : (r.register d).2.get? r.next = some d := by rw [get?_register, if_pos rfl]
    -- any other handle with a definition is smaller
    have hsmaller : ∀ {k e}, (r.register d).2.get? k = some e →
        k = r.next ∨ k.number < r.next.number := by
      intro k e he
      rw [get?_register] at he
      split_ifs at he with hk
      · exact .inl hk
      · have hle := hr.number_le he
        rw [hr.number_next hroom]
        exact .inr (Nat.lt_succ_of_le hle)
    rw [if_pos rfl]
    constructor
    · intro hh
      obtain rfl := Option.some.inj hh
      refine ⟨⟨d, hself, rfl⟩, fun k e he _ => ?_⟩
      obtain rfl | hlt := hsmaller he
      · exact Nat.le_refl _
      · exact Nat.le_of_lt hlt
    · rintro ⟨⟨e, he, -⟩, hmax⟩
      obtain rfl | hlt := hsmaller he
      · rfl
      · exact absurd (hmax r.next d hself rfl) (Nat.not_le_of_lt hlt)
  · have hold : ∀ {k e}, e.name = n →
        ((r.register d).2.get? k = some e ↔ r.get? k = some e) := by
      rintro k e rfl
      exact hr.get?_register_of_name_ne hroom hn
    rw [if_neg hn, hr.latest]
    constructor
    · rintro ⟨⟨e, he, hname⟩, hmax⟩
      exact ⟨⟨e, (hold hname).2 he, hname⟩, fun k e he hname =>
        hmax k e ((hold hname).1 he) hname⟩
    · rintro ⟨⟨e, he, hname⟩, hmax⟩
      exact ⟨⟨e, (hold hname).1 he, hname⟩, fun k e he hname =>
        hmax k e ((hold hname).2 he) hname⟩

/-- A name that is new comes behind all others, and one that is not keeps its place. -/
theorem order_register (hr : r.Coherent ns) (d : TypeDef) (hroom : ns.length + 1 < UInt32.size) :
    (r.register d).2.names.keys.Pairwise
      ((ns ++ [d.name]).idxOf · < (ns ++ [d.name]).idxOf ·) := by
  have hmem : ∀ {n}, n ∈ r.names.keys ↔ n ∈ ns := hr.mem_keys_iff (by omega)
  -- behind more names the places of those that there were are the same
  have hplaces : r.names.keys.Pairwise ((ns ++ [d.name]).idxOf · < (ns ++ [d.name]).idxOf ·) := by
    refine hr.order.imp_of_mem fun {m n} hm hn hlt => ?_
    rwa [List.idxOf_append_of_mem (hmem.1 hm), List.idxOf_append_of_mem (hmem.1 hn)]
  simp only [Registry.register, OrderedMap.keys_insert]
  split_ifs with hlist
  · exact hplaces
  · refine List.pairwise_append.2 ⟨hplaces, List.pairwise_singleton _ _, fun m hm n hn => ?_⟩
    obtain rfl := List.mem_singleton.1 hn
    have hlast : d.name ∉ ns := mt hmem.2 hlist
    rw [List.idxOf_append_of_mem (hmem.1 hm), List.idxOf_append_of_notMem hlast]
    exact Nat.lt_add_right _ (List.idxOf_lt_length_of_mem (hmem.1 hm))

/-- **A registration keeps a registry coherent,** as long as there are handles left. -/
theorem register (hr : r.Coherent ns) (d : TypeDef) (hroom : ns.length + 1 < UInt32.size) :
    (r.register d).2.Coherent (ns ++ [d.name]) := by
  have hsize := hr.size_register d hroom
  have hnumber := hr.number_next hroom
  refine ⟨by rw [hsize, List.length_append, List.length_singleton], ?_, fun h => ?_,
    fun h e he => ?_, hr.latest_register d hroom, fun n => ?_, hr.order_register d hroom⟩
  · rw [List.length_append, List.length_singleton, ← Handle.next_ofNumber, ← hr.next]
    rfl
  · rw [get?_register, hsize]
    split_ifs with hh
    · subst hh
      exact ⟨fun _ => by omega, fun _ => ⟨d, rfl⟩⟩
    · have hne : h.number ≠ ns.length + 1 :=
        fun he => hh (Handle.eq_of_number (he.trans hnumber.symm))
      rw [hr.defined h, hr.size]
      omega
  · rw [get?_register] at he
    split_ifs at he with hh
    · obtain rfl := Option.some.inj he
      rw [hh, hnumber, Nat.add_sub_cancel, List.getElem?_concat_length]
    · have hpos := ((hr.defined h).1 ⟨e, he⟩).1
      have hle := hr.number_le he
      rw [List.getElem?_append_left (by omega)]
      exact hr.named h e he
  · have hlisted : n ∈ (r.register d).2.names.keys ↔ n ∈ r.names.keys ∨ n = d.name := by
      simp only [Registry.register, OrderedMap.keys_insert]
      split_ifs with hmem
      · exact ⟨.inl, fun hn => hn.elim id fun hn => hn ▸ hmem⟩
      · simp
    rw [hlisted, hr.listed]
    by_cases hn : n = d.name
    · subst hn
      exact ⟨fun _ => ⟨r.next, d, by rw [get?_register, if_pos rfl], rfl⟩, fun _ => .inr rfl⟩
    · simp only [hn, or_false]
      refine exists_congr fun h => exists_congr fun e => and_congr_left ?_
      rintro rfl
      exact (hr.get?_register_of_name_ne hroom hn).symm

/-! ### Other changes -/

/-- **A change that registers nothing keeps a registry coherent** with the same names. -/
theorem apply (hr : r.Coherent ns) (hc : c.definition? = none) : (r.apply c).Coherent ns := by
  have hsize : (r.apply c).size = r.size := by
    rw [Registry.size, Registry.size, OrderedMap.size_eq_length_keys, keys_apply hc,
      OrderedMap.size_eq_length_keys]
  have hnamed : ∀ h n, (∃ e, (r.apply c).get? h = some e ∧ e.name = n) ↔
      ∃ d, r.get? h = some d ∧ d.name = n := exists_named_apply hc r
  refine ⟨hsize.trans hr.size, (next_apply hc r).trans hr.next, fun h => ?_, fun h e he => ?_,
    fun n h => ?_, fun n => ?_, ?_⟩
  · rw [← mem_keys_definitions, keys_apply hc, mem_keys_definitions, hsize]
    exact hr.defined h
  · obtain ⟨d, hd, hname⟩ := (hnamed h e.name).1 ⟨e, he, rfl⟩
    rw [← hname]
    exact hr.named h d hd
  · rw [lookup_apply hc, hnamed, hr.latest]
    refine and_congr_right fun _ => ⟨fun hmax k e he hname => ?_, fun hmax k d hd hname => ?_⟩
    · obtain ⟨d, hd, hname⟩ := (hnamed k n).1 ⟨e, he, hname⟩
      exact hmax k d hd hname
    · obtain ⟨e, he, hname⟩ := (hnamed k n).2 ⟨d, hd, hname⟩
      exact hmax k e he hname
  · rw [names_apply hc, hr.listed]
    exact exists_congr fun h => (hnamed h n).symm
  · rw [names_apply hc]
    exact hr.order

end Coherent

/-! ### Any number of changes -/

theorem coherent_empty : empty.Coherent [] where
  size := rfl
  next := rfl
  defined h := ⟨fun ⟨_, hd⟩ => (nomatch hd),
    fun ⟨hone, hzero⟩ => absurd (hone.trans hzero) (by decide)⟩
  named _ _ hd := nomatch hd
  latest n h := ⟨fun hn => (nomatch hn), fun ⟨⟨_, hd, _⟩, _⟩ => (nomatch hd)⟩
  listed n := ⟨fun hn => (nomatch hn), fun ⟨_, _, hd, _⟩ => (nomatch hd)⟩
  order := .nil

/-- **Changes of the empty registry make coherent ones,** as long as there are handles left. -/
theorem coherent_after_empty (hcs : (registrations cs).length + 1 < UInt32.size) :
    (empty.after cs).Coherent ((registrations cs).map (·.name)) := by
  induction cs using List.reverseRecOn with
  | nil => exact coherent_empty
  | append_singleton cs c ih =>
    rw [after_concat]
    obtain ⟨d, rfl⟩ | hc := c.cases
    · rw [length_registrations_register] at hcs
      have hnames : (registrations (cs ++ [.register d])).map (·.name) =
          (registrations cs).map (·.name) ++ [d.name] := by
        simp [registrations, Change.definition?]
      rw [hnames]
      exact (ih (by omega)).register d (by rw [List.length_map]; omega)
    · rw [registrations_concat hc] at hcs ⊢
      exact (ih hcs).apply hc

theorem length_allDefinitions (r : Registry) : r.allDefinitions.length = r.size :=
  List.length_map _

theorem registrations_replay (r : Registry) : registrations r.replay = r.allDefinitions := by
  simp [registrations, replay, allDefinitions, Change.definition?]

/-- The core types are as good as registered by the first changes. -/
theorem after_replay_append {start : Registry} (hstart : start = empty ∨ start = core)
    (cs : List Change) : empty.after (start.replay ++ cs) = start.after cs := by
  rw [after_append]
  rcases hstart with rfl | rfl
  · rfl
  · rw [after_replay_core]

theorem registrations_replay_append (r : Registry) (cs : List Change) :
    registrations (r.replay ++ cs) = r.allDefinitions ++ registrations cs := by
  rw [registrations_append, registrations_replay]

theorem coherent_after_start {start : Registry} (hstart : start = empty ∨ start = core)
    (cs : List Change) (hcount : start.size + (registrations cs).length + 1 < UInt32.size) :
    (start.after cs).Coherent
      (start.allDefinitions.map (·.name) ++ (registrations cs).map (·.name)) := by
  have hcoherent : (empty.after (start.replay ++ cs)).Coherent _ :=
    coherent_after_empty (by
      rwa [registrations_replay_append, List.length_append, length_allDefinitions])
  rwa [registrations_replay_append, List.map_append, after_replay_append hstart] at hcoherent

/-- **Registries are coherent.**  Let changes be made to the empty registry or to the one with the
core types, and let the definitions never be as many as there are handles.  Then the names of the
definitions agree with those that have been registered, in order; a name leads nowhere only if there
is no definition with this name, and a type that a name leads to has this name.  To give a type a
super-type or one more interface amends its definition and nothing else, and to register a type
leaves the definitions as they are. -/
theorem coherent_after {start : Registry} (hstart : start = empty ∨ start = core)
    (cs : List Change) (hcount : start.size + (registrations cs).length < 2 ^ 32 - 1) :
    let r := start.after cs
    r.Coherent (start.allDefinitions.map (·.name) ++ (registrations cs).map (·.name)) ∧
      (∀ n, r.lookup n = none ↔ ∀ h d, r.get? h = some d → d.name ≠ n) ∧
      (∀ n h, r.oracle.resolve n = some h → r.oracle.canonicalName h = n) ∧
      (∀ h ref, r.Amends h (fun d => { d with superType := some ref }) (r.setSuperType h ref)) ∧
      (∀ h ref, r.Amends h (fun d => { d with interfaces := d.interfaces ++ [ref] })
        (r.addInterface h ref)) ∧
      ∀ d, r.get? (r.register d).1 = none ∧ (r.register d).2.get? (r.register d).1 = some d ∧
        ∀ h e, r.get? h = some e → (r.register d).2.get? h = some e := by
  intro r
  have hroom : start.size + (registrations cs).length + 1 < UInt32.size := by
    rw [UInt32.size]
    omega
  have hr : r.Coherent _ := coherent_after_start hstart cs hroom
  have hnew : r.get? r.next = none := by
    refine hr.get?_next ?_
    rw [List.length_append, List.length_map, List.length_map, length_allDefinitions]
    exact hroom
  refine ⟨hr, fun n => hr.lookup_eq_none_iff, fun n h hn => ?_, fun h ref => r.amends_modify h _,
    fun h ref => r.amends_modify h _, fun d => ⟨hnew, ?_, fun h e he => ?_⟩⟩
  · obtain ⟨d, hd, rfl⟩ := hr.named_of_lookup n h hn
    simp [oracle, hd]
  · exact (r.get?_register d _).trans (if_pos rfl)
  · have hne : h ≠ r.next := by
      rintro rfl
      rw [hnew] at he
      cases he
    rw [get?_register, if_neg hne, he]

/-- A text is registered, and `java.lang.String` once more, which becomes a text.  The last handle
is not one of a definition. -/
def restring : List Change :=
  [.register (.interface "a.Text"), .register (.class_ "java.lang.String"),
    .addInterface ⟨37⟩ (.plain ⟨36⟩), .setSuperType ⟨38⟩ (.plain ⟨1⟩)]

/-- Behind the core types the two definitions have the handles 36 and 37.  The name
`java.lang.String` leads to the new definition, but keeps its place among the names. -/
theorem coherent_after_restring :
    let r := core.after restring
    core.size + (registrations restring).length < 2 ^ 32 - 1 ∧ r.size = 37 ∧
      r.names.keys = core.names.keys ++ ["a.Text"] ∧
      r.lookup "java.lang.String" = some ⟨37⟩ ∧
      r.oracle.canonicalName ⟨20⟩ = "java.lang.String" ∧
      (∀ k e, r.get? k = some e → e.name = "java.lang.String" → k.number ≤ 37) ∧
      (r.setSuperType ⟨38⟩ (.plain ⟨1⟩)).1 = false ∧
      (r.setSuperType ⟨38⟩ (.plain ⟨1⟩)).2 = r ∧
      r.Coherent (core.allDefinitions.map (·.name) ++ ["a.Text", "java.lang.String"]) := by
  intro r
  -- the core types are worked out once for all that is to be looked up
  obtain ⟨hcount, hsize, hnames, hlookup, hold, hfails⟩ :
      core.size + (registrations restring).length < 2 ^ 32 - 1 ∧ r.size = 37 ∧
        r.names.keys = core.names.keys ++ ["a.Text"] ∧
        r.lookup "java.lang.String" = some ⟨37⟩ ∧
        r.oracle.canonicalName ⟨20⟩ = "java.lang.String" ∧
        (r.setSuperType ⟨38⟩ (.plain ⟨1⟩)).1 = false := by decide +kernel
  obtain ⟨hr, -, -, hsuper, -⟩ := coherent_after (.inr rfl) restring hcount
  exact ⟨hcount, hsize, hnames, hlookup, hold, ((hr.latest _ _).1 hlookup).2, hfails,
    (hsuper _ _).refused hfails, hr⟩

end Registry

end TypeAncestry
