import Mathlib.Data.List.Induction
import TypeAncestry.Proofs.Lineage.Renaming
import TypeAncestry.Registry.Core

/-!
# Registries through their changes

A registry comes of the empty one by registering definitions, completing them and binding the types
of values, in any order.  What is said here of one change is said of any number of them by induction
from the last change back.

* `Registry.Change`, `Registry.after` : changes, and what they make of a registry.
* `Registry.registrations` : the definitions that changes register.
* `Registry.get?_apply`, `Registry.lookup_apply` : a change that registers nothing only amends
  definitions, and leaves their names alone.
* `Registry.Indexed`, `Registry.Named` : how names and definitions belong together.
* `Registry.Reached` : the registries that changes lead to; the core types are among them.
* `Registry.named_after` : as long as there are handles left, a name leads to a definition with this
  name.
-/

namespace TypeAncestry

/-- The handles in the references of a definition. -/
def TypeDef.handles (d : TypeDef) : List Handle :=
  TypeRef.handlesAll (d.superType.toList ++ d.interfaces)

/-! ### The handles that are given out -/

namespace Handle

/-- The handle that registration number `n` gets, counted from one on. -/
def ofNumber (n : Nat) : Handle := ⟨UInt32.ofNat n⟩

theorem next_ofNumber (n : Nat) : (ofNumber n).next = ofNumber (n + 1) := by
  simp [ofNumber, next, UInt32.ofNat_add]

/-- A handle comes back only when all others have been given out. -/
theorem ofNumber_ne {n m : Nat} (hlt : n < m) (hm : m < n + UInt32.size) :
    ofNumber n ≠ ofNumber m := by
  intro he
  have hmod : m % UInt32.size = n % UInt32.size := by
    simpa [ofNumber, UInt32.size] using congrArg (·.index.toNat) he.symm
  have hzero := Nat.sub_mod_eq_zero_of_mod_eq hmod
  rw [Nat.mod_eq_of_lt (by omega)] at hzero
  omega

end Handle

namespace Registry

/-! ### Changes -/

/-- A change of a registry. -/
inductive Change where
  | register (d : TypeDef)
  | setSuperType (h : Handle) (ref : TypeRef Handle)
  | addInterface (h : Handle) (ref : TypeRef Handle)
  | bind (tag : ValueTag) (h : Handle)

/-- The registry after a change. -/
def apply (r : Registry) : Change → Registry
  | .register d => (r.register d).2
  | .setSuperType h ref => (r.setSuperType h ref).2
  | .addInterface h ref => (r.addInterface h ref).2
  | .bind tag h => r.bind tag h

/-- The registry after changes, the first of the list first. -/
def after (r : Registry) (cs : List Change) : Registry := cs.foldl apply r

namespace Change

/-- The definition that a change registers. -/
def definition? : Change → Option TypeDef
  | register d => some d
  | _ => none

/-- What a change makes of the definition `d` under the handle `h`. -/
def amend (c : Change) (h : Handle) (d : TypeDef) : TypeDef :=
  match c with
  | setSuperType k ref => if h = k then d.extending ref else d
  | addInterface k ref => if h = k then d.implementing ref else d
  | _ => d

theorem cases (c : Change) : (∃ d, c = register d) ∨ c.definition? = none := by
  cases c with
  | register d => exact .inl ⟨d, rfl⟩
  | setSuperType | addInterface | bind => exact .inr rfl

@[simp] theorem amend_name (c : Change) (h : Handle) (d : TypeDef) :
    (c.amend h d).name = d.name := by
  cases c with
  | register | bind => rfl
  | setSuperType | addInterface => simp only [amend]; split <;> rfl

end Change

/-- The definitions that changes register, in order. -/
def registrations (cs : List Change) : List TypeDef := cs.filterMap (·.definition?)

variable {r : Registry} {h k : Handle} {d : TypeDef} {n : String} {c : Change} {cs : List Change}

theorem after_append (r : Registry) (cs ds : List Change) :
    r.after (cs ++ ds) = (r.after cs).after ds :=
  List.foldl_append

theorem after_concat (r : Registry) (cs : List Change) (c : Change) :
    r.after (cs ++ [c]) = (r.after cs).apply c :=
  r.after_append cs [c]

theorem registrations_append (cs ds : List Change) :
    registrations (cs ++ ds) = registrations cs ++ registrations ds :=
  List.filterMap_append

theorem length_registrations_register (cs : List Change) (d : TypeDef) :
    (registrations (cs ++ [.register d])).length = (registrations cs).length + 1 := by
  simp [registrations, Change.definition?]

theorem registrations_concat (hc : c.definition? = none) (cs : List Change) :
    registrations (cs ++ [c]) = registrations cs := by
  simp [registrations, hc]

/-! ### One change -/

theorem get?_register (r : Registry) (d : TypeDef) (h : Handle) :
    (r.register d).2.get? h = if h = r.next then some d else r.get? h := by
  split
  · next he => exact he ▸ OrderedMap.get?_insert_self r.definitions r.next d
  · next he => exact OrderedMap.get?_insert_of_ne r.definitions he d

theorem lookup_register (r : Registry) (d : TypeDef) (n : String) :
    (r.register d).2.lookup n = if n = d.name then some r.next else r.lookup n := by
  split
  · next he => exact he ▸ OrderedMap.get?_insert_self r.names d.name r.next
  · next he => exact OrderedMap.get?_insert_of_ne r.names he r.next

/-- Only the definition under the handle is changed, if there is one. -/
theorem get?_modify (r : Registry) (h : Handle) (f : TypeDef → TypeDef) (k : Handle) :
    (r.modify h f).2.get? k = (r.get? k).map fun d => if k = h then f d else d := by
  rcases hd : r.definitions.get? h with _ | d
  · have hnone : (r.modify h f).2 = r := by simp [modify, OrderedMap.adjust, hd]
    rw [hnone]
    rcases he : r.get? k with _ | e
    · rfl
    · have hne : k ≠ h := fun heq => by simp [get?, heq, hd] at he
      rw [Option.map_some, if_neg hne]
  · have hsome : (r.modify h f).2.get? k = (r.definitions.insert h (f d)).get? k := by
      simp [modify, OrderedMap.adjust, hd, get?]
    rw [hsome]
    by_cases hk : k = h
    · subst hk
      simp [OrderedMap.get?_insert_self, get?, hd]
    · rw [OrderedMap.get?_insert_of_ne _ hk]
      simp [hk, get?]

theorem modify_keeps (r : Registry) (h : Handle) (f : TypeDef → TypeDef) :
    (r.modify h f).2.names = r.names ∧ (r.modify h f).2.next = r.next ∧
      (r.modify h f).2.values = r.values := by
  unfold modify
  split <;> exact ⟨rfl, rfl, rfl⟩

/-- **A change that registers nothing only amends definitions.** -/
theorem get?_apply (hc : c.definition? = none) (r : Registry) (h : Handle) :
    (r.apply c).get? h = (r.get? h).map fun d => c.amend h d := by
  cases c with
  | register d => nomatch hc
  | setSuperType k ref => exact r.get?_modify k _ h
  | addInterface k ref => exact r.get?_modify k _ h
  | bind tag k => exact Option.map_id'.symm

/-- The definitions keep their names. -/
theorem exists_named_apply (hc : c.definition? = none) (r : Registry) (h : Handle) (n : String) :
    (∃ e, (r.apply c).get? h = some e ∧ e.name = n) ↔ ∃ d, r.get? h = some d ∧ d.name = n := by
  rw [get?_apply hc]
  rcases r.get? h with _ | d <;> simp

theorem names_apply (hc : c.definition? = none) (r : Registry) : (r.apply c).names = r.names := by
  cases c with
  | register d => nomatch hc
  | setSuperType h ref => exact (r.modify_keeps h _).1
  | addInterface h ref => exact (r.modify_keeps h _).1
  | bind tag h => rfl

theorem lookup_apply (hc : c.definition? = none) (r : Registry) (n : String) :
    (r.apply c).lookup n = r.lookup n :=
  congrArg (OrderedMap.get? · n) (names_apply hc r)

theorem next_apply (hc : c.definition? = none) (r : Registry) : (r.apply c).next = r.next := by
  cases c with
  | register d => nomatch hc
  | setSuperType h ref => exact (r.modify_keeps h _).2.1
  | addInterface h ref => exact (r.modify_keeps h _).2.1
  | bind tag h => rfl

/-! ### Names and definitions -/

/-- Every name leads to a definition, and the name of every definition leads somewhere. -/
structure Indexed (r : Registry) : Prop where
  stored : ∀ {n h}, r.lookup n = some h → ∃ d, r.get? h = some d
  listed : ∀ {h d}, r.get? h = some d → ∃ k, r.lookup d.name = some k

/-- A name leads to a definition with this name. -/
def Named (r : Registry) : Prop := ∀ n h, r.lookup n = some h → ∃ d, r.get? h = some d ∧ d.name = n

theorem indexed_empty : empty.Indexed := ⟨fun h => (nomatch h), fun h => (nomatch h)⟩

theorem Indexed.apply (hr : r.Indexed) (c : Change) : (r.apply c).Indexed := by
  obtain ⟨d, rfl⟩ | hc := c.cases
  · have hget : ∀ h, (r.apply (.register d)).get? h = if h = r.next then some d else r.get? h :=
      r.get?_register d
    have hlookup : ∀ n, (r.apply (.register d)).lookup n =
        if n = d.name then some r.next else r.lookup n := r.lookup_register d
    refine ⟨fun {n h} hn => ?_, fun {h e} he => ?_⟩
    · rw [hlookup] at hn
      rw [hget]
      split_ifs at hn with hname
      · exact ⟨d, if_pos (Option.some.inj hn).symm⟩
      · split_ifs
        · exact ⟨d, rfl⟩
        · exact hr.stored hn
    · rw [hget] at he
      rw [hlookup]
      split_ifs with hname
      · exact ⟨_, rfl⟩
      · split_ifs at he with hh
        · exact absurd (congrArg (·.name) (Option.some.inj he)).symm hname
        · exact hr.listed he
  · refine ⟨fun {n h} hn => ?_, fun {h e} he => ?_⟩
    · rw [lookup_apply hc] at hn
      obtain ⟨e, he⟩ := hr.stored hn
      exact ⟨_, by rw [get?_apply hc, he, Option.map_some]⟩
    · rw [get?_apply hc] at he
      obtain ⟨d, hd, rfl⟩ := Option.map_eq_some_iff.1 he
      rw [lookup_apply hc, Change.amend_name]
      exact hr.listed hd

/-- A registration makes no other name lead astray, if its handle is new. -/
theorem Named.apply (hr : r.Named) (c : Change)
    (hc : c.definition?.isSome → r.get? r.next = none) : (r.apply c).Named := by
  intro n h hn
  obtain ⟨d, rfl⟩ | hc' := c.cases
  · have hnew := hc rfl
    change (r.register d).2.lookup n = some h at hn
    change ∃ e, (r.register d).2.get? h = some e ∧ e.name = n
    rw [lookup_register] at hn
    rw [get?_register]
    split_ifs at hn with hname
    · obtain rfl := Option.some.inj hn
      exact ⟨d, if_pos rfl, hname.symm⟩
    · obtain ⟨e, he, hen⟩ := hr n h hn
      have hne : h ≠ r.next := fun heq => by rw [heq, hnew] at he; cases he
      exact ⟨e, by rw [if_neg hne, he], hen⟩
  · rw [lookup_apply hc'] at hn
    exact (exists_named_apply hc' r h n).2 (hr n h hn)

/-! ### Any number of changes -/

theorem indexed_after (cs : List Change) : (empty.after cs).Indexed := by
  induction cs using List.reverseRecOn with
  | nil => exact indexed_empty
  | append_singleton cs c ih =>
    rw [after_concat]
    exact ih.apply c

theorem next_after (cs : List Change) :
    (empty.after cs).next = .ofNumber ((registrations cs).length + 1) := by
  induction cs using List.reverseRecOn with
  | nil => rfl
  | append_singleton cs c ih =>
    rw [after_concat]
    obtain ⟨d, rfl⟩ | hc := c.cases
    · rw [length_registrations_register, ← Handle.next_ofNumber, ← ih]
      rfl
    · rw [next_apply hc, registrations_concat hc, ih]

/-- The handles that changes of the empty registry give out. -/
def handed (cs : List Change) : List Handle :=
  (List.range (registrations cs).length).map fun m => .ofNumber (m + 1)

/-- There are definitions only under the handles that have been given out. -/
theorem mem_handed_of_get? (hd : (empty.after cs).get? h = some d) : h ∈ handed cs := by
  induction cs using List.reverseRecOn generalizing d with
  | nil => nomatch hd
  | append_singleton cs c ih =>
    rw [after_concat] at hd
    obtain ⟨e, rfl⟩ | hc := c.cases
    · rw [handed, length_registrations_register, List.range_succ, List.map_append]
      change ((empty.after cs).register e).2.get? h = some d at hd
      rw [get?_register] at hd
      split_ifs at hd with hh
      · exact List.mem_append_right _ (List.mem_singleton.2 (hh.trans (next_after cs)))
      · exact List.mem_append_left _ (ih hd)
    · rw [get?_apply hc] at hd
      obtain ⟨e, he, -⟩ := Option.map_eq_some_iff.1 hd
      rw [handed, registrations_concat hc]
      exact ih he

/-- **As long as there are handles left, the next one is new.** -/
theorem get?_next_after (hcs : (registrations cs).length < UInt32.size) :
    (empty.after cs).get? (empty.after cs).next = none := by
  rw [Option.eq_none_iff_forall_ne_some]
  intro d hd
  obtain ⟨m, hm, he⟩ := List.mem_map.1 (mem_handed_of_get? hd)
  have hm : m < (registrations cs).length := List.mem_range.1 hm
  rw [next_after] at he
  exact Handle.ofNumber_ne (by omega) (by omega) he

/-- **A name leads to a definition with this name,** if no handle has been given out twice. -/
theorem named_after (hcs : (registrations cs).length ≤ UInt32.size) : (empty.after cs).Named := by
  induction cs using List.reverseRecOn with
  | nil => exact fun n h hn => nomatch hn
  | append_singleton cs c ih =>
    rw [after_concat]
    obtain ⟨d, rfl⟩ | hc := c.cases
    · rw [length_registrations_register] at hcs
      exact (ih (by omega)).apply _ fun _ => get?_next_after (by omega)
    · rw [registrations_concat hc] at hcs
      exact (ih hcs).apply c fun hd => by rw [hc] at hd; cases hd

/-! ### Registries that changes lead to -/

/-- Changes have made the registry out of the empty one. -/
def Reached (r : Registry) : Prop := ∃ cs, empty.after cs = r

theorem Reached.indexed (hr : r.Reached) : r.Indexed := by
  obtain ⟨cs, rfl⟩ := hr
  exact indexed_after cs

/-- Register the definitions of a registry as they are now, and bind the types of values. -/
def replay (r : Registry) : List Change :=
  r.definitions.entries.map (fun e => .register e.2) ++
    r.values.entries.map fun e => .bind e.1 e.2

/-- The core types are completed after they are registered, but they might as well be registered as
they end up. -/
theorem after_replay_core : empty.after core.replay = core := by
  have hsame : ∀ {r r' : Registry}, r.definitions.entries = r'.definitions.entries →
      r.names.entries = r'.names.entries → r.values.entries = r'.values.entries →
      r.next = r'.next → r = r' := by
    rintro ⟨⟨_⟩, ⟨_⟩, ⟨_⟩, _⟩ ⟨⟨_⟩, ⟨_⟩, ⟨_⟩, _⟩ rfl rfl rfl rfl
    rfl
  -- the core types are worked out once for all four parts
  obtain ⟨hdefinitions, hnames, hvalues, hnext⟩ :
      (empty.after core.replay).definitions.entries = core.definitions.entries ∧
        (empty.after core.replay).names.entries = core.names.entries ∧
        (empty.after core.replay).values.entries = core.values.entries ∧
        (empty.after core.replay).next = core.next := by decide +kernel
  exact hsame hdefinitions hnames hvalues hnext

theorem reached_core : core.Reached := ⟨core.replay, after_replay_core⟩

end Registry

end TypeAncestry
