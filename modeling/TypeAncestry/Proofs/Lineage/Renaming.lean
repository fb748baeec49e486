import Mathlib.Data.List.Basic
import Mathlib.Logic.Equiv.Defs
import TypeAncestry.Proofs.Lineage.Budget

/-!
# Other handles for the same types

A lineage shows names, and handles only serve to find them.  If two oracles know the same about
types and merely call them by other handles, a walk through one of them runs just like the walk
through the other: step by step the keys of the guard are the same but for their handles, so that it
finds the same cycles and reaches the same limits.

* `TypeRef.map`, `Target.map`, `Guard.map`, `Lineage.map` : give a handle another name, wherever it
  occurs.
* `Oracle.Renames`, `Oracle.RenamesAll` : two oracles give the same answers but for the handles.
* `Oracle.Renames.layer` : what comes below a type is the same.
* `Walk.expand_map` : so is an expansion; `Oracle.Renames.lineageOfType` and
  `Oracle.RenamesAll.lineage` : so is a lineage.
-/

namespace TypeAncestry

variable {H K : Type} {ρ : H → K}

/-! ### Renaming handles -/

namespace TypeRef

mutual

/-- The reference with other handles. -/
def map (ρ : H → K) : TypeRef H → TypeRef K
  | plain h => .plain (ρ h)
  | applied h args => .applied (ρ h) (mapAll ρ args)
  | var n => .var n

/-- The references with other handles. -/
def mapAll (ρ : H → K) : List (TypeRef H) → List (TypeRef K)
  | [] => []
  | r :: rs => r.map ρ :: mapAll ρ rs

end

theorem mapAll_eq_map (rs : List (TypeRef H)) : mapAll ρ rs = rs.map (map ρ) := by
  induction rs with
  | nil => rfl
  | cons r rs ih => rw [mapAll, ih, List.map_cons]

mutual

/-- References to different types stay references to different types. -/
theorem map_injective (hρ : Function.Injective ρ) :
    ∀ r s : TypeRef H, r.map ρ = s.map ρ → r = s
  | plain h, plain k, he => congrArg plain (hρ (TypeRef.plain.inj he))
  | applied h as, applied k bs, he => by
    obtain ⟨hh, has⟩ := TypeRef.applied.inj he
    rw [hρ hh, mapAll_injective hρ as bs has]
  | var n, var m, he => congrArg var (TypeRef.var.inj he)
  | plain _, applied _ _, he => nomatch he
  | plain _, var _, he => nomatch he
  | applied _ _, plain _, he => nomatch he
  | applied _ _, var _, he => nomatch he
  | var _, plain _, he => nomatch he
  | var _, applied _ _, he => nomatch he

theorem mapAll_injective (hρ : Function.Injective ρ) :
    ∀ rs ss : List (TypeRef H), mapAll ρ rs = mapAll ρ ss → rs = ss
  | [], [], _ => rfl
  | [], _ :: _, he => nomatch he
  | _ :: _, [], he => nomatch he
  | r :: rs, s :: ss, he => by
    obtain ⟨hr, hrs⟩ := List.cons.inj he
    rw [map_injective hρ r s hr, mapAll_injective hρ rs ss hrs]

end

mutual

theorem map_map {L : Type} (σ : K → L) : ∀ r : TypeRef H, (r.map ρ).map σ = r.map (σ ∘ ρ)
  | plain _ => rfl
  | applied h args => congrArg (applied (σ (ρ h))) (mapAll_mapAll σ args)
  | var _ => rfl

theorem mapAll_mapAll {L : Type} (σ : K → L) :
    ∀ rs : List (TypeRef H), mapAll σ (mapAll ρ rs) = mapAll (σ ∘ ρ) rs
  | [] => rfl
  | r :: rs => by rw [mapAll, mapAll, mapAll, map_map σ r, mapAll_mapAll σ rs]

end

mutual

/-- The handles in a reference, those in its arguments included. -/
def handles : TypeRef H → List H
  | plain h => [h]
  | applied h args => h :: handlesAll args
  | var _ => []

/-- The handles in a list of references. -/
def handlesAll : List (TypeRef H) → List H
  | [] => []
  | r :: rs => r.handles ++ handlesAll rs

end

theorem mem_handlesAll {h : H} {rs : List (TypeRef H)} :
    h ∈ handlesAll rs ↔ ∃ r ∈ rs, h ∈ r.handles := by
  induction rs with
  | nil => simp [handlesAll]
  | cons r rs ih => simp [handlesAll, ih]

mutual

/-- For a reference it only matters what becomes of the handles in it. -/
theorem map_congr {σ : H → K} :
    ∀ r : TypeRef H, (∀ h ∈ r.handles, ρ h = σ h) → r.map ρ = r.map σ
  | plain h, hr => congrArg plain (hr h (List.mem_singleton_self h))
  | applied h args, hr => by
    rw [handles, List.forall_mem_cons] at hr
    rw [map, map, hr.1, mapAll_congr args hr.2]
  | var _, _ => rfl

theorem mapAll_congr {σ : H → K} :
    ∀ rs : List (TypeRef H), (∀ h ∈ handlesAll rs, ρ h = σ h) → mapAll ρ rs = mapAll σ rs
  | [], _ => rfl
  | r :: rs, hrs => by
    rw [handlesAll, List.forall_mem_append] at hrs
    rw [mapAll, mapAll, map_congr r hrs.1, mapAll_congr rs hrs.2]

end

end TypeRef

namespace Target

/-- The type with other handles. -/
def map (ρ : H → K) : Target H → Target K
  | declared h => declared (ρ h)
  | applied h args => applied (ρ h) (args.map (·.map ρ))

/-- The handles in a type, those in its arguments included. -/
def handles : Target H → List H
  | declared h => [h]
  | applied h args => h :: TypeRef.handlesAll args

@[simp] theorem handle_map (t : Target H) : (t.map ρ).handle = ρ t.handle := by
  cases t <;> rfl

/-- Different keys of a guard stay different keys. -/
theorem map_injective (hρ : Function.Injective ρ) : Function.Injective (map ρ) := by
  intro t u he
  have hargs : Function.Injective (List.map (TypeRef.map ρ)) :=
    List.map_injective_iff.2 (TypeRef.map_injective hρ)
  cases t with
  | declared h =>
    cases u with
    | declared k => exact congrArg declared (hρ (Target.declared.inj he))
    | applied k bs => nomatch he
  | applied h as =>
    cases u with
    | declared k => nomatch he
    | applied k bs =>
      obtain ⟨hh, has⟩ := Target.applied.inj he
      rw [hρ hh, hargs has]

end Target

/-- The candidate with other handles. -/
def Candidate.map (ρ : H → K) (c : Candidate H) : Candidate K :=
  ⟨c.role, c.name, c.target.map (·.map ρ), c.remarks⟩

/-- The layer with other handles. -/
def Layer.map (ρ : H → K) (l : Layer H) : Layer K := ⟨l.candidates.map (·.map ρ), l.remarks⟩

/-- The subject with other handles. -/
def Subject.map (ρ : H → K) : Subject H → Subject K
  | type h => type (ρ h)
  | value tag => value tag
  | null => null

namespace Guard

variable {A B : Type}

/-- The guard with other keys. -/
def map (f : A → B) (g : Guard A) : Guard B :=
  ⟨g.limits, g.active.map f, g.depth, g.steps, g.truncated⟩

theorem abandon_map (f : A → B) (g : Guard A) : (g.map f).abandon = g.abandon := by
  simp [abandon, map]

variable [DecidableEq A] [DecidableEq B] {f : A → B}

/-- A guard answers the same, whatever the keys are called. -/
theorem enter_map (hf : Function.Injective f) (g : Guard A) (k : A) :
    (g.map f).enter (f k) = ((g.enter k).1, (g.enter k).2.map f) := by
  have hk : f k ∈ g.active.map f ↔ k ∈ g.active := List.mem_map_of_injective hf
  simp only [enter, map, hk]
  split_ifs <;> rfl

theorem leave_map (hf : Function.Injective f) (g : Guard A) (k : A) :
    (g.map f).leave (f k) = (g.leave k).map (Guard.map f) := by
  have hk : f k ∈ g.active.map f ↔ k ∈ g.active := List.mem_map_of_injective hf
  have herase : (g.active.map f).erase (f k) = (g.active.erase k).map f :=
    (List.map_erase hf g.active).symm
  simp only [leave, map, hk, herase]
  split_ifs <;> rfl

end Guard

/-- The walk with other handles. -/
def Walk.map (ρ : H → K) (w : Walk H) : Walk K := ⟨w.guard.map (·.map ρ), w.log, w.misuse⟩

/-- The lineage with other handles; only the guard has any. -/
def Lineage.map (ρ : H → K) (l : Lineage H) : Lineage K :=
  ⟨l.tree, l.guard.map (·.map ρ), l.events, l.misuse⟩

/-- Two lineages show the same: they are told apart by the handles in their guards only. -/
structure Lineage.Agrees (l : Lineage H) (l' : Lineage K) : Prop where
  tree : l'.tree = l.tree
  steps : l'.steps = l.steps
  truncated : l'.truncated = l.truncated
  events : l'.events = l.events
  misuse : l'.misuse = l.misuse

theorem Lineage.agrees_map (l : Lineage H) : l.Agrees (l.map ρ) := ⟨rfl, rfl, rfl, rfl, rfl⟩

/-- Lineages that show the same as a third one show the same. -/
theorem Lineage.Agrees.of_common {L : Type} {l : Lineage H} {l' : Lineage K} {l'' : Lineage L}
    (h : l.Agrees l'') (h' : l'.Agrees l'') : l.Agrees l' :=
  ⟨h'.tree.symm.trans h.tree, h'.steps.symm.trans h.steps, h'.truncated.symm.trans h.truncated,
    h'.events.symm.trans h.events, h'.misuse.symm.trans h.misuse⟩

theorem Lineage.ofWalk_map (tree : TypeTree) (w : Walk H) :
    Lineage.ofWalk tree (w.map ρ) = (Lineage.ofWalk tree w).map ρ := by
  simp only [ofWalk, map, Walk.map, Guard.abandon_map]
  rfl

/-! ### Oracles that know the same -/

namespace Oracle

/-- The oracle `o'` says of `ρ h` what `o` says of `h`, and finds under a name what `ρ` makes of
what `o` finds; nothing is said of values. -/
structure Renames (o : Oracle H) (o' : Oracle K) (ρ : H → K) : Prop where
  injective : Function.Injective ρ
  canonicalName : ∀ h, o'.canonicalName (ρ h) = o.canonicalName h
  typeParameters : ∀ h, o'.typeParameters (ρ h) = o.typeParameters h
  superType : ∀ h, o'.superType (ρ h) = (o.superType h).map (·.map ρ)
  interfaces : ∀ h, o'.interfaces (ρ h) = (o.interfaces h).map (·.map ρ)
  resolve : ∀ name, o'.resolve name = (o.resolve name).map ρ
  isUniversalTop : ∀ h, o'.isUniversalTop (ρ h) = o.isUniversalTop h
  primitiveKind : ∀ h, o'.primitiveKind (ρ h) = o.primitiveKind h

/-- The renaming commutes with all answers, those about values included. -/
structure RenamesAll (o : Oracle H) (o' : Oracle K) (ρ : H → K) : Prop
    extends Renames o o' ρ where
  runtimeType : ∀ tag, o'.runtimeType tag = (o.runtimeType tag).map ρ

/-- The oracle with other handles. -/
def rename (o : Oracle H) (e : H ≃ K) : Oracle K where
  canonicalName k := o.canonicalName (e.symm k)
  typeParameters k := o.typeParameters (e.symm k)
  superType k := (o.superType (e.symm k)).map (·.map e)
  interfaces k := (o.interfaces (e.symm k)).map (·.map e)
  resolve name := (o.resolve name).map e
  isUniversalTop k := o.isUniversalTop (e.symm k)
  primitiveKind k := o.primitiveKind (e.symm k)
  runtimeType tag := (o.runtimeType tag).map e

theorem renamesAll_rename (o : Oracle H) (e : H ≃ K) : o.RenamesAll (o.rename e) e := by
  refine ⟨⟨e.injective, ?_, ?_, ?_, ?_, ?_, ?_, ?_⟩, ?_⟩ <;> intro x <;> simp [rename]

namespace Renames

variable {o : Oracle H} {o' : Oracle K}

theorem leafName (hr : o.Renames o' ρ) (name : String) : o'.leafName name = o.leafName name := by
  unfold Oracle.leafName
  rw [hr.resolve]
  rcases o.resolve name with _ | h
  · rfl
  · simp only [Option.map_some, hr.isUniversalTop, hr.canonicalName]

theorem leaf (hr : o.Renames o' ρ) (role : Role) (name : String) :
    o'.leaf role name = (o.leaf role name).map ρ := by
  simp only [Oracle.leaf, hr.leafName]
  rfl

theorem reference (hr : o.Renames o' ρ) (role : Role) (r : TypeRef H) :
    o'.reference role (r.map ρ) = (o.reference role r).map ρ := by
  cases r with
  | plain h =>
    simp only [TypeRef.map, Oracle.reference, hr.isUniversalTop, hr.canonicalName, hr.leaf]
    split_ifs <;> rfl
  | applied h args =>
    simp only [TypeRef.map, TypeRef.mapAll_eq_map, Oracle.reference, hr.canonicalName]
    rfl
  | var n => exact hr.leaf role n

theorem references (hr : o.Renames o' ρ) (role : Role) (rs : List (TypeRef H)) :
    (rs.map (·.map ρ)).map (o'.reference role) = (rs.map (o.reference role)).map (·.map ρ) := by
  simp only [List.map_map]
  exact List.map_congr_left fun r _ => hr.reference role r

theorem parameters (hr : o.Renames o' ρ) (t : Target H) :
    o'.parameters (t.map ρ) = (o.parameters t).map (·.map ρ) := by
  cases t with
  | declared h =>
    simp only [Target.map, Oracle.parameters, hr.typeParameters, List.map_map]
    exact List.map_congr_left fun p _ => hr.leaf _ p
  | applied h args => exact hr.references .argument args

theorem ancestor (hr : o.Renames o' ρ) (t : Target H) :
    o'.ancestor (t.map ρ) = (o.ancestor t).map (·.map ρ) := by
  simp only [Oracle.ancestor, Target.handle_map, hr.isUniversalTop, hr.canonicalName]
  split_ifs <;> rfl

theorem superLayer (hr : o.Renames o' ρ) (h : H) :
    o'.superLayer (ρ h) = (o.superLayer h).map ρ := by
  unfold Oracle.superLayer
  rw [hr.superType]
  rcases o.superType h with _ | s | ⟨s, args⟩ | n
  · rfl
  · simp only [Option.map_some, TypeRef.map, Layer.map, ← hr.ancestor]
    rfl
  · simp only [Option.map_some, TypeRef.map, TypeRef.mapAll_eq_map, Layer.map, ← hr.ancestor]
    rfl
  · rfl

/-- **What comes below a type is the same,** but for the handles. -/
theorem layer (hr : o.Renames o' ρ) (t : Target H) : o'.layer (t.map ρ) = (o.layer t).map ρ := by
  simp only [Oracle.layer, Target.handle_map, hr.parameters, hr.interfaces, hr.references,
    hr.superLayer, Layer.map, List.map_append]

/-- The same type takes the place of a primitive type. -/
theorem boxed (hr : o.Renames o' ρ) (h : H) :
    o'.boxed (ρ h) = (ρ (o.boxed h).1, (o.boxed h).2) := by
  unfold Oracle.boxed
  rw [hr.primitiveKind]
  rcases o.primitiveKind h with _ | k
  · rfl
  · dsimp only
    rw [hr.resolve]
    cases o.resolve k.boxedName <;> rfl

end Renames

end Oracle

/-! ### Walks -/

namespace Walk

variable [DecidableEq H] [DecidableEq K] {o : Oracle H} {o' : Oracle K} {f : Filters}
  {grow : Target H → Walk H → TypeTree × Walk H} {grow' : Target K → Walk K → TypeTree × Walk K}

omit [DecidableEq H] [DecidableEq K] in
theorem note_map (w : Walk H) (es : List LineageEvent) :
    (w.map ρ).note es = (w.note es).map ρ := rfl

theorem leave_map (hρ : Function.Injective ρ) (w : Walk H) (t : Target H) :
    (w.map ρ).leave (t.map ρ) = (w.leave t).map ρ := by
  have hleave : (w.map ρ).guard.leave (t.map ρ) = (w.guard.leave t).map (Guard.map (·.map ρ)) :=
    Guard.leave_map (Target.map_injective hρ) w.guard t
  simp only [leave, hleave]
  rcases w.guard.leave t with m | g <;> rfl

omit [DecidableEq H] [DecidableEq K] in
/-- What is put below a type is the same, if this is so for what is expanded. -/
theorem attach_map
    (hgrow : ∀ t w, grow' (t.map ρ) (w.map ρ) = ((grow t w).1, (grow t w).2.map ρ))
    (cs : List (Candidate H)) :
    ∀ w, attach f grow' (cs.map (·.map ρ)) (w.map ρ) =
      ((attach f grow cs w).1, (attach f grow cs w).2.map ρ) := by
  induction cs with
  | nil => exact fun w => rfl
  | cons c cs ih =>
    intro w
    rw [List.map_cons]
    rcases hx : f.excludes c.role.filterKind c.name
    · rcases ht : c.target with _ | t
      · have ht' : (c.map ρ).target = none := congrArg (Option.map _) ht
        rw [attach_leaf hx ht, attach_leaf (c := c.map ρ) hx ht', note_map, ih]
        rfl
      · have ht' : (c.map ρ).target = some (t.map ρ) := congrArg (Option.map _) ht
        rw [attach_target hx ht, attach_target (c := c.map ρ) hx ht', note_map, Candidate.map,
          hgrow]
        dsimp only
        rw [ih]
    · rw [attach_excluded hx, attach_excluded (c := c.map ρ) hx]
      exact ih ((w.note c.remarks).note [c.role.filtered c.name])

theorem expandWith_map (hr : o.Renames o' ρ)
    (hgrow : ∀ t w, grow' (t.map ρ) (w.map ρ) = ((grow t w).1, (grow t w).2.map ρ))
    (t : Target H) (w : Walk H) :
    expandWith o' f grow' (t.map ρ) (w.map ρ) =
      ((expandWith o f grow t w).1, (expandWith o f grow t w).2.map ρ) := by
  -- the guards answer the same, so both walks go on in the same way
  have henter : (w.map ρ).guard.enter (t.map ρ) = _ :=
    Guard.enter_map (Target.map_injective hr.injective) w.guard t
  rcases h : w.guard.enter t with ⟨e, g⟩
  rw [h] at henter
  by_cases he : e = .entered
  · subst he
    have hattach := attach_map (f := f) hgrow (o.layer t).candidates { w with guard := g }
    have hlayer : (o'.layer (t.map ρ)).candidates = (o.layer t).candidates.map (·.map ρ) := by
      rw [hr.layer]
      rfl
    have hremarks : (o'.layer (t.map ρ)).remarks = (o.layer t).remarks := by
      rw [hr.layer]
      rfl
    have hopened : ({ w.map ρ with guard := g.map (·.map ρ) } : Walk K) =
        ({ w with guard := g } : Walk H).map ρ := rfl
    rw [expandWith_entered h, expandWith_entered henter, hlayer, hremarks, Target.handle_map,
      hr.canonicalName, hopened, hattach]
    dsimp only
    rw [note_map, leave_map hr.injective, note_map]
  · rw [expandWith_denied h he, expandWith_denied henter he, Target.handle_map, hr.canonicalName]
    rfl

/-- **An expansion is the same,** but for the handles. -/
theorem expand_map (hr : o.Renames o' ρ) (levels : Nat) :
    ∀ t w, expand o' f levels (t.map ρ) (w.map ρ) =
      ((expand o f levels t w).1, (expand o f levels t w).2.map ρ) := by
  induction levels with
  | zero =>
    refine expandWith_map hr fun t w => ?_
    rw [Target.handle_map, hr.canonicalName]
  | succ levels ih => exact expandWith_map hr ih

end Walk

/-! ### Lineages -/

namespace Oracle

variable [DecidableEq H] [DecidableEq K] {o : Oracle H} {o' : Oracle K}

/-- **The lineage of a type is the same,** but for the handles. -/
theorem Renames.lineageOfType (hr : o.Renames o' ρ) (f : Filters) (limits : Limits) (h : H) :
    o'.lineageOfType f limits (ρ h) = (o.lineageOfType f limits h).map ρ := by
  let w : Walk H := (Walk.new limits).note (o.boxed h).2
  have hexpand := Walk.expand_map (f := f) hr limits.maxDepth.toNat (.declared (o.boxed h).1) w
  simp only [Oracle.lineageOfType, hr.boxed]
  exact (congrArg (fun r => Lineage.ofWalk r.1 r.2) hexpand).trans (Lineage.ofWalk_map _ _)

theorem RenamesAll.lineage (hr : o.RenamesAll o' ρ) (f : Filters) (limits : Limits)
    (s : Subject H) : o'.lineage f limits (s.map ρ) = (o.lineage f limits s).map ρ := by
  cases s with
  | type h => exact hr.lineageOfType f limits h
  | null => exact Lineage.ofWalk_map .null (Walk.new limits)
  | value tag =>
    simp only [Subject.map, Oracle.lineage, hr.runtimeType]
    rcases o.runtimeType tag with _ | h
    · exact Lineage.ofWalk_map .top ((Walk.new limits : Walk H).note [.valueUnknown])
    · exact hr.lineageOfType f limits h

theorem Renames.agrees (hr : o.Renames o' ρ) (f : Filters) (limits : Limits) (h : H) :
    (o.lineage f limits (.type h)).Agrees (o'.lineage f limits (.type (ρ h))) := by
  have hlineage : o'.lineage f limits (.type (ρ h)) = _ := hr.lineageOfType f limits h
  rw [hlineage]
  exact Lineage.agrees_map _

theorem RenamesAll.agrees (hr : o.RenamesAll o' ρ) (f : Filters) (limits : Limits)
    (s : Subject H) : (o.lineage f limits s).Agrees (o'.lineage f limits (s.map ρ)) := by
  rw [hr.lineage]
  exact Lineage.agrees_map _

end Oracle

end TypeAncestry
