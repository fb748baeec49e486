import TypeAncestry.Lineage.Walk

/-!
# Unfolding without a guard

The lineage of a type can be described without any guard: a type unfolds into the tree in which its
declared parameters or its arguments, its interfaces and its super-type stand below it, unfolded in
turn.  The description may have no end, so it is given as a relation, whose derivations are finite.

* `Oracle.Unfolds` : a type unfolds into a tree, in so many expansions and so deeply nested.
* `Oracle.Unfolds.unique` : the tree and the two numbers are determined by the type.
-/

namespace TypeAncestry

/-- What a reference names that can be expanded; a type variable names nothing. -/
def TypeRef.target? {H : Type} : TypeRef H → Option (Target H)
  | .plain h => some (.declared h)
  | .applied h args => some (.applied h args)
  | .var _ => none

/-- The reference is to a type with arguments. -/
def TypeRef.isApplied {H : Type} : TypeRef H → Bool
  | .applied _ _ => true
  | _ => false

namespace Oracle

variable {H : Type} (o : Oracle H) (f : Filters)

/-- The name that a name leads to: `?` if it is a placeholder, if no type has it, or if it is that
of the universal top. -/
def resolvedName (name : String) : String :=
  if Name.isPlaceholder name then Name.top
  else
    match o.resolve name with
    | some h => if o.isUniversalTop h then Name.top else o.canonicalName h
    | none => Name.top

/-- The name under which a reference stands below a type as an argument or an interface. -/
def shownName : TypeRef H → String
  | .applied h _ => o.canonicalName h
  | .plain h => if o.isUniversalTop h then Name.top else o.resolvedName (o.canonicalName h)
  | .var n => o.resolvedName n

/-- The leaves of the declared parameters of a type. -/
def parameterLeaves (h : H) : List TypeTree :=
  (((o.typeParameters h).map o.resolvedName).filter fun n => !f.excludes .parameter n).map .leaf

mutual

/-- `o.Unfolds f t tree n d` : the type `t` unfolds into `tree`, in `n` expansions of which no more
than `d` are nested.  There is no guard; the filters are asked about everything below `t`. -/
inductive Unfolds : Target H → TypeTree → Nat → Nat → Prop where
  /-- A type as it is declared: its parameters, its interfaces, its super-type. -/
  | declared {h : H} {is ss : List TypeTree} {n d m e : Nat} :
      UnfoldsAll .interface (o.interfaces h) is n d → UnfoldsSuper (o.superType h) ss m e →
      Unfolds (.declared h) (.node (o.canonicalName h) (o.parameterLeaves f h ++ is ++ ss))
        (1 + (n + m)) (1 + max d e)
  /-- An applied type: its arguments, its interfaces, its super-type. -/
  | applied {h : H} {args : List (TypeRef H)} {as is ss : List TypeTree} {k c n d m e : Nat} :
      UnfoldsAll .argument args as k c → UnfoldsAll .interface (o.interfaces h) is n d →
      UnfoldsSuper (o.superType h) ss m e →
      Unfolds (.applied h args) (.node (o.canonicalName h) (as ++ is ++ ss))
        (1 + (k + n + m)) (1 + max (max c d) e)

/-- The references in a list, which are asked about with the filter of the given kind, unfold into
trees. -/
inductive UnfoldsAll : FilterKind → List (TypeRef H) → List TypeTree → Nat → Nat → Prop where
  | nil {kind : FilterKind} : UnfoldsAll kind [] [] 0 0
  /-- What the filter keeps out is left out. -/
  | excluded {kind : FilterKind} {r : TypeRef H} {rs : List (TypeRef H)} {ts : List TypeTree}
      {n d : Nat} :
      f.excludes kind (o.shownName r) = true → UnfoldsAll kind rs ts n d →
      UnfoldsAll kind (r :: rs) ts n d
  /-- A reference without arguments is a leaf. -/
  | leaf {kind : FilterKind} {r : TypeRef H} {rs : List (TypeRef H)} {ts : List TypeTree}
      {n d : Nat} :
      f.excludes kind (o.shownName r) = false → r.isApplied = false → UnfoldsAll kind rs ts n d →
      UnfoldsAll kind (r :: rs) (.leaf (o.shownName r) :: ts) n d
  /-- An applied type is unfolded. -/
  | applied {kind : FilterKind} {h : H} {args rs : List (TypeRef H)} {t : TypeTree}
      {ts : List TypeTree} {n d m e : Nat} :
      f.excludes kind (o.canonicalName h) = false → Unfolds (.applied h args) t n d →
      UnfoldsAll kind rs ts m e →
      UnfoldsAll kind (.applied h args :: rs) (t :: ts) (n + m) (max d e)

/-- A super-type unfolds into a tree, or into nothing. -/
inductive UnfoldsSuper : Option (TypeRef H) → List TypeTree → Nat → Nat → Prop where
  | absent : UnfoldsSuper none [] 0 0
  /-- A type variable is left out. -/
  | typeVariable {r : TypeRef H} : r.target? = none → UnfoldsSuper (some r) [] 0 0
  /-- The universal top is left out. -/
  | top {r : TypeRef H} {t : Target H} :
      r.target? = some t → o.isUniversalTop t.handle = true → UnfoldsSuper (some r) [] 0 0
  /-- What the filter keeps out is left out. -/
  | excluded {r : TypeRef H} {t : Target H} :
      r.target? = some t → o.isUniversalTop t.handle = false →
      f.excludes .superType (o.canonicalName t.handle) = true → UnfoldsSuper (some r) [] 0 0
  /-- Any other super-type is unfolded. -/
  | unfolded {r : TypeRef H} {t : Target H} {tree : TypeTree} {n d : Nat} :
      r.target? = some t → o.isUniversalTop t.handle = false →
      f.excludes .superType (o.canonicalName t.handle) = false → Unfolds t tree n d →
      UnfoldsSuper (some r) [tree] n d

end

variable {o f}

mutual

/-- **A type unfolds in one way only.** -/
theorem Unfolds.unique {t : Target H} {tree tree' : TypeTree} {n n' d d' : Nat} :
    o.Unfolds f t tree n d → o.Unfolds f t tree' n' d' → tree = tree' ∧ n = n' ∧ d = d'
  | .declared hi hs, h => by
    cases h with
    | declared hi' hs' =>
      obtain ⟨rfl, rfl, rfl⟩ := hi.unique hi'
      obtain ⟨rfl, rfl, rfl⟩ := hs.unique hs'
      exact ⟨rfl, rfl, rfl⟩
  | .applied ha hi hs, h => by
    cases h with
    | applied ha' hi' hs' =>
      obtain ⟨rfl, rfl, rfl⟩ := ha.unique ha'
      obtain ⟨rfl, rfl, rfl⟩ := hi.unique hi'
      obtain ⟨rfl, rfl, rfl⟩ := hs.unique hs'
      exact ⟨rfl, rfl, rfl⟩

theorem UnfoldsAll.unique {kind : FilterKind} {rs : List (TypeRef H)} {ts ts' : List TypeTree}
    {n n' d d' : Nat} :
    o.UnfoldsAll f kind rs ts n d → o.UnfoldsAll f kind rs ts' n' d' →
      ts = ts' ∧ n = n' ∧ d = d'
  | .nil, h => by
    cases h
    exact ⟨rfl, rfl, rfl⟩
  | .excluded hx hr, h => by
    cases h with
    | excluded _ hr' => exact hr.unique hr'
    | leaf hx' => rw [hx] at hx'; cases hx'
    | applied hx' => rw [shownName, hx'] at hx; cases hx
  | .leaf hx hl hr, h => by
    cases h with
    | excluded hx' => rw [hx] at hx'; cases hx'
    | leaf _ _ hr' =>
      obtain ⟨rfl, rfl, rfl⟩ := hr.unique hr'
      exact ⟨rfl, rfl, rfl⟩
    | applied => simp [TypeRef.isApplied] at hl
  | .applied hx ht hr, h => by
    cases h with
    | excluded hx' => rw [shownName, hx] at hx'; cases hx'
    | leaf _ hl => simp [TypeRef.isApplied] at hl
    | applied _ ht' hr' =>
      obtain ⟨rfl, rfl, rfl⟩ := ht.unique ht'
      obtain ⟨rfl, rfl, rfl⟩ := hr.unique hr'
      exact ⟨rfl, rfl, rfl⟩

theorem UnfoldsSuper.unique {r : Option (TypeRef H)} {ts ts' : List TypeTree}
    {n n' d d' : Nat} :
    o.UnfoldsSuper f r ts n d → o.UnfoldsSuper f r ts' n' d' → ts = ts' ∧ n = n' ∧ d = d'
  | .absent, h => by
    cases h
    exact ⟨rfl, rfl, rfl⟩
  | .typeVariable hr, h => by
    cases h with
    | typeVariable => exact ⟨rfl, rfl, rfl⟩
    | top hr' | excluded hr' | unfolded hr' => rw [hr] at hr'; cases hr'
  | .top hr ht, h => by
    cases h with
    | typeVariable | top | excluded => exact ⟨rfl, rfl, rfl⟩
    | unfolded hr' ht' => grind
  | .excluded hr ht hx, h => by
    cases h with
    | typeVariable | top | excluded => exact ⟨rfl, rfl, rfl⟩
    | unfolded hr' _ hx' => grind
  | .unfolded hr ht hx hu, h => by
    cases h with
    | typeVariable hr' => rw [hr] at hr'; cases hr'
    | top hr' ht' => grind
    | excluded hr' _ hx' => grind
    | unfolded hr' _ _ hu' =>
      rw [hr] at hr'
      obtain rfl := Option.some.inj hr'
      obtain ⟨rfl, rfl, rfl⟩ := hu.unique hu'
      exact ⟨rfl, rfl, rfl⟩

end

end Oracle

end TypeAncestry
