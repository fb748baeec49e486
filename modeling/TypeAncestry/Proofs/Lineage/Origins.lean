import TypeAncestry.Proofs.Lineage.Following
import TypeAncestry.Proofs.Lineage.Transparency

/-!
# What the nodes of a lineage stem from

Whatever stands below a type stems from something that the oracle says of the type: a name of a
declared parameter, a reference among the arguments or the interfaces, the super-type.  The walk
makes a candidate of each, and asks the oracle for no more than that.

* `Origin` : what a node can stem from.
* `Oracle.origins`, `Oracle.candidate` : what stands below a type stems from, and what becomes of
  it; `Oracle.layer_candidates` puts them together.
* `Origin.spelling?` : the name that a parameter or a type variable is written with.
* `Course.origin?` : what a node of the tree stems from.
-/

namespace TypeAncestry

/-- What a node below a type stems from. -/
inductive Origin (H : Type) where
  /-- A declared type parameter. -/
  | parameter (spelling : String)
  /-- An argument. -/
  | argument (ref : TypeRef H)
  /-- An interface. -/
  | interface (ref : TypeRef H)
  /-- The super-type. -/
  | superType (t : Target H)

namespace Origin

variable {H : Type}

/-- The name that a declared parameter, or a type variable among the arguments or the interfaces, is
written with. -/
def spelling? : Origin H → Option String
  | parameter p => some p
  | argument (.var v) => some v
  | interface (.var v) => some v
  | _ => none

end Origin

namespace Oracle

variable {H : Type} (o : Oracle H)

/-- The candidate that stems from an origin. -/
def candidate : Origin H → Candidate H
  | .parameter p => o.leaf (.parameter p) p
  | .argument r => o.reference .argument r
  | .interface r => o.reference .interface r
  | .superType t => ⟨.superType, o.canonicalName t.handle, some t, []⟩

/-- The parameters that a type declares, or the arguments that it is applied to. -/
def parameterOrigins : Target H → List (Origin H)
  | .declared h => (o.typeParameters h).map .parameter
  | .applied _ args => args.map .argument

/-- The super-type of a type, unless it is a type variable or the universal top. -/
def superOrigins (h : H) : List (Origin H) :=
  (((o.superType h).bind TypeRef.target?).toList.filter
    fun t => !o.isUniversalTop t.handle).map .superType

/-- What stands below a type stems from, in the order of the children. -/
def origins (t : Target H) : List (Origin H) :=
  o.parameterOrigins t ++ (o.interfaces t.handle).map .interface ++ o.superOrigins t.handle

theorem parameters_eq_map (t : Target H) :
    o.parameters t = (o.parameterOrigins t).map o.candidate := by
  cases t with
  | declared h => simp [parameters, parameterOrigins, candidate]
  | applied h args => simp [parameters, parameterOrigins, candidate]

theorem ancestors_eq_map (h : H) :
    o.ancestors (o.superType h) = (o.superOrigins h).map o.candidate := by
  rw [superOrigins]
  rcases o.superType h with _ | r
  · rfl
  · rcases ht : r.target? with _ | t
    · rw [ancestors_of_target_none ht]
      simp [ht]
    · rcases htop : o.isUniversalTop t.handle
      · rw [ancestors_of_target ht htop]
        simp [ht, htop, candidate]
      · rw [ancestors_of_top ht htop]
        simp [ht, htop]

/-- **The candidates below a type are those that stem from its origins.** -/
theorem layer_candidates (t : Target H) :
    (o.layer t).candidates = (o.origins t).map o.candidate := by
  simp only [layer, origins, superLayer_candidates, parameters_eq_map, ancestors_eq_map,
    List.map_append, List.map_map]
  rfl

end Oracle

/-! ### Origins in a tree -/

namespace Course

variable {H : Type} (o : Oracle H)

/-- What the nodes right below the root stem from. -/
def origins : Course H → List (Origin H)
  | leaf _ => []
  | attempt a _ => o.origins a.target

/-- What the node at a position stems from; the root stems from nothing. -/
def origin? : Course H → Position → Option (Origin H)
  | _, [] => none
  | x, [i] => (x.origins o)[i]?
  | x, i :: p => x.children[i]?.bind fun y => y.origin? p

/-- The node at a position stems from a declared parameter or a type variable that is spelled
`n`. -/
def isSpelled (n : String) (x : Course H) (p : Position) : Bool :=
  ((x.origin? o p).bind (·.spelling?)) == some n

/-- The same for positions in a list of trees, whose roots stem from `gs` and whose courses are
`xs`. -/
def isSpelledBelow (n : String) (gs : List (Origin H)) (xs : List (Course H)) (i : Nat) :
    Position → Bool
  | [] => gs[i]?.bind (·.spelling?) == some n
  | j :: p => xs[i]?.any fun y => y.isSpelled o n (j :: p)

variable {o} {n : String}

theorem isSpelled_nil (x : Course H) : x.isSpelled o n [] = false := by
  cases x <;> rfl

/-- The first tree of a list is spelled where it is itself, or where its root stems from the
name. -/
theorem isSpelledBelow_zero (g : Origin H) (gs : List (Origin H)) (x : Course H)
    (xs : List (Course H)) :
    isSpelledBelow o n (g :: gs) (x :: xs) 0 =
      fun p => if p = [] then g.spelling? == some n else x.isSpelled o n p := by
  funext p
  cases p with
  | nil => rfl
  | cons j p => exact (if_neg (List.cons_ne_nil j p)).symm

theorem isSpelledBelow_succ (g : Origin H) (gs : List (Origin H)) (x : Course H)
    (xs : List (Course H)) (i : Nat) :
    isSpelledBelow o n (g :: gs) (x :: xs) (i + 1) = isSpelledBelow o n gs xs i := by
  funext p
  cases p <;> rfl

theorem isSpelled_attempt (a : Attempt H) (xs : List (Course H)) (i : Nat) (p : Position) :
    (attempt a xs).isSpelled o n (i :: p) = isSpelledBelow o n (o.origins a.target) xs i p := by
  cases p with
  | nil => rfl
  | cons j p =>
    rw [isSpelled, origin?, isSpelledBelow, children]
    · cases xs[i]? <;> rfl
    · exact List.cons_ne_nil j p

end Course

end TypeAncestry
