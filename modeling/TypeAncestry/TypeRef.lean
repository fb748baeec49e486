/-!
# References to types

* `TypeRef` : a reference to a type, which may be applied to arguments.
* `ValueTag` : the type of a value at run time.
* `Subject` : what a lineage is asked for.
-/

namespace TypeAncestry

/-- A reference to a type; types are known by handles in `H`. -/
inductive TypeRef (H : Type) where
  /-- A type without arguments. -/
  | plain (handle : H)
  /-- A type applied to arguments. -/
  | applied (raw : H) (args : List (TypeRef H))
  /-- A type variable. -/
  | var (name : String)
  deriving Repr

namespace TypeRef

variable {H : Type} [DecidableEq H]

mutual

/-- Equality of references is decided part by part. -/
def decEq : (r s : TypeRef H) → Decidable (r = s)
  | .plain h, .plain k =>
    if e : h = k then isTrue (by rw [e]) else isFalse (fun c => e (TypeRef.plain.inj c))
  | .var n, .var m =>
    if e : n = m then isTrue (by rw [e]) else isFalse (fun c => e (TypeRef.var.inj c))
  | .applied h as, .applied k bs =>
    if e : h = k then
      match decEqAll as bs with
      | isTrue ea => isTrue (by rw [e, ea])
      | isFalse ea => isFalse (fun c => ea (TypeRef.applied.inj c).2)
    else isFalse (fun c => e (TypeRef.applied.inj c).1)
  | .plain _, .var _ => isFalse (fun c => nomatch c)
  | .plain _, .applied _ _ => isFalse (fun c => nomatch c)
  | .var _, .plain _ => isFalse (fun c => nomatch c)
  | .var _, .applied _ _ => isFalse (fun c => nomatch c)
  | .applied _ _, .plain _ => isFalse (fun c => nomatch c)
  | .applied _ _, .var _ => isFalse (fun c => nomatch c)

/-- Equality of lists of references is decided reference by reference. -/
def decEqAll : (rs ss : List (TypeRef H)) → Decidable (rs = ss)
  | [], [] => isTrue rfl
  | [], _ :: _ => isFalse (fun c => nomatch c)
  | _ :: _, [] => isFalse (fun c => nomatch c)
  | r :: rs, s :: ss =>
    match decEq r s with
    | isTrue e =>
      match decEqAll rs ss with
      | isTrue es => isTrue (by rw [e, es])
      | isFalse es => isFalse (fun c => es (List.cons.inj c).2)
    | isFalse e => isFalse (fun c => e (List.cons.inj c).1)

end

instance : DecidableEq (TypeRef H) := decEq

end TypeRef

/-- The type of a value at run time. -/
inductive ValueTag where
  | byte
  | short
  | int
  | long
  | float
  | double
  | boolean
  | char
  /-- A text that owns its characters. -/
  | ownedText
  /-- A text that is borrowed from elsewhere. -/
  | borrowedText
  /-- Any other type, by its name. -/
  | other (name : String)
  deriving DecidableEq, Repr

/-- What a lineage is asked for. -/
inductive Subject (H : Type) where
  /-- A type. -/
  | type (handle : H)
  /-- The type of a value at run time. -/
  | value (tag : ValueTag)
  /-- The type of an absent value. -/
  | null
  deriving Repr

/-- A type that may be missing. -/
def Subject.ofOption {H : Type} : Option H → Subject H
  | some h => type h
  | none => null

end TypeAncestry
