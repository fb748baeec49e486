import TypeAncestry.Primitive
import TypeAncestry.TypeRef

/-!
# Oracles

All that is known about types comes from an oracle.  It is asked about handles, whose nature is its
own affair.

* `Oracle` : the questions.
* `Oracle.bare` : an oracle that keeps two of the answers to itself.
-/

namespace TypeAncestry

/-- A source of knowledge about types with handles in `H`. -/
structure Oracle (H : Type) where
  /-- The name of a type. -/
  canonicalName : H → String
  /-- The names of the type parameters that a type declares. -/
  typeParameters : H → List String
  /-- The super-type of a type. -/
  superType : H → Option (TypeRef H)
  /-- The interfaces of a type. -/
  interfaces : H → List (TypeRef H)
  /-- The type with a given name. -/
  resolve : String → Option H
  /-- The type is the one that all others descend from. -/
  isUniversalTop : H → Bool
  /-- The primitive type that a type is. -/
  primitiveKind : H → Option Primitive
  /-- The type of a value. -/
  runtimeType : ValueTag → Option H

/-- An oracle that knows neither primitive types nor the types of values. -/
def Oracle.bare {H : Type} (o : Oracle H) : Oracle H :=
  { o with primitiveKind := fun _ => none, runtimeType := fun _ => none }

end TypeAncestry
