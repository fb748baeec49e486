import TypeAncestry.Primitive
import TypeAncestry.TypeRef

/-!
# Definitions of types

* `Handle` : handles of registered types; they are given out in order, from one on.
* `TypeKind` : classes, interfaces and primitive types.
* `TypeDef` : the definition of a type.
-/

namespace TypeAncestry

/-- The handle of a registered type. -/
structure Handle where
  /-- Its number. -/
  index : UInt32
  deriving DecidableEq, Repr

namespace Handle

/-- A handle that is never given out first. -/
def invalid : Handle := ⟨0⟩

/-- The first handle that is given out. -/
def first : Handle := ⟨1⟩

/-- The handle behind this one; behind the greatest 32-bit number comes zero. -/
def next (h : Handle) : Handle := ⟨h.index + 1⟩

/-- The handle is not the invalid one. -/
def isValid (h : Handle) : Bool := 1 ≤ h.index

/-- A handle as it is shown in reports. -/
def describe (h : Handle) : String := "TypeDefId(" ++ toString h.index.toNat ++ ")"

end Handle

/-- A subject as it is shown in reports. -/
def Subject.describe : Subject Handle → String
  | type h => "Type(" ++ h.describe ++ ")"
  | value _ => "Value"
  | null => "Null"

/-- The kinds of types. -/
inductive TypeKind where
  | class_
  | interface
  | primitive (p : Primitive)
  deriving DecidableEq, Repr

/-- The name of a kind in log records. -/
def TypeKind.label : TypeKind → String
  | class_ => "Class"
  | interface => "Interface"
  | primitive p => "Primitive(" ++ p.label ++ ")"

/-- The definition of a type. -/
structure TypeDef where
  /-- Its kind. -/
  kind : TypeKind
  /-- Its name. -/
  name : String
  /-- The names of its type parameters. -/
  typeParameters : List String
  /-- Its super-type. -/
  superType : Option (TypeRef Handle)
  /-- Its interfaces. -/
  interfaces : List (TypeRef Handle)
  /-- It is the type that all others descend from. -/
  isTop : Bool
  deriving DecidableEq, Repr

namespace TypeDef

/-- A class without a lineage. -/
def class_ (name : String) : TypeDef := ⟨.class_, name, [], none, [], false⟩

/-- An interface without a lineage. -/
def interface (name : String) : TypeDef := ⟨.interface, name, [], none, [], false⟩

/-- A primitive type. -/
def primitive (p : Primitive) : TypeDef := ⟨.primitive p, p.name, [], none, [], false⟩

/-- The primitive type that a definition is about. -/
def primitive? (d : TypeDef) : Option Primitive :=
  match d.kind with
  | .primitive p => some p
  | _ => none

/-- The definition with another super-type. -/
def extending (d : TypeDef) (r : TypeRef Handle) : TypeDef := { d with superType := some r }

/-- The definition with one more interface. -/
def implementing (d : TypeDef) (r : TypeRef Handle) : TypeDef :=
  { d with interfaces := d.interfaces ++ [r] }

end TypeDef

end TypeAncestry
