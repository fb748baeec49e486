import TypeAncestry.Log
import TypeAncestry.Oracle
import TypeAncestry.OrderedMap
import TypeAncestry.Registry.Definition

/-!
# Registries of types

A registry holds definitions of types under handles that it gives out itself.  The latest definition
with a name is the one that the name leads to.

* `Registry` : the registries.
* `Registry.register`, `Registry.setSuperType`, `Registry.addInterface`, `Registry.bind` : add a
  definition, change one, and say what type values have.
* `Registry.oracle` : what a registry knows.
-/

namespace TypeAncestry

/-- A registry of types. -/
structure Registry where
  /-- The definitions by their handles. -/
  definitions : OrderedMap Handle TypeDef
  /-- The latest handle for each name, in the order in which the names were first registered. -/
  names : OrderedMap String Handle
  /-- The types of values. -/
  values : OrderedMap ValueTag Handle
  /-- The handle that is given out next. -/
  next : Handle
  deriving Repr

namespace Registry

/-- The registry without definitions. -/
def empty : Registry := ⟨.empty, .empty, .empty, .first⟩

/-- Add a definition; its handle is the next one. -/
def register (r : Registry) (d : TypeDef) : Handle × Registry :=
  (r.next,
    { r with
      definitions := r.definitions.insert r.next d
      names := r.names.insert d.name r.next
      next := r.next.next })

/-- The log record of adding the definition `d` under the handle `h`. -/
def registered (h : Handle) (d : TypeDef) : LogRecord :=
  ⟨.trace, "registry", "TypeRegistry::register",
    [("def_id", toString h.index.toNat), ("kind", d.kind.label), ("name", d.name)]⟩

/-- The definition under a handle. -/
def get? (r : Registry) (h : Handle) : Option TypeDef := r.definitions.get? h

/-- There is a definition under a handle. -/
def contains (r : Registry) (h : Handle) : Bool := (r.get? h).isSome

/-- The handle of the latest definition with a name. -/
def lookup (r : Registry) (name : String) : Option Handle := r.names.get? name

/-- The number of definitions. -/
def size (r : Registry) : Nat := r.definitions.size

/-- Change the definition under a handle; the registry stays as it is if there is none. -/
def modify (r : Registry) (h : Handle) (f : TypeDef → TypeDef) : Bool × Registry :=
  match r.definitions.adjust h f with
  | some definitions => (true, { r with definitions := definitions })
  | none => (false, r)

/-- Give the type under a handle another super-type. -/
def setSuperType (r : Registry) (h : Handle) (ref : TypeRef Handle) : Bool × Registry :=
  r.modify h (·.extending ref)

/-- Give the type under a handle one more interface. -/
def addInterface (r : Registry) (h : Handle) (ref : TypeRef Handle) : Bool × Registry :=
  r.modify h (·.implementing ref)

/-- Say what type the values with a tag have. -/
def bind (r : Registry) (tag : ValueTag) (h : Handle) : Registry :=
  { r with values := r.values.insert tag h }

/-- What a registry knows.  A handle without a definition is that of a type that is not known. -/
def oracle (r : Registry) : Oracle Handle where
  canonicalName h := ((r.get? h).map (·.name)).getD Name.top
  typeParameters h := ((r.get? h).map (·.typeParameters)).getD []
  superType h := (r.get? h).bind (·.superType)
  interfaces h := ((r.get? h).map (·.interfaces)).getD []
  resolve := r.lookup
  isUniversalTop h := (r.get? h).any (·.isTop)
  primitiveKind h := (r.get? h).bind (·.primitive?)
  runtimeType := r.values.get?

end Registry

end TypeAncestry
