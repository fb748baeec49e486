import TypeAncestry.Registry.Basic

/-!
# The core types

* `Registry.core` : a registry with the types that most lineages lead to.
-/

namespace TypeAncestry

namespace Registry

/-- Add the classes of boxed values with the given names.  Each can be compared with its like. -/
def addBoxes (comparable : Handle) (define : String → TypeDef) (r : Registry) :
    List String → Registry
  | [] => r
  | name :: rest =>
    let (h, r) := r.register (define name)
    let (_, r) := r.addInterface h (.applied comparable [.plain h])
    addBoxes comparable define r rest

/-- Add definitions without looking at their handles. -/
def addAll (r : Registry) (ds : List TypeDef) : Registry :=
  ds.foldl (fun r d => (r.register d).2) r

/-- Say of values that they have the types with the given names. -/
def bindAll (r : Registry) (bindings : List (ValueTag × String)) : Registry :=
  bindings.foldl (fun r b => match r.lookup b.2 with
    | some h => r.bind b.1 h
    | none => r) r

/-- A registry with the core types. -/
def core : Registry :=
  let e : TypeRef Handle := .var "E"
  let (object, r) := empty.register { TypeDef.class_ "java.lang.Object" with isTop := true }
  let (serializable, r) := r.register (.interface "java.io.Serializable")
  let (cloneable, r) := r.register (.interface "java.lang.Cloneable")
  let (randomAccess, r) := r.register (.interface "java.util.RandomAccess")
  let (charSequence, r) := r.register (.interface "java.lang.CharSequence")
  let (comparable, r) :=
    r.register { TypeDef.interface "java.lang.Comparable" with typeParameters := ["T"] }
  let (iterable, r) :=
    r.register { TypeDef.interface "java.lang.Iterable" with typeParameters := ["T"] }
  let (collection, r) := r.register
    { TypeDef.interface "java.util.Collection" with
      typeParameters := ["E"]
      interfaces := [.applied iterable [e]] }
  let (list, r) := r.register
    { TypeDef.interface "java.util.List" with
      typeParameters := ["E"]
      interfaces := [.applied collection [e]] }
  let (_, r) := r.register
    { TypeDef.interface "java.util.function.Function" with typeParameters := ["T", "R"] }
  let serialized (name : String) : TypeDef :=
    { TypeDef.class_ name with
      superType := some (.plain object)
      interfaces := [.plain serializable] }
  let (number, r) := r.register (serialized "java.lang.Number")
  let r := addBoxes comparable (fun name => (TypeDef.class_ name).extending (.plain number)) r
    ["java.lang.Integer", "java.lang.Long", "java.lang.Short", "java.lang.Byte",
      "java.lang.Float", "java.lang.Double"]
  let r := addBoxes comparable serialized r ["java.lang.Boolean", "java.lang.Character"]
  let (string, r) := r.register (serialized "java.lang.String")
  let (_, r) := r.addInterface string (.applied comparable [.plain string])
  let (_, r) := r.addInterface string (.plain charSequence)
  let (_, r) := r.register ((TypeDef.class_ "java.lang.Void").extending (.plain object))
  let (_, r) := r.register (.class_ Name.null)
  let (abstractCollection, r) := r.register
    { TypeDef.class_ "java.util.AbstractCollection" with
      typeParameters := ["E"]
      superType := some (.plain object)
      interfaces := [.applied collection [e]] }
  let (abstractList, r) := r.register
    { TypeDef.class_ "java.util.AbstractList" with
      typeParameters := ["E"]
      superType := some (.applied abstractCollection [e])
      interfaces := [.applied list [e]] }
  let (_, r) := r.register
    { TypeDef.class_ "java.util.ArrayList" with
      typeParameters := ["E"]
      superType := some (.applied abstractList [e])
      interfaces :=
        [.applied list [e], .plain randomAccess, .plain cloneable, .plain serializable] }
  let (_, r) := r.register
    { serialized "java.util.concurrent.atomic.AtomicReference" with typeParameters := ["V"] }
  let r := addAll r ((Primitive.all.filter (· != .null)).map .primitive)
  bindAll r
    [(.int, "java.lang.Integer"), (.long, "java.lang.Long"), (.short, "java.lang.Short"),
      (.byte, "java.lang.Byte"), (.float, "java.lang.Float"), (.double, "java.lang.Double"),
      (.boolean, "java.lang.Boolean"), (.char, "java.lang.Character"),
      (.ownedText, "java.lang.String"), (.borrowedText, "java.lang.String")]

end Registry

end TypeAncestry
