import TypeAncestry.Guard
import TypeAncestry.Log
import TypeAncestry.Primitive
import TypeAncestry.Text.Quoted

/-!
# What happens while a lineage is built

* `LineageEvent` : the events.
* `LineageEvent.record?` : the log record of an event, if it has one.
-/

namespace TypeAncestry

/-- What happens while a lineage is built. -/
inductive LineageEvent where
  /-- The oracle is asked for the type with this name. -/
  | asked (name : String)
  /-- A boxed type takes the place of a primitive type. -/
  | boxed (kind : Primitive)
  /-- The boxed type of a primitive type is not known. -/
  | boxUnknown (kind : Primitive)
  /-- The type of a value is not known. -/
  | valueUnknown
  /-- A declared type parameter is kept out. -/
  | parameterFiltered (parameter resolved : String)
  /-- A type argument is kept out. -/
  | argumentFiltered (name : String)
  /-- An interface is kept out. -/
  | interfaceFiltered (name : String)
  /-- A super-type is kept out. -/
  | superTypeFiltered (name : String)
  /-- A super-type is passed over, as it is a type variable. -/
  | superTypeVariable (name : String)
  /-- There is no type with this name. -/
  | unresolved (name : String)
  /-- A type is expanded. -/
  | built (name : String) (children : Nat)
  /-- The guard does not allow a type to be expanded. -/
  | cutOff (name : String) (denied : Entry) (depth : Nat)
  /-- The tree is complete. -/
  | finished (root : String) (nodes depth steps : Nat) (truncated : Bool)
  deriving DecidableEq, Repr

/-- The log record of an event.  Asking the oracle is not recorded here: what is worth a record is
up to the oracle. -/
def LineageEvent.record? : LineageEvent → Option LogRecord
  | asked _ => none
  | boxed k =>
    some ⟨.trace, "parser", "boxing primitive", [("boxed", k.boxedName), ("kind", k.name)]⟩
  | boxUnknown k =>
    some ⟨.debug, "parser", "boxed type not known to oracle; keeping primitive",
      [("kind", k.name)]⟩
  | valueUnknown => some ⟨.debug, "parser", "runtime type unknown to oracle", []⟩
  | parameterFiltered p r =>
    some ⟨.trace, "parser", "class param filtered", [("param", p), ("resolved", r)]⟩
  | argumentFiltered n => some ⟨.trace, "parser", "interface param filtered", [("name", n)]⟩
  | interfaceFiltered n => some ⟨.trace, "parser", "interface filtered", [("name", n)]⟩
  | superTypeFiltered n => some ⟨.trace, "parser", "super-type filtered", [("name", n)]⟩
  | superTypeVariable n =>
    some ⟨.debug, "parser", "super-type is a type variable; skipping",
      [("super_type", "Variable(" ++ Text.quoted n ++ ")")]⟩
  | unresolved n =>
    some ⟨.debug, "parser", "name did not resolve; using wildcard", [("name", n)]⟩
  | built n c =>
    some ⟨.trace, "parser", "node built", [("children", toString c), ("name", n)]⟩
  | cutOff n e d =>
    some ⟨.debug, "parser", "hierarchy walk cut off",
      [("denied", e.label), ("depth", toString d), ("name", n)]⟩
  | finished r n d s t =>
    some ⟨.debug, "parser", "lineage tree built",
      [("depth", toString d), ("nodes", toString n), ("root", r), ("steps", toString s),
        ("truncated", LogRecord.flag t)]⟩

end TypeAncestry
