import TypeAncestry.Filters
import TypeAncestry.Lineage.Event
import TypeAncestry.Oracle

/-!
# The types next to a type

A type is expanded by putting below it, in this order: its declared type parameters or, if it is
applied, its arguments; its interfaces; and its super-type.

* `Target` : what can be expanded.
* `Role` : the ways in which a type comes to stand below another one.
* `Candidate` : a type that is to stand there unless a filter keeps it out.
* `Layer`, `Oracle.layer` : all that comes below a type.

Declared parameters, type variables and plain references stand in a tree as leaves, under the name
of the type that their own name leads to.
-/

namespace TypeAncestry

/-- A type that can be expanded. -/
inductive Target (H : Type) where
  /-- A type as it is declared. -/
  | declared (handle : H)
  /-- A type applied to arguments. -/
  | applied (raw : H) (args : List (TypeRef H))
  deriving DecidableEq, Repr

/-- The handle of the type, without its arguments. -/
def Target.handle {H : Type} : Target H → H
  | declared h => h
  | applied h _ => h

/-- The ways in which a type comes to stand below another one. -/
inductive Role where
  /-- As the declared type parameter with this name. -/
  | parameter (spelling : String)
  /-- As an argument. -/
  | argument
  /-- As an interface. -/
  | interface
  /-- As the super-type. -/
  | superType
  deriving DecidableEq, Repr

namespace Role

/-- The filter for a role. -/
def filterKind : Role → FilterKind
  | parameter _ => .parameter
  | argument => .argument
  | interface => .interface
  | superType => .superType

/-- A type with the given name is kept out. -/
def filtered (name : String) : Role → LineageEvent
  | parameter p => .parameterFiltered p name
  | argument => .argumentFiltered name
  | interface => .interfaceFiltered name
  | superType => .superTypeFiltered name

end Role

/-- A type that is to stand below another one. -/
structure Candidate (H : Type) where
  /-- How it comes there. -/
  role : Role
  /-- Its name, which filters look at. -/
  name : String
  /-- What is to be expanded there; none if the type is to be a leaf. -/
  target : Option (Target H)
  /-- What happens while its name is found. -/
  remarks : List LineageEvent

/-- All that comes below a type. -/
structure Layer (H : Type) where
  /-- The types that are to stand there. -/
  candidates : List (Candidate H)
  /-- What happens after that. -/
  remarks : List LineageEvent

namespace Oracle

variable {H : Type} (o : Oracle H)

/-- The name under which a leaf called `name` stands in a tree, and what happens while it is found.
A placeholder, a name without a type and the name of the universal top all lead to `?`. -/
def leafName (name : String) : String × List LineageEvent :=
  if Name.isPlaceholder name then (Name.top, [])
  else
    match o.resolve name with
    | some h => (if o.isUniversalTop h then Name.top else o.canonicalName h, [.asked name])
    | none => (Name.top, [.asked name, .unresolved name])

/-- The leaf called `name` in the given role. -/
def leaf (role : Role) (name : String) : Candidate H :=
  let (name, remarks) := o.leafName name
  ⟨role, name, none, remarks⟩

/-- The type that an argument or an interface refers to: an applied type is expanded, all else is a
leaf. -/
def reference (role : Role) : TypeRef H → Candidate H
  | .applied h args => ⟨role, o.canonicalName h, some (.applied h args), []⟩
  | .plain h =>
    if o.isUniversalTop h then ⟨role, Name.top, none, []⟩ else o.leaf role (o.canonicalName h)
  | .var n => o.leaf role n

/-- The declared parameters of a type as it is declared, the arguments of an applied one. -/
def parameters : Target H → List (Candidate H)
  | .declared h => (o.typeParameters h).map fun p => o.leaf (.parameter p) p
  | .applied _ args => args.map (o.reference .argument)

/-- A super-type that is to be expanded, unless it is the universal top. -/
def ancestor (t : Target H) : List (Candidate H) :=
  if o.isUniversalTop t.handle then []
  else [⟨.superType, o.canonicalName t.handle, some t, []⟩]

/-- The super-type of a type. -/
def superLayer (h : H) : Layer H :=
  match o.superType h with
  | none => ⟨[], []⟩
  | some (.plain s) => ⟨o.ancestor (.declared s), []⟩
  | some (.applied s args) => ⟨o.ancestor (.applied s args), []⟩
  | some (.var n) => ⟨[], [.superTypeVariable n]⟩

/-- All that comes below a type. -/
def layer (t : Target H) : Layer H :=
  let s := o.superLayer t.handle
  ⟨o.parameters t ++ (o.interfaces t.handle).map (o.reference .interface) ++ s.candidates,
    s.remarks⟩

end Oracle

end TypeAncestry
