import TypeAncestry.NamePattern

/-!
# Filters

Filters keep types out of a tree by their names.  There is one for each way in which a type comes
into a tree.

* `FilterKind` : the ways.
* `Filters` : a pattern, or none, for each of them.
* `Filters.compile` : the filters that a library makes of the texts of their patterns.
* `Filters.excludes` : a name is kept out.
-/

namespace TypeAncestry

/-- The ways in which a type comes into a tree. -/
inductive FilterKind where
  /-- As a super-type. -/
  | superType
  /-- As a declared type parameter. -/
  | parameter
  /-- As an interface. -/
  | interface
  /-- As a type argument. -/
  | argument
  deriving DecidableEq, Repr

/-- A pattern, or none, for each way in which a type comes into a tree. -/
structure Filters where
  /-- The super-types to keep out. -/
  superType : Option NamePattern
  /-- The declared type parameters to keep out. -/
  parameter : Option NamePattern
  /-- The interfaces to keep out. -/
  interface : Option NamePattern
  /-- The type arguments to keep out. -/
  argument : Option NamePattern

namespace Filters

/-- Filters that keep nothing out. -/
def none : Filters := ⟨.none, .none, .none, .none⟩

/-- The pattern in a text that may be missing; the text itself if it is no pattern. -/
def compile? (regex : Regex) : Option String → Except String (Option NamePattern)
  | .none => .ok .none
  | some text =>
    match NamePattern.compile? regex text with
    | some p => .ok (some p)
    | .none => .error text

/-- The filters with the given patterns, in the order in which they are declared, or the first text
that is no pattern. -/
def compile (regex : Regex) (superType parameter interface argument : Option String) :
    Except String Filters := do
  let superType ← compile? regex superType
  let parameter ← compile? regex parameter
  let interface ← compile? regex interface
  let argument ← compile? regex argument
  return ⟨superType, parameter, interface, argument⟩

/-- The pattern for a way in which types come into a tree. -/
def get? (f : Filters) : FilterKind → Option NamePattern
  | .superType => f.superType
  | .parameter => f.parameter
  | .interface => f.interface
  | .argument => f.argument

/-- The filters with another pattern for one of the ways. -/
def set (f : Filters) (kind : FilterKind) (p : NamePattern) : Filters :=
  match kind with
  | .superType => { f with superType := some p }
  | .parameter => { f with parameter := some p }
  | .interface => { f with interface := some p }
  | .argument => { f with argument := some p }

/-- A type with the given name is kept out. -/
def excludes (f : Filters) (kind : FilterKind) (name : String) : Bool :=
  (f.get? kind).any (·.isMatch name)

/-- There are no patterns. -/
def isEmpty (f : Filters) : Bool :=
  f.superType.isNone && f.parameter.isNone && f.interface.isNone && f.argument.isNone

/-- Two patterns that may be missing are the same. -/
def sameOption : Option NamePattern → Option NamePattern → Bool
  | .none, .none => true
  | some p, some q => p.same q
  | _, _ => false

/-- Filters are the same if their patterns are. -/
def same (f g : Filters) : Bool :=
  sameOption f.superType g.superType && sameOption f.parameter g.parameter &&
    sameOption f.interface g.interface && sameOption f.argument g.argument

@[simp] theorem none_excludes (kind : FilterKind) (name : String) :
    none.excludes kind name = false := by
  cases kind <;> rfl

end Filters

end TypeAncestry
