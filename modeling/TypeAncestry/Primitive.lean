import TypeAncestry.Name

/-!
# Primitive types

A primitive type has no ancestors of its own; where one is asked for its lineage, the boxed type
with the name given here takes its place.

* `Primitive.all` : the primitive types, in the order in which a name is looked up among them.
* `Primitive.name`, `Primitive.boxedName` : the two names of a primitive type.
* `Primitive.ofName?` : the primitive type with a given name of either kind.
-/

namespace TypeAncestry

/-- The primitive types, with the type of an absent value among them. -/
inductive Primitive where
  | short
  | int
  | long
  | float
  | double
  | byte
  | char
  | boolean
  | void
  | null
  deriving DecidableEq, Repr

namespace Primitive

/-- All primitive types. -/
def all : List Primitive :=
  [short, int, long, float, double, byte, char, boolean, void, null]

/-- The keyword of a primitive type. -/
def name : Primitive → String
  | short => "short"
  | int => "int"
  | long => "long"
  | float => "float"
  | double => "double"
  | byte => "byte"
  | char => "char"
  | boolean => "boolean"
  | void => "void"
  | null => Name.null

/-- The name of the class that boxes a primitive type; the type of an absent value boxes itself. -/
def boxedName : Primitive → String
  | short => "java.lang.Short"
  | int => "java.lang.Integer"
  | long => "java.lang.Long"
  | float => "java.lang.Float"
  | double => "java.lang.Double"
  | byte => "java.lang.Byte"
  | char => "java.lang.Character"
  | boolean => "java.lang.Boolean"
  | void => "java.lang.Void"
  | null => Name.null

/-- The keyword with a capital letter, as log records show it. -/
def label : Primitive → String
  | short => "Short"
  | int => "Int"
  | long => "Long"
  | float => "Float"
  | double => "Double"
  | byte => "Byte"
  | char => "Char"
  | boolean => "Boolean"
  | void => "Void"
  | null => "Null"

/-- A value of the type may be absent. -/
def isNullable : Primitive → Bool
  | void | null => true
  | _ => false

/-- Equality of texts but for the case of ASCII letters. -/
def sameLetters (a b : List Char) : Bool := a.map Char.toLower == b.map Char.toLower

/-- The primitive type with the given keyword or boxed name, whatever its case and the white space
around it.  A blank name is that of an absent value. -/
def ofName? (text : String) : Option Primitive :=
  let word := Text.trim text.toList
  if word.isEmpty || sameLetters word Name.null.toList then some null
  else all.find? fun p => sameLetters word p.name.toList || sameLetters word p.boxedName.toList

theorem mem_all (p : Primitive) : p ∈ all := by cases p <;> decide

end Primitive

end TypeAncestry
