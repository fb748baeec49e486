import TypeAncestry.Text.Classes

/-!
# Type names

A tree of types stores names only.  A name is a sequence of identifiers with dots between them.

* `Name.top`, `Name.null` : the two reserved names, of the unknown type and of an absent value.
* `Name.segments` : the parts of a name between its dots.
* `Name.isIdentifier`, `Name.isValid`, `Name.isQualified` : the classes of names; a qualified name
  has at least two segments.
* `Name.isPlaceholder` : every name that is not qualified, such as the name of a type variable.
* `Name.simple` : the last segment.
-/

namespace TypeAncestry

namespace Name

/-- The name of the unknown type, which a comparison takes for any type at all. -/
def top : String := "?"

/-- The name of the type of an absent value. -/
def null : String := "null"

/-- A character that an identifier may begin with. -/
def isIdentifierStart (c : Char) : Bool := Text.isAlphabetic c || c == '_' || c == '$'

/-- A character that an identifier may go on with. -/
def isIdentifierPart (c : Char) : Bool := Text.isAlphanumeric c || c == '_' || c == '$'

/-- An identifier is not empty and does not begin with a digit. -/
def isIdentifier : List Char → Bool
  | [] => false
  | c :: cs => isIdentifierStart c && cs.all isIdentifierPart

/-- The parts between the dots; there is always at least one, which may be empty. -/
def segments : List Char → List (List Char)
  | [] => [[]]
  | c :: cs =>
    if c = '.' then [] :: segments cs
    else
      match segments cs with
      | [] => [[c]]
      | s :: rest => (c :: s) :: rest

/-- All segments are identifiers. -/
def isValid (name : String) : Bool := (segments name.toList).all isIdentifier

/-- A valid name with a dot in it. -/
def isQualified (name : String) : Bool := isValid name && name.toList.contains '.'

/-- A name that does not say which type is meant: a bare or malformed one. -/
def isPlaceholder (name : String) : Bool := !isQualified name

/-- The name of the unknown type. -/
def isTop (name : String) : Bool := name == top

/-- The last segment of a name. -/
def simple (name : String) : String := String.ofList ((segments name.toList).getLastD [])

theorem segments_ne_nil (cs : List Char) : segments cs ≠ [] := by
  cases cs with
  | nil => simp [segments]
  | cons c cs =>
    simp only [segments]
    split
    · simp
    · split <;> simp

@[simp] theorem isTop_top : isTop top = true := by simp [isTop]

theorem isTop_iff {name : String} : isTop name = true ↔ name = top := by simp [isTop]

end Name

end TypeAncestry
