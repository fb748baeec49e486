import TypeAncestry.Json.Datum
import TypeAncestry.Json.Value
import TypeAncestry.Tree

/-!
# A library for JSON

A library that writes and reads JSON texts, and code that turns trees into data and back.

* `Json.Datum.compact`, `Json.Value.datum?` : the form in which a datum is written, and the datum in
  what has been read of a text.
* `Json.library` : the library.
* `TypeTree.coder` : the code.
-/

namespace TypeAncestry

namespace Json

namespace Datum

mutual

/-- The compact form of a datum, in which no more is escaped than has to be. -/
def compact : Datum → List Char
  | text s => quote s.toList
  | list items => '[' :: (separated (compactAll items) ++ [']'])
  | record members => '\x7b' :: (separated (compactMembers members) ++ ['\x7d'])

/-- The forms of the items of a list. -/
def compactAll : List Datum → List (List Char)
  | [] => []
  | d :: ds => d.compact :: compactAll ds

/-- The forms of the members of a record, each with its key in front. -/
def compactMembers : List (String × Datum) → List (List Char)
  | [] => []
  | (key, d) :: members => (quote key.toList ++ ':' :: d.compact) :: compactMembers members

end

end Datum

namespace Value

mutual

/-- The datum that a value is, if no more than `room` arrays and objects are nested in it and it
holds nothing but texts. -/
def datum? (room : Nat) : Value → Option Datum
  | .text (some s) => some (.text (String.ofList s))
  | .array items =>
    match room with
    | room + 1 => (data? room items).map .list
    | 0 => none
  | .object keys values =>
    match room with
    | room + 1 => (members? room keys values).map .record
    | 0 => none
  | _ => none

/-- The data in an array. -/
def data? (room : Nat) : List Value → Option (List Datum)
  | [] => some []
  | v :: vs => (v.datum? room).bind fun d => (data? room vs).map (d :: ·)

/-- The members of an object. -/
def members? (room : Nat) : List (Option (List Char)) → List Value → Option (List (String × Datum))
  | some key :: keys, v :: vs =>
    (v.datum? room).bind fun d => (members? room keys vs).map ((String.ofList key, d) :: ·)
  | [], [] => some []
  | _, _ => none

end

end Value

/-- The library that writes compact forms and reads texts as `Json.Value`. -/
def library : Library where
  write d := String.ofList d.compact
  read? text := (Value.ofText? text.toList).bind (·.datum? maxNesting)

end Json

namespace TypeTree

open Json

mutual

/-- The record of a tree. -/
def toDatum : TypeTree → Datum
  | node n cs => .record [("name", .text n), ("children", .list (toData cs))]

/-- The records of the trees in a list. -/
def toData : List TypeTree → List Datum
  | [] => []
  | t :: ts => t.toDatum :: toData ts

end

mutual

/-- The tree in a record. -/
def ofDatum? : Datum → Option TypeTree
  | .record members =>
    ((members.lookup "name").bind (·.text?)).bind fun n => (childrenOf? members).map (node n)
  | _ => none

/-- The children in a record, none if there is no list of them. -/
def childrenOf? : List (String × Datum) → Option (List TypeTree)
  | [] => some []
  | (key, d) :: members => if "children" == key then forestOf? d else childrenOf? members

/-- The trees in a list. -/
def forestOf? : Datum → Option (List TypeTree)
  | .list items => ofData? items
  | _ => none

/-- The trees in the items of a list. -/
def ofData? : List Datum → Option (List TypeTree)
  | [] => some []
  | d :: ds => (ofDatum? d).bind fun t => (ofData? ds).map (t :: ·)

end

/-- The code for trees. -/
def coder : Coder TypeTree := ⟨toDatum, ofDatum?⟩

end TypeTree

end TypeAncestry
