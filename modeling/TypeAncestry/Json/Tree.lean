import TypeAncestry.Json.Library

/-!
# Trees in JSON

A tree is written as an object with its name and the array of its children.

* `TypeTree.toJson` : the compact form of a tree.
* `TypeTree.ofJson?` : read a tree.  Members with other keys are passed over, children may be
  missing, and instead of an object there may be an array of the name and the children.
-/

namespace TypeAncestry

open Json

namespace TypeTree

/-- The compact JSON text of a tree. -/
def toJson (t : TypeTree) : String := coder.write library t

/-- The text of a value that is one. -/
def textOf? : Value → Option String
  | .text (some s) => some (String.ofList s)
  | _ => none

mutual

/-- The tree in a value; `room` more arrays and objects may be opened. -/
def ofValue? (room : Nat) : Value → Option TypeTree
  | .array items =>
    match room, items with
    | _ + 1, [n] => (textOf? n).map leaf
    | room + 1, [n, cs] =>
      match textOf? n, forestOfValue? room cs with
      | some n, some cs => some (node n cs)
      | _, _ => none
    | _, _ => none
  | .object keys values =>
    match room with
    | room + 1 => ofMembers? room none none keys values
    | 0 => none
  | _ => none

/-- The trees in an array. -/
def forestOfValue? (room : Nat) : Value → Option (List TypeTree)
  | .array items =>
    match room with
    | room + 1 => ofValues? room items
    | 0 => none
  | _ => none

/-- The trees in a list of values. -/
def ofValues? (room : Nat) : List Value → Option (List TypeTree)
  | [] => some []
  | v :: vs =>
    match ofValue? room v, ofValues? room vs with
    | some t, some ts => some (t :: ts)
    | _, _ => none

/-- The tree in the members of an object, of which the name and the children may have been found
already.  Neither may occur twice. -/
def ofMembers? (room : Nat) (n : Option String) (cs : Option (List TypeTree)) :
    List (Option (List Char)) → List Value → Option TypeTree
  | some key :: keys, v :: values =>
    if key = "name".toList then
      match n, textOf? v with
      | none, some n => ofMembers? room (some n) cs keys values
      | _, _ => none
    else if key = "children".toList then
      match cs, forestOfValue? room v with
      | none, some cs => ofMembers? room n (some cs) keys values
      | _, _ => none
    else ofMembers? room n cs keys values
  | [], _ => n.map (node · (cs.getD []))
  | _, _ => none

end

/-- The tree in a JSON text. -/
def ofJson? (text : String) : Option TypeTree :=
  (Value.ofText? text.toList).bind (ofValue? maxNesting)

end TypeTree

end TypeAncestry
