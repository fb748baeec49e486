import Mathlib.Data.List.Forall2
import TypeAncestry.Json.Datum
import TypeAncestry.Json.Text
import TypeAncestry.Tree

/-!
# What is relied on when trees are written as JSON

JSON gives data their forms as texts.  A library is relied on to write one of the compact forms of a
datum, that is one without white space, and to read any of them, as long as not too many lists and
records are nested.  The code that is derived from the declaration of trees is relied on to treat a
tree as a record of its two fields.

* `Json.CharForm`, `Json.Quoted` : the forms of characters and texts.
* `Json.Datum.Form` : the compact forms of data.
* `Json.Library.Standard` : a library writes and reads these.
* `Json.Coder.OfFields` : code treats a tree as a record of its name and its children.
-/

namespace TypeAncestry

namespace Json

/-! ### Forms -/

/-- A character between quotation marks stands for itself, or there is a short escape for it, or it
is given by its number. -/
inductive CharForm : Char → List Char → Prop
  | plain {c : Char} (hquote : c ≠ '"') (hescape : c ≠ '\\') (hcontrol : ¬c.toNat < 0x20) :
      CharForm c [c]
  | short {c e : Char} (h : unescape? e = some c) : CharForm c ['\\', e]
  | number {c a b d e : Char} (h : hexUnit? a b d e = some c.toNat) :
      CharForm c ['\\', 'u', a, b, d, e]

/-- The text in quotation marks. -/
def Quoted (s : String) (cs : List Char) : Prop :=
  ∃ forms, List.Forall₂ CharForm s.toList forms ∧ cs = '"' :: (forms.flatten ++ ['"'])

namespace Datum

mutual

/-- A compact form of the datum. -/
def Form : Datum → List Char → Prop
  | text s, cs => Quoted s cs
  | list items, cs => ∃ forms, FormAll items forms ∧ cs = '[' :: (separated forms ++ [']'])
  | record members, cs =>
    ∃ forms, FormMembers members forms ∧ cs = '\x7b' :: (separated forms ++ ['\x7d'])

/-- Compact forms of the items of a list. -/
def FormAll : List Datum → List (List Char) → Prop
  | [], [] => True
  | d :: ds, cs :: forms => d.Form cs ∧ FormAll ds forms
  | _, _ => False

/-- Compact forms of the members of a record, each with its key in front. -/
def FormMembers : List (String × Datum) → List (List Char) → Prop
  | [], [] => True
  | (key, d) :: members, cs :: forms =>
    (∃ ks ds, Quoted key ks ∧ d.Form ds ∧ cs = ks ++ ':' :: ds) ∧ FormMembers members forms
  | _, _ => False

end

end Datum

/-! ### Libraries -/

/-- A library writes data in compact form, and reads what has such a form unless too many lists and
records are nested in it. -/
structure Library.Standard (L : Library) : Prop where
  /-- What is written is a compact form of the datum. -/
  form_write (d : Datum) : d.Form (L.write d).toList
  /-- A compact form is read as its datum; deeper nesting is an error. -/
  read?_of_form {d : Datum} {text : String} (h : d.Form text.toList) :
    L.read? text = if d.nesting ≤ maxNesting then some d else none

/-! ### Code for trees -/

/-- The children that stand in a record; if there are none, this is no error. -/
def childrenIn? (code : Coder TypeTree) (members : List (String × Datum)) :
    Option (List TypeTree) :=
  match members.lookup "children" with
  | some d => d.list?.bind fun items => items.mapM code.decode?
  | none => some []

/-- Code treats a tree as a record of its name and its children. -/
structure Coder.OfFields (code : Coder TypeTree) : Prop where
  /-- The fields are written under their names, in the order in which they are declared. -/
  encode_node (n : String) (cs : List TypeTree) : code.encode (.node n cs) =
    .record [("name", .text n), ("children", .list (cs.map code.encode))]
  /-- The fields of a record are found under their names.  Other members are passed over. -/
  decode?_record {members : List (String × Datum)} (h : (members.map (·.1)).Nodup) :
    code.decode? (.record members) =
      ((members.lookup "name").bind (·.text?)).bind fun n =>
        (childrenIn? code members).map (.node n)

end Json

end TypeAncestry
