/-!
# Data in JSON

A value goes into a JSON text in two steps, and comes out of it in two steps.  Code that is derived
from the declaration of its type turns it into data, which is texts, lists and records; and a
library writes the data.  Both are given from outside, so they are parameters here.

* `Json.Datum`, `Json.Datum.nesting` : the data, and how many lists and records of them are nested.
* `Json.Library` : what writes and reads data.
* `Json.Coder` : what turns values into data, and data into values.
* `Json.Coder.write`, `Json.Coder.read?` : a value is written, and a text is read as a value.
-/

namespace TypeAncestry

namespace Json

/-- What a JSON text may hold. -/
inductive Datum where
  /-- A text. -/
  | text (s : String)
  /-- A list. -/
  | list (items : List Datum)
  /-- A record: its keys with what stands under them, in the order in which they are written. -/
  | record (members : List (String × Datum))
  deriving Repr

namespace Datum

/-- To prove a statement of all data, prove it of lists and records from what is in them. -/
@[elab_as_elim]
theorem induct {P : Datum → Prop} (text : ∀ s, P (.text s))
    (list : ∀ items, (∀ d ∈ items, P d) → P (.list items))
    (record : ∀ members, (∀ m ∈ members, P m.2) → P (.record members)) : ∀ d, P d := by
  intro d
  refine Datum.rec (motive_1 := P) (motive_2 := fun ds => ∀ d ∈ ds, P d)
    (motive_3 := fun ms => ∀ m ∈ ms, P m.2) (motive_4 := fun m => P m.2) text list record
    (fun _ h => nomatch h) (fun d ds hd hds => List.forall_mem_cons.2 ⟨hd, hds⟩)
    (fun _ h => nomatch h) (fun m ms hm hms => List.forall_mem_cons.2 ⟨hm, hms⟩)
    (fun _ _ h => h) d

mutual

/-- The number of lists and records that are nested at the deepest place. -/
def nesting : Datum → Nat
  | text _ => 0
  | list items => 1 + nestingAll items
  | record members => 1 + nestingMembers members

/-- The greatest nesting in a list of data. -/
def nestingAll : List Datum → Nat
  | [] => 0
  | d :: ds => max d.nesting (nestingAll ds)

/-- The greatest nesting under the keys of a record. -/
def nestingMembers : List (String × Datum) → Nat
  | [] => 0
  | (_, d) :: ms => max d.nesting (nestingMembers ms)

end

/-- The text that a datum is. -/
def text? : Datum → Option String
  | text s => some s
  | _ => none

/-- The list that a datum is. -/
def list? : Datum → Option (List Datum)
  | list items => some items
  | _ => none

end Datum

/-- How many lists and records may be nested in a text that is read. -/
def maxNesting : Nat := 127

/-- What writes data as JSON texts and reads them. -/
structure Library where
  /-- Write a datum in compact form. -/
  write : Datum → String
  /-- Read a text; `none` if this is an error. -/
  read? : String → Option Datum

/-- What turns the values of a type into data, and data into values. -/
structure Coder (α : Type) where
  /-- The datum of a value. -/
  encode : α → Datum
  /-- The value of a datum; `none` if it has none. -/
  decode? : Datum → Option α

namespace Coder

variable {α : Type}

/-- The JSON text of a value. -/
def write (code : Coder α) (L : Library) (x : α) : String := L.write (code.encode x)

/-- The value in a JSON text. -/
def read? (code : Coder α) (L : Library) (text : String) : Option α :=
  (L.read? text).bind code.decode?

end Coder

end Json

end TypeAncestry
