import TypeAncestry.Pattern.Element

/-!
# Reading patterns

A pattern is read one element at a time.  The groups that are still open are kept on a stack.

* `Pattern.Reading` : what has been read so far.
* `Pattern.Reading.step?` : read one element.
* `Pattern.Form.ofText?` : the pattern in a text, if it is one.
-/

namespace TypeAncestry

namespace Pattern

/-- What stands before an open group in the group around it. -/
structure OpenGroup where
  /-- The open group keeps what it matches. -/
  captures : Bool
  /-- The flags inside the open group. -/
  change : FlagChange
  /-- The group around it is extended. -/
  extended : Bool
  /-- The alternatives of the group around it that are complete, the latest first. -/
  alternatives : List Form
  /-- The parts of its latest alternative, the latest first. -/
  parts : List Form
  deriving Repr

/-- What has been read so far. -/
structure Reading where
  /-- White space and comments are passed over. -/
  extended : Bool
  /-- The alternatives of the innermost group that are complete, the latest first. -/
  alternatives : List Form
  /-- The parts of its latest alternative, the latest first. -/
  parts : List Form
  /-- The open groups, the innermost first. -/
  groups : List OpenGroup
  /-- The names of groups. -/
  names : List (List Char)
  deriving Repr

namespace Reading

/-- Nothing has been read. -/
def initial : Reading := ⟨false, [], [], [], []⟩

/-- What stands in the innermost group. -/
def content (r : Reading) : Form :=
  .ofAlternatives (Form.ofSequence r.parts.reverse :: r.alternatives).reverse

/-- A repetition of the latest part; flags cannot be repeated. -/
def repeat? (r : Reading) (least : Nat) (most : Option Nat) (lazy : Bool) : Option Reading :=
  match r.parts with
  | [] => none
  | .flags _ :: _ => none
  | f :: parts => some { r with parts := .loop least most lazy f :: parts }

/-- Read one element. -/
def step? (r : Reading) : Element → Option Reading
  | .form f => some { r with parts := f :: r.parts }
  | .bar =>
    some { r with
      alternatives := Form.ofSequence r.parts.reverse :: r.alternatives
      parts := [] }
  | .loop least most lazy => r.repeat? least most lazy
  | .flags change =>
    some { r with
      extended := (change.get? .extended).getD r.extended
      parts := .flags change :: r.parts }
  | .groupStart captures change name =>
    if name.any (· ∈ r.names) then none
    else
      some
        { extended := (change.get? .extended).getD r.extended
          alternatives := []
          parts := []
          groups := ⟨captures, change, r.extended, r.alternatives, r.parts⟩ :: r.groups
          names := name.toList ++ r.names }
  | .groupEnd =>
    match r.groups with
    | [] => none
    | g :: groups =>
      some { r with
        extended := g.extended
        alternatives := g.alternatives
        parts := .group g.captures g.change r.content :: g.parts
        groups := groups }

/-- Read a text to its end.  Every round reads one character at least, so that as much fuel as there
are characters is enough. -/
def run? (fuel : Nat) (r : Reading) (cs : List Char) : Option Reading :=
  match skip r.extended cs with
  | [] => some r
  | c :: rest =>
    match fuel with
    | 0 => none
    | fuel + 1 =>
      match element? r.extended c rest with
      | none => none
      | some (e, rest) =>
        match r.step? e with
        | some r => run? fuel r rest
        | none => none

end Reading

/-- The pattern in a text, if the text is one and does not nest too deeply. -/
def Form.ofText? (cs : List Char) : Option Form :=
  match Reading.run? cs.length .initial cs with
  | some r => if r.groups.isEmpty && r.content.depth ≤ maxDepth then some r.content else none
  | none => none

end Pattern

end TypeAncestry
