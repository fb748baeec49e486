import TypeAncestry.Lineage.Layer
import TypeAncestry.Tree

/-!
# Building a lineage

The tree of a subject is built by expanding it, and in turn what comes below it.  A guard watches
the expansions, so that the walk ends even if types descend from themselves: where the guard refuses
to let an expansion start, the type stands in the tree as a leaf.

* `Walk` : the state of a walk.
* `Walk.expandWith`, `Walk.expand` : expand a type.
* `Lineage`, `Oracle.lineage` : the tree of a subject, and what happened on the way.
-/

namespace TypeAncestry

/-- The state of a walk. -/
structure Walk (H : Type) where
  /-- The guard that watches the expansions. -/
  guard : Guard (Target H)
  /-- What has happened, in order. -/
  log : Array LineageEvent
  /-- The first misuse of the guard, if there was one. -/
  misuse : Option Misuse

namespace Walk

variable {H : Type} [DecidableEq H]

omit [DecidableEq H] in
/-- A walk that is about to start. -/
def new (limits : Limits) : Walk H := ⟨Guard.new limits, #[], none⟩

omit [DecidableEq H] in
/-- Note what happens. -/
def note (w : Walk H) (events : List LineageEvent) : Walk H :=
  { w with log := w.log ++ events }

/-- Leave the guard when the expansion of `t` is complete. -/
def leave (w : Walk H) (t : Target H) : Walk H :=
  match w.guard.leave t with
  | .ok g => { w with guard := g }
  | .error m => { w with misuse := w.misuse.or (some m) }

omit [DecidableEq H] in
/-- Put candidates below a type; `grow` expands those that are to be expanded.  What a filter keeps
out is not expanded either. -/
def attach (filters : Filters) (grow : Target H → Walk H → TypeTree × Walk H) :
    List (Candidate H) → Walk H → List TypeTree × Walk H
  | [], w => ([], w)
  | c :: cs, w =>
    let w := w.note c.remarks
    if filters.excludes c.role.filterKind c.name then
      attach filters grow cs (w.note [c.role.filtered c.name])
    else
      let (t, w) :=
        match c.target with
        | some target => grow target w
        | none => (.leaf c.name, w)
      let (ts, w) := attach filters grow cs w
      (t :: ts, w)

variable (o : Oracle H) (filters : Filters)

/-- Expand `t`, where `grow` expands what comes below it. -/
def expandWith (grow : Target H → Walk H → TypeTree × Walk H) (t : Target H) (w : Walk H) :
    TypeTree × Walk H :=
  let name := o.canonicalName t.handle
  match w.guard.enter t with
  | (.entered, g) =>
    let layer := o.layer t
    let (children, w) := attach filters grow layer.candidates { w with guard := g }
    let w := (w.note layer.remarks).leave t
    (.node name children, w.note [.built name children.length])
  | (denied, g) =>
    (.leaf name, { w with guard := g }.note [.cutOff name denied g.depth])

/-- Expand `t`.  No more than `levels` expansions are nested below it. -/
def expand : Nat → Target H → Walk H → TypeTree × Walk H
  | 0 => expandWith o filters fun t w => (.leaf (o.canonicalName t.handle), w)
  | levels + 1 => expandWith o filters (expand levels)

end Walk

/-- A tree, and what happened while it was built. -/
structure Lineage (H : Type) where
  /-- The tree. -/
  tree : TypeTree
  /-- The guard at the end. -/
  guard : Guard (Target H)
  /-- What happened, in order. -/
  events : List LineageEvent
  /-- The first misuse of the guard, if there was one. -/
  misuse : Option Misuse

namespace Lineage

variable {H : Type}

/-- How many expansions were tried. -/
def steps (l : Lineage H) : Nat := l.guard.steps

/-- Expansions were refused because of a limit. -/
def truncated (l : Lineage H) : Bool := l.guard.truncated

/-- The log of a walk through an oracle that keeps no log. -/
def records (l : Lineage H) : List LogRecord := l.events.filterMap (·.record?)

/-- The lineage that a walk ends with. -/
def ofWalk (tree : TypeTree) (w : Walk H) : Lineage H :=
  { tree := tree
    guard := w.guard
    events := w.log.toList ++
      [.finished tree.name tree.size tree.depth w.guard.steps w.guard.truncated]
    misuse := w.misuse.or w.guard.abandon }

end Lineage

namespace Oracle

variable {H : Type}

/-- The type that stands for `h`: if `h` is primitive, its boxed type if that is known; and what
happens while it is found. -/
def boxed (o : Oracle H) (h : H) : H × List LineageEvent :=
  match o.primitiveKind h with
  | none => (h, [])
  | some k =>
    match o.resolve k.boxedName with
    | some b => (b, [.asked k.boxedName, .boxed k])
    | none => (h, [.asked k.boxedName, .boxUnknown k])

variable [DecidableEq H] (o : Oracle H) (filters : Filters) (limits : Limits)

/-- The lineage of the type `h`. -/
def lineageOfType (h : H) : Lineage H :=
  let (h, remarks) := o.boxed h
  let (tree, w) :=
    Walk.expand o filters limits.maxDepth.toNat (.declared h) ((Walk.new limits).note remarks)
  .ofWalk tree w

/-- The lineage of a subject. -/
def lineage : Subject H → Lineage H
  | .type h => o.lineageOfType filters limits h
  | .value tag =>
    match o.runtimeType tag with
    | some h => o.lineageOfType filters limits h
    | none => .ofWalk .top ((Walk.new limits).note [.valueUnknown])
  | .null => .ofWalk .null (Walk.new limits)

end Oracle

end TypeAncestry
