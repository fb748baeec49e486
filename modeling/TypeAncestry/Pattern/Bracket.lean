import TypeAncestry.Pattern.Escape

/-!
# Sets of characters in brackets

A set in brackets lists characters, ranges, classes and further sets.  Two sets may be joined by an
operation; operations are carried out from left to right.  The reader keeps the sets that are still
open on a stack.

* `Pattern.Bracket.Frame` : a set that is still open, or the left side of an operation.
* `Pattern.bracket?` : read a set behind its opening bracket.
-/

namespace TypeAncestry

namespace Pattern

namespace Bracket

/-- What is open around the items that are being read. -/
inductive Frame where
  /-- A set in brackets; `outer` are the items before it in the set around it, the latest first. -/
  | set (negated : Bool) (outer : List ClassSet)
  /-- An operation that waits for its right side. -/
  | operation (op : SetOperation) (left : ClassSet)
  deriving Repr

/-- The operation with the given sign, which is written twice. -/
def operation? (c : Char) : Option SetOperation :=
  if c = '&' then some .intersection
  else if c = '-' then some .difference
  else if c = '~' then some .symmetricDifference
  else none

/-- Read the dashes that stand for themselves at the start of a set, and behind them nothing. -/
def dashes (extended : Bool) (fuel : Nat) (items : List ClassSet) (cs : List Char) :
    List ClassSet × List Char :=
  match fuel, cs with
  | fuel + 1, '-' :: rest =>
    dashes extended fuel (.single '-' :: items) (skip extended rest)
  | _, _ => (items, cs)

/-- Read the start of a set behind its opening bracket: a sign for the complement, dashes that stand
for themselves and, if there are none, a closing bracket that stands for itself. -/
def start? (extended : Bool) (cs : List Char) : Option (Bool × List ClassSet × List Char) :=
  let cs := skip extended cs
  let (negated, cs) :=
    match cs with
    | '^' :: rest => (true, skip extended rest)
    | _ => (false, cs)
  match dashes extended cs.length [] cs with
  | ([], ']' :: rest) =>
    let rest := skip extended rest
    if rest.isEmpty then none else some (negated, [.single ']'], rest)
  | (items, cs) => if cs.isEmpty then none else some (negated, items, cs)

/-- Read the name of an ASCII class behind the bracket and the colon in front of it. -/
def asciiClass? (cs : List Char) : Option (ClassSet × List Char) :=
  let (negated, cs) :=
    match cs with
    | '^' :: rest => (true, rest)
    | _ => (false, cs)
  match cs.dropWhile (· != ':') with
  | ':' :: ']' :: rest =>
    (AsciiClass.ofName? (cs.takeWhile (· != ':'))).map fun a => (.ascii a negated, rest)
  | _ => none

/-- Read one character or an escape. -/
def atom? (extended : Bool) : List Char → Option (Atom × List Char)
  | [] => none
  | '\\' :: rest => escape? extended rest
  | c :: rest => some (.literal c false, rest)

/-- The set that an atom is by itself; a place between characters is none. -/
def setOf? : Atom → Option ClassSet
  | .literal c _ => some (.single c)
  | .class_ s => some s
  | .anchor _ => none

/-- Read a single item: a character, a class, or a range. -/
def item? (extended : Bool) (cs : List Char) : Option (ClassSet × List Char) :=
  match atom? extended cs with
  | none => none
  | some (a, rest) =>
    let rest := skip extended rest
    match rest with
    | [] => none
    | '-' :: behind =>
      if peekBehind extended rest == some ']' || peekBehind extended rest == some '-' then
        (setOf? a).map fun s => (s, rest)
      else
        match a, atom? extended (skip extended behind) with
        | .literal c _, some (.literal d _, rest) =>
          if c ≤ d then some (.range c d, rest) else none
        | _, _ => none
    | _ => (setOf? a).map fun s => (s, rest)

/-- Carry out the operation on top of the stack, if there is one, with the right side `s`. -/
def settle (s : ClassSet) : List Frame → ClassSet × List Frame
  | .operation op l :: stack => (.operation op l s, stack)
  | stack => (s, stack)

/-- Close the innermost set, whose items are `items`, the latest first.  What comes out is the
outermost set, or the items of the set around it with this set among them. -/
def close? (items : List ClassSet) (stack : List Frame) :
    Option (ClassSet ⊕ (List ClassSet × List Frame)) :=
  match settle (.ofList items.reverse) stack with
  | (s, [.set negated _]) => some (.inl (.bracket negated s))
  | (s, .set negated outer :: stack) => some (.inr (.bracket negated s :: outer, stack))
  | _ => none

/-- Read the rest of a set.  Every round reads one character at least, so that as much fuel as there
are characters is enough. -/
def rest? (extended : Bool) (fuel : Nat) (items : List ClassSet) (stack : List Frame)
    (cs : List Char) : Option (ClassSet × List Char) :=
  match fuel with
  | 0 => none
  | fuel + 1 =>
    match skip extended cs with
    | [] => none
    | ']' :: rest =>
      match close? items stack with
      | some (.inl s) => some (s, rest)
      | some (.inr (items, stack)) => rest? extended fuel items stack rest
      | none => none
    | '[' :: rest =>
      let class_ :=
        match rest with
        | ':' :: name => asciiClass? name
        | _ => none
      match class_ with
      | some (s, rest) => rest? extended fuel (s :: items) stack rest
      | none =>
        match start? extended rest with
        | some (negated, inner, rest) =>
          rest? extended fuel inner (.set negated items :: stack) rest
        | none => none
    | c :: rest =>
      match operation? c, rest with
      | some op, d :: behind =>
        if d = c then
          let (left, stack) := settle (.ofList items.reverse) stack
          rest? extended fuel [] (.operation op left :: stack) behind
        else
          match item? extended (c :: rest) with
          | some (s, rest) => rest? extended fuel (s :: items) stack rest
          | none => none
      | _, _ =>
        match item? extended (c :: rest) with
        | some (s, rest) => rest? extended fuel (s :: items) stack rest
        | none => none

end Bracket

/-- Read a set of characters whose opening bracket has been read. -/
def bracket? (extended : Bool) (cs : List Char) : Option (ClassSet × List Char) :=
  match Bracket.start? extended cs with
  | some (negated, items, rest) =>
    Bracket.rest? extended (rest.length + 1) items [.set negated []] rest
  | none => none

end Pattern

end TypeAncestry
