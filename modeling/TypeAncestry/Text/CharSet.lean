/-!
# Sets of characters

A set of characters is a list of closed intervals of code points, in ascending order and apart from
each other.

* `CharSet` : sets of characters.
* `CharSet.contains` : membership.
* `CharSet.union`, `inter`, `diff`, `symmDiff`, `compl` : the operations on sets.

The code points from U+D800 to U+DFFF are no characters: U+D7FF is followed by U+E000.
-/

namespace TypeAncestry

namespace Text

/-- Membership in a list of closed intervals that are given in ascending order. -/
def inIntervals (n : Nat) : List (Nat × Nat) → Bool
  | [] => false
  | (first, last) :: rest => if n < first then false else n ≤ last || inIntervals n rest

/-- A set of characters. -/
structure CharSet where
  /-- The closed intervals of code points that belong to the set, in ascending order and apart from
  each other. -/
  intervals : List (Nat × Nat)
  deriving DecidableEq, Repr

namespace CharSet

/-- The greatest code point. -/
def lastCode : Nat := 0x10FFFF

/-- The character is in the set. -/
def contains (s : CharSet) (c : Char) : Bool := inIntervals c.toNat s.intervals

/-- The set without characters. -/
def empty : CharSet := ⟨[]⟩

/-- The set of all characters. -/
def all : CharSet := ⟨[(0, lastCode)]⟩

/-- The characters from one to another. -/
def range (first last : Char) : CharSet := ⟨[(first.toNat, last.toNat)]⟩

/-- The set of one character. -/
def single (c : Char) : CharSet := range c c

/-- The set has no character. -/
def isEmpty (s : CharSet) : Bool := s.intervals.isEmpty

/-- The only character of a set that has just one. -/
def single? (s : CharSet) : Option Char :=
  match s.intervals with
  | [(first, last)] => if first = last then some (Char.ofNat first) else none
  | _ => none

/-- All characters of the set are characters of ASCII. -/
def isAscii (s : CharSet) : Bool := s.intervals.all (·.2 < 0x80)

/-! ### Neighbours -/

/-- The code point of the character behind a given one. -/
def next (n : Nat) : Nat := if n = 0xD7FF then 0xE000 else n + 1

/-- The code point of the character in front of a given one. -/
def prior (n : Nat) : Nat := if n = 0xE000 then 0xD7FF else n - 1

/-! ### Union -/

/-- Add the code points from `a` to `b` to a list of intervals.  Intervals that overlap or touch
become one. -/
def insert (a b : Nat) : List (Nat × Nat) → List (Nat × Nat)
  | [] => [(a, b)]
  | (c, d) :: rest =>
    if b + 1 < c then (a, b) :: (c, d) :: rest
    else if d + 1 < a then (c, d) :: insert a b rest
    else insert (min a c) (max b d) rest

/-- The set of the code points in intervals that are given in any order. -/
def ofIntervals (intervals : List (Nat × Nat)) : CharSet :=
  ⟨intervals.foldl (fun s i => insert i.1 i.2 s) []⟩

/-- The characters that are in one of two sets. -/
def union (s t : CharSet) : CharSet :=
  ⟨t.intervals.foldl (fun s i => insert i.1 i.2 s) s.intervals⟩

/-- The characters that are in one of several sets. -/
def unions (sets : List CharSet) : CharSet := sets.foldl union empty

/-! ### Intersection and difference -/

/-- The part of a list of intervals that lies between `a` and `b`. -/
def clip (a b : Nat) : List (Nat × Nat) → List (Nat × Nat)
  | [] => []
  | (c, d) :: rest =>
    if b < c then []
    else if d < a then clip a b rest
    else (max a c, min b d) :: clip a b rest

/-- The characters that are in both sets. -/
def inter (s t : CharSet) : CharSet := ⟨s.intervals.flatMap fun i => clip i.1 i.2 t.intervals⟩

/-- The interval from `a` to `b` without a list of intervals. -/
def cut (a b : Nat) : List (Nat × Nat) → List (Nat × Nat)
  | [] => [(a, b)]
  | (c, d) :: rest =>
    if b < c then [(a, b)]
    else if d < a then cut a b rest
    else (if a < c then [(a, prior c)] else []) ++ (if d < b then cut (next d) b rest else [])

/-- The characters that are in the first set and not in the second. -/
def diff (s t : CharSet) : CharSet := ⟨s.intervals.flatMap fun i => cut i.1 i.2 t.intervals⟩

/-- The characters that are in just one of two sets. -/
def symmDiff (s t : CharSet) : CharSet := (s.union t).diff (s.inter t)

/-! ### Complement -/

/-- The gap between an interval that ends with `a` and one that begins with `b`.  Where there is no
character between them, as `a` is U+D7FF and `b` is U+E000, it is taken to reach from `a` to `b`. -/
def gap (a b : Nat) : Nat × Nat := (min (next a) (prior b), max (next a) (prior b))

/-- The gaps behind an interval that ends with `a`. -/
def gapsFrom (a : Nat) : List (Nat × Nat) → List (Nat × Nat)
  | [] => if a < lastCode then [(next a, lastCode)] else []
  | (c, d) :: rest => gap a c :: gapsFrom d rest

/-- The characters that are not in the set. -/
def compl (s : CharSet) : CharSet :=
  match s.intervals with
  | [] => all
  | (a, b) :: rest => ⟨(if 0 < a then [(0, prior a)] else []) ++ gapsFrom b rest⟩

/-- The set itself or its complement. -/
def complIf (negated : Bool) (s : CharSet) : CharSet := if negated then s.compl else s

end CharSet

end Text

end TypeAncestry
