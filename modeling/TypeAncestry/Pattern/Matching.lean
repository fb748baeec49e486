import TypeAncestry.Pattern.Expr

/-!
# Matching

Positions in a text lie before, between and behind its characters; the position before the character
number `i`, counted from zero, has the number `i`.  A set of positions is a number whose binary
digit `i` says whether position `i` is in the set.

* `Pattern.Positions` : the positions of a text.
* `Pattern.Positions.select` : the positions of a set whose neighbours pass a test.
* `Pattern.Expr.advance` : the positions where a match may end if it begins in a given set.
* `Pattern.Expr.isMatch` : some part of a text matches.

The number of rounds is bounded by the length of the text, so matching takes polynomial time
whatever the expression is.
-/

namespace TypeAncestry

namespace Pattern

/-! ### Positions -/

/-- The positions of a text as the leaves of a tree. -/
inductive Positions where
  /-- A position with the characters before and behind it. -/
  | single (before after : Option Char)
  /-- The first `count` positions and those behind them. -/
  | join (count : Nat) (front back : Positions)
  deriving Repr

namespace Positions

/-- The neighbours of each position in a text that follows the character `before`. -/
def neighbours (before : Option Char) : List Char → List (Option Char × Option Char)
  | [] => [(before, none)]
  | c :: cs => (before, some c) :: neighbours (some c) cs

/-- The tree of at least one and at most `2 ^ depth` positions with the given neighbours. -/
def ofList : Nat → List (Option Char × Option Char) → Positions
  | 0, ps => let (before, after) := ps.headD (none, none); single before after
  | depth + 1, ps =>
    let count := 1 <<< depth
    if ps.length ≤ count then ofList depth ps
    else join count (ofList depth (ps.take count)) (ofList depth (ps.drop count))

/-- The positions of a text. -/
def ofText (text : List Char) : Positions :=
  ofList (Nat.log2 (text.length + 1) + 1) (neighbours none text)

/-- The positions of a set whose neighbours pass a test. -/
def select (p : Option Char → Option Char → Bool) : Positions → Nat → Nat
  | single before after, s => if s != 0 && p before after then s else 0
  | join count front back, s =>
    if s = 0 then 0
    else
      let t := s >>> count
      front.select p (s - t <<< count) + back.select p t <<< count

end Positions

/-! ### Repetitions -/

/-- The positions of the first set that are not in the second. -/
def without (s seen : Nat) : Nat := (s ||| seen) ^^^ seen

/-- Apply `f` to a set the given number of times; once nothing changes, nothing ever will. -/
def rounds (f : Nat → Nat) : Nat → Nat → Nat
  | 0, s => s
  | n + 1, s =>
    let t := f s
    if t = s then s else rounds f n t

/-- Add to the set `seen` what `f` makes of it, the given number of times.  Only the positions in
`fresh`, which the latest round has added, can lead to new ones. -/
def grow (f : Nat → Nat) : Nat → Nat → Nat → Nat
  | 0, seen, _ => seen
  | n + 1, seen, fresh =>
    let new := without (f fresh) seen
    if new = 0 then seen else grow f n (seen ||| new) new

namespace Expr

/-! ### Matches -/

/-- The positions where a match may end that begins at a position in the set `s`.  Without an upper
bound, no more rounds are needed than the text has positions. -/
def advance (length : Nat) (text : Positions) : Expr → Nat → Nat
  | empty, s => s
  | one set, s => 2 * text.select (fun _ after => after.any set.contains) s
  | place p, s => text.select p.test s
  | seq a b, s => b.advance length text (a.advance length text s)
  | alt a b, s => a.advance length text s ||| b.advance length text s
  | loop least most _ a, s =>
    let s := rounds (a.advance length text) least s
    grow (a.advance length text) (most.elim (length + 1) (· - least)) s s
  | group _ a, s => a.advance length text s

/-- All positions of a text. -/
def allPositions (text : List Char) : Nat := 1 <<< (text.length + 1) - 1

/-- Some part of the text matches. -/
def isMatch (e : Expr) (text : List Char) : Bool :=
  e.advance text.length (.ofText text) (allPositions text) != 0

end Expr

end Pattern

end TypeAncestry
