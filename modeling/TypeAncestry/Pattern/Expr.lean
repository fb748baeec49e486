import TypeAncestry.Pattern.Classes

/-!
# Regular expressions

A regular expression with anchors is what a pattern means once its flags have been taken into
account.

* `Pattern.Place` : the places between characters that an expression can ask for.
* `Pattern.Place.test` : what stands on the two sides of a place.
* `Pattern.Expr` : regular expressions.

Two things in an expression do not change which texts it matches: whether a repetition is greedy,
and groups.  They count for the size of its machine.
-/

namespace TypeAncestry

namespace Pattern

/-! ### Places -/

/-- A kind of place between, before or behind the characters of a text. -/
inductive Place where
  /-- The start of the text. -/
  | textStart
  /-- The end of the text. -/
  | textEnd
  /-- The start of a line, which a carriage return may end as well. -/
  | lineStart (crlf : Bool)
  /-- The end of a line, which a carriage return may end as well. -/
  | lineEnd (crlf : Bool)
  /-- A place at a word, which is made of the characters of `Shorthand.word`. -/
  | word (w : WordPlace) (unicode : Bool)
  deriving DecidableEq, Repr

/-- A place in front of which a line begins. -/
def isLineStart (crlf : Bool) (before after : Option Char) : Bool :=
  before == none || before == some '\n' || (crlf && before == some '\r' && after != some '\n')

/-- A place where a line ends. -/
def isLineEnd (crlf : Bool) (before after : Option Char) : Bool :=
  if crlf then after == none || after == some '\r' || (after == some '\n' && before != some '\r')
  else after == none || after == some '\n'

/-- A place at a word; `l` and `r` say whether a character of a word stands on its left and on its
right. -/
def WordPlace.test (w : WordPlace) (l r : Bool) : Bool :=
  match w with
  | boundary => l != r
  | inside => l == r
  | start => !l && r
  | finish => l && !r
  | startHalf => !l
  | finishHalf => !r

/-- A place is of the given kind, by the characters before it and behind it. -/
def Place.test (p : Place) (before after : Option Char) : Bool :=
  match p with
  | textStart => before == none
  | textEnd => after == none
  | lineStart crlf => isLineStart crlf before after
  | lineEnd crlf => isLineEnd crlf before after
  | word w unicode =>
    let letters := Shorthand.word.chars unicode
    w.test (before.any letters.contains) (after.any letters.contains)

/-! ### Expressions -/

/-- A regular expression. -/
inductive Expr where
  /-- Nothing. -/
  | empty
  /-- One character of a set. -/
  | one (s : Text.CharSet)
  /-- A place. -/
  | place (p : Place)
  /-- One expression after the other. -/
  | seq (a b : Expr)
  /-- One expression or the other. -/
  | alt (a b : Expr)
  /-- An expression repeated, with the least and, unless there is none, the greatest number of
  rounds. -/
  | loop (least : Nat) (most : Option Nat) (greedy : Bool) (a : Expr)
  /-- A group, and whether it keeps what it matches. -/
  | group (captures : Bool) (a : Expr)
  deriving DecidableEq, Repr

end Pattern

end TypeAncestry
