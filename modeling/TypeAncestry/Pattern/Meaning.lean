import TypeAncestry.Pattern.Assembly
import TypeAncestry.Pattern.Property
import TypeAncestry.Pattern.Reading
import TypeAncestry.Text.CaseFold

/-!
# What patterns mean

Flags decide what the parts of a pattern mean.  They hold from where they stand to the end of the
group, also in the alternatives behind them.

* `Pattern.Flags` : the flags that are on at a place of a pattern.
* `Pattern.ClassSet.chars?` : the characters of a set.
* `Pattern.Form.meaning?` : the regular expression that a pattern stands for.

With the flag `unicode` off a pattern is about bytes.  As the texts are made of characters, only
patterns are allowed that never match a part of a character.
-/

namespace TypeAncestry

namespace Pattern

open Text (CharSet CaseFold)

/-- The flags that are on at a place of a pattern. -/
structure Flags where
  caseless : Bool
  multiLine : Bool
  dotAll : Bool
  swapGreed : Bool
  unicode : Bool
  crlf : Bool
  deriving DecidableEq, Repr

namespace Flags

/-- The flags at the start of a pattern. -/
def initial : Flags := ⟨false, false, false, false, true, false⟩

/-- The flags after a change. -/
def apply (f : Flags) (change : FlagChange) : Flags :=
  { caseless := (change.get? .caseless).getD f.caseless
    multiLine := (change.get? .multiLine).getD f.multiLine
    dotAll := (change.get? .dotAll).getD f.dotAll
    swapGreed := (change.get? .swapGreed).getD f.swapGreed
    unicode := (change.get? .unicode).getD f.unicode
    crlf := (change.get? .crlf).getD f.crlf }

end Flags

/-! ### Sets of characters -/

/-- The two cases of the letters of ASCII. -/
def asciiCases : List CaseFold := [⟨0x41, 0x5A, 1, 32⟩, ⟨0x61, 0x7A, 1, -32⟩]

/-- A set and, where case does not matter, the other cases of its characters. -/
def Flags.widen (f : Flags) (s : CharSet) : CharSet :=
  if !f.caseless then s else if f.unicode then CaseFold.close s else CaseFold.spread asciiCases s

/-- The set, if it is allowed: where a pattern is about bytes, one of characters of ASCII. -/
def Flags.allowed? (f : Flags) (s : CharSet) : Option CharSet :=
  if f.unicode || s.isAscii then some s else none

/-- The result of an operation on two sets. -/
def SetOperation.apply (op : SetOperation) (s t : CharSet) : CharSet :=
  match op with
  | intersection => s.inter t
  | difference => s.diff t
  | symmetricDifference => s.symmDiff t

namespace ClassSet

mutual

/-- The characters of a set, if it is allowed.  Where case does not matter, the other cases join a
set before its complement is taken. -/
def chars? (f : Flags) : ClassSet → Option CharSet
  | empty => some .empty
  | single c => f.allowed? (.single c)
  | range c d => f.allowed? (.range c d)
  | shorthand s negated => f.allowed? ((s.chars f.unicode).complIf negated)
  | ascii a negated => f.allowed? ((f.widen a.chars).complIf negated)
  | property name negated =>
    if f.unicode then
      (Property.named? name).map fun (without, s) => (f.widen s).complIf (negated != without)
    else none
  | bracket negated s => (s.chars? f).bind fun s => f.allowed? ((f.widen s).complIf negated)
  | union sets => charsOfAll? f sets
  | operation op l r =>
    match l.chars? f, r.chars? f with
    | some s, some t => some (op.apply (f.widen s) (f.widen t))
    | _, _ => none

/-- The characters that are in one of several sets. -/
def charsOfAll? (f : Flags) : List ClassSet → Option CharSet
  | [] => some .empty
  | s :: sets =>
    match s.chars? f, charsOfAll? f sets with
    | some s, some t => some (t.union s)
    | _, _ => none

end

end ClassSet

/-- The characters that the dot stands for: all but those that end a line. -/
def Flags.dot (f : Flags) : CharSet :=
  if f.dotAll then .all
  else if f.crlf then CharSet.compl ⟨[(0x0A, 0x0A), (0x0D, 0x0D)]⟩
  else CharSet.compl ⟨[(0x0A, 0x0A)]⟩

/-! ### Places -/

/-- The places that an anchor stands for. -/
def Anchor.place (f : Flags) : Anchor → Place
  | caret => if f.multiLine then .lineStart f.crlf else .textStart
  | dollar => if f.multiLine then .lineEnd f.crlf else .textEnd
  | textStart => .textStart
  | textEnd => .textEnd
  | word w => .word w f.unicode

/-! ### Patterns -/

namespace Form

mutual

/-- The regular expression that a pattern stands for, if it has a meaning, and the flags behind it;
`f` are the flags in front of it. -/
def meaning? (f : Flags) : Form → Option (Expr × Flags)
  | empty => some (.empty, f)
  | flags change => some (.empty, f.apply change)
  | literal c byte =>
    if f.unicode || !byte || c.toNat < 0x80 then some (.one (f.widen (.single c)), f) else none
  | dot => if f.unicode then some (.one f.dot, f) else none
  | anchor a => some (.place (a.place f), f)
  | set s =>
    match s.chars? f with
    | some s => some (.one s, f)
    | none => none
  | loop least most lazy a =>
    match a.meaning? f with
    | some (e, f) => some (.loop least most (lazy == f.swapGreed) e, f)
    | none => none
  | group captures change a =>
    match a.meaning? (f.apply change) with
    | some (e, _) => some (.group captures e, f)
    | none => none
  | alternation fs => alternatives? f fs
  | concat fs => sequence? f fs

/-- The expression for one of several patterns. -/
def alternatives? (f : Flags) : List Form → Option (Expr × Flags)
  | [] => none
  | [a] => a.meaning? f
  | a :: fs =>
    match a.meaning? f with
    | some (e, f) =>
      match alternatives? f fs with
      | some (e', f) => some (.alt e e', f)
      | none => none
    | none => none

/-- The expression for patterns one after the other. -/
def sequence? (f : Flags) : List Form → Option (Expr × Flags)
  | [] => some (.empty, f)
  | a :: fs =>
    match a.meaning? f with
    | some (e, f) =>
      match sequence? f fs with
      | some (e', f) => some (.seq e e', f)
      | none => none
    | none => none

end

end Form

/-- The regular expression in a text, if there is one and it is not too large. -/
def Expr.ofText? (cs : List Char) : Option Expr :=
  match (Form.ofText? cs).bind (·.meaning? .initial) with
  | some (e, _) => if e.fits then some e else none
  | none => none

end Pattern

end TypeAncestry
