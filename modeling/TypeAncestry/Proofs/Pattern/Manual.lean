import TypeAncestry.Regex

/-!
# Manuals of libraries

What is relied on of a library of regular expressions is what its manual says: which texts are
expressions, which parts of a name they match, and what the two limits on expressions are.  Of the
syntax only a fragment is needed.  A pattern for names is put together from anchors, letters, groups
and alternatives; what stands inside a group may be anything.

* `Regex.Manual` : which texts are expressions, and what they match.
* `Regex.Manual.Overcloses`, `Regex.Manual.EndsInComment` : the two ways in which a text gets at a
  parenthesis that is put behind it.
* `Regex.Part` : the parts that expressions are put together from.
* `Regex.Follows` : a library does what its manual says.
-/

namespace TypeAncestry

namespace Regex

/-- A manual tells which texts are expressions, and what they match. -/
structure Manual where
  /-- The text is an expression. -/
  Valid : String → Prop
  /-- The expression is within the limits on how deeply it nests and how large it is compiled. -/
  Fits : String → Prop
  /-- The names of the groups in the expression. -/
  groupNames : String → List String
  /-- The expression matches the part of a name between two positions. -/
  Spans : String → String → Nat → Nat → Prop

/-- A part of an expression. -/
inductive Part where
  /-- The anchor at the start of a name. -/
  | start
  /-- The anchor at the end of a name. -/
  | finish
  /-- A letter. -/
  | letter (c : Char)
  /-- A group around a text. -/
  | group (p : String)

/-- The text of a part. -/
def Part.text : Part → String
  | .start => "^"
  | .finish => "$"
  | .letter c => .singleton c
  | .group p => "(?:" ++ p ++ ")"

/-- The text of parts that stand one behind the other. -/
def textOf : List Part → String
  | [] => ""
  | part :: parts => part.text ++ textOf parts

namespace Manual

variable (M : Manual)

/-- The text closes a group that it has not opened: a parenthesis behind an expression in it makes
it none. -/
def Overcloses (p : String) : Prop :=
  ∃ before behind, p = before ++ ")" ++ behind ∧ M.Valid before ∧ ¬M.Valid (before ++ ")")

/-- The text is an expression with a parenthesis behind it as well: it ends in a comment, to which
the parenthesis belongs. -/
def EndsInComment (p : String) : Prop := M.Valid p ∧ M.Valid (p ++ ")")

/-- The parenthesis behind the text closes the group around it. -/
structure Closed (p : String) : Prop where
  /-- The group is not closed before. -/
  balanced : ¬M.Overcloses p
  /-- The parenthesis is not in a comment. -/
  read : ¬M.EndsInComment p

/-- Letters are letters, and groups end where they are closed. -/
def Proper : Part → Prop
  | .start | .finish => True
  | .letter c => c.isAlpha = true
  | .group p => M.Closed p

/-- The names of the groups in a part. -/
def namesIn : Part → List String
  | .group p => M.groupNames p
  | _ => []

/-- The parts match one behind the other. -/
def SpansAll : List Part → String → Nat → Nat → Prop
  | [], _, i, j => i = j
  | part :: parts, name, i, j => ∃ k, M.Spans part.text name i k ∧ SpansAll parts name k j

end Manual

/-- A library does what its manual says. -/
structure Follows (R : Regex) (M : Manual) : Prop where
  /-- A text is compiled if it is an expression within the limits; anything else is an error. -/
  isSome_compile? (p : String) : (R.compile? p).isSome ↔ M.Valid p ∧ M.Fits p
  /-- There is a match if the expression matches at some position of the name. -/
  isMatch_iff {p : String} {e : R.Compiled} (h : R.compile? p = some e) (name : String) :
    R.isMatch e name = true ↔ ∃ i ≤ name.length, ∃ j, M.Spans p name i j
  /-- The caret is an expression. -/
  valid_start : M.Valid "^"
  /-- It matches in front of the first character. -/
  spans_start (name : String) (i j : Nat) : M.Spans "^" name i j ↔ i = 0 ∧ j = 0
  /-- The dollar sign is an expression. -/
  valid_finish : M.Valid "$"
  /-- It matches behind the last character. -/
  spans_finish (name : String) (i j : Nat) :
    M.Spans "$" name i j ↔ i = name.length ∧ j = name.length
  /-- A letter is an expression. -/
  valid_letter {c : Char} (h : c.isAlpha = true) : M.Valid (.singleton c)
  /-- It has no groups. -/
  groupNames_letter {c : Char} (h : c.isAlpha = true) : M.groupNames (.singleton c) = []
  /-- It matches itself. -/
  spans_letter {c : Char} (h : c.isAlpha = true) (name : String) (i j : Nat) :
    M.Spans (.singleton c) name i j ↔ name.toList[i]? = some c ∧ j = i + 1
  /-- What stands in a group is an expression by itself. -/
  valid_group {p : String} (h : M.Closed p) : M.Valid ("(?:" ++ p ++ ")") ↔ M.Valid p
  /-- A group matches what stands in it. -/
  spans_group {p : String} (h : M.Closed p) (hvalid : M.Valid p) (name : String) (i j : Nat) :
    M.Spans ("(?:" ++ p ++ ")") name i j ↔ M.Spans p name i j
  /-- Expressions stand one behind the other, and no two groups in them have the same name. -/
  valid_sequence {parts : List Part} (h : ∀ part ∈ parts, M.Proper part) :
    M.Valid (textOf parts) ↔
      (∀ part ∈ parts, M.Valid part.text) ∧ (parts.flatMap M.namesIn).Nodup
  /-- They match one behind the other. -/
  spans_sequence {parts : List Part} (h : ∀ part ∈ parts, M.Proper part)
    (hvalid : M.Valid (textOf parts)) (name : String) (i j : Nat) :
    M.Spans (textOf parts) name i j ↔ M.SpansAll parts name i j
  /-- Expressions are alternatives, if no two groups in them have the same name. -/
  valid_alternatives {left right : List Part} (hleft : ∀ part ∈ left, M.Proper part)
    (hright : ∀ part ∈ right, M.Proper part) (hl : M.Valid (textOf left))
    (hr : M.Valid (textOf right)) (hnames : ((left ++ right).flatMap M.namesIn).Nodup) :
    M.Valid (textOf left ++ "|" ++ textOf right)
  /-- One or the other matches. -/
  spans_alternatives {left right : List Part} (hleft : ∀ part ∈ left, M.Proper part)
    (hright : ∀ part ∈ right, M.Proper part) (hl : M.Valid (textOf left))
    (hr : M.Valid (textOf right)) (hvalid : M.Valid (textOf left ++ "|" ++ textOf right))
    (name : String) (i j : Nat) :
    M.Spans (textOf left ++ "|" ++ textOf right) name i j ↔
      M.Spans (textOf left) name i j ∨ M.Spans (textOf right) name i j
  /-- A parenthesis that closes no group is an error. -/
  not_valid_unopened {parts : List Part} (h : ∀ part ∈ parts, M.Proper part)
    (hvalid : M.Valid (textOf parts)) (behind : String) : ¬M.Valid (textOf parts ++ ")" ++ behind)

/-- A text without closing parentheses closes no group. -/
theorem Manual.not_overcloses {M : Manual} {p : String} (h : ')' ∉ p.toList) : ¬M.Overcloses p := by
  rintro ⟨before, behind, rfl, -, -⟩
  refine h ?_
  rw [String.toList_append, String.toList_append]
  exact List.mem_append_left _ (List.mem_append_right _ (List.mem_singleton_self _))

end Regex

end TypeAncestry
