import TypeAncestry.Regex
import TypeAncestry.Text.Quoted
import TypeAncestry.Tree

/-!
# Patterns for names

A pattern for names is a regular expression that is to match whole names: its text is put between
`^(?:` and `)$`.  The two anchors are put in before the text is read, so they bind only what the
text leaves to them.

* `NamePattern` : the patterns for names.
* `NamePattern.compile?` : the pattern that a library makes of a text, if it makes one.
-/

namespace TypeAncestry

/-- A pattern for names. -/
structure NamePattern where
  /-- Its text. -/
  source : String
  /-- A name matches the pattern, by what the library has made of the text between the anchors. -/
  isMatch : String → Bool

namespace NamePattern

/-- The text of a pattern between anchors. -/
def anchored (source : String) : String := "^(?:" ++ source ++ ")$"

/-- The pattern that a library makes of a text, if it makes one. -/
def compile? (regex : Regex) (source : String) : Option NamePattern :=
  (regex.compile? (anchored source)).map fun e => ⟨source, regex.isMatch e⟩

/-- Patterns are told apart by their texts. -/
def same (p q : NamePattern) : Bool := p.source == q.source

/-- A pattern as it is shown in reports. -/
def describe (p : NamePattern) : String := "NamePattern(" ++ Text.quoted p.source ++ ")"

end NamePattern

namespace TypeTree

/-- The first subtree in preorder whose name matches a pattern. -/
def firstMatching? (p : NamePattern) (t : TypeTree) : Option TypeTree := t.find? p.isMatch

end TypeTree

end TypeAncestry
