import TypeAncestry.Filters
import TypeAncestry.Pattern.Matching
import TypeAncestry.Pattern.Meaning

/-!
# A library of regular expressions

* `Pattern.library` : the library of the expressions in this folder.
* `NamePattern.ofText?`, `Filters.ofTexts` : patterns for names and filters that it makes of texts.
-/

namespace TypeAncestry

/-- The library that reads texts as `Pattern.Expr` and matches them on sets of positions. -/
def Pattern.library : Regex where
  Compiled := Pattern.Expr
  compile? text := Pattern.Expr.ofText? text.toList
  isMatch e text := e.isMatch text.toList

/-- The pattern for names in a text, if there is one. -/
def NamePattern.ofText? (source : String) : Option NamePattern :=
  NamePattern.compile? Pattern.library source

/-- The filters with patterns in texts that may be missing, or the first text that is no pattern. -/
def Filters.ofTexts (superType parameter interface argument : Option String) :
    Except String Filters :=
  Filters.compile Pattern.library superType parameter interface argument

end TypeAncestry
