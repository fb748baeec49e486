/-!
# Libraries of regular expressions

Patterns for names are regular expressions.  A library compiles the texts of such expressions and
matches what it has compiled; nothing else is asked of it.

* `Regex` : the libraries.
-/

namespace TypeAncestry

/-- A library of regular expressions. -/
structure Regex where
  /-- What it makes of the texts of expressions. -/
  Compiled : Type
  /-- Compile a text; `none` if it is not an expression, or one that is too large. -/
  compile? : String → Option Compiled
  /-- Some part of a text matches. -/
  isMatch : Compiled → String → Bool

end TypeAncestry
