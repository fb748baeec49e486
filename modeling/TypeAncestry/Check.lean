import TypeAncestry.Check.Basic
import TypeAncestry.Pattern.Library

/-!
# Checking types

All that it takes to check types against signatures: the checks, and a library of regular
expressions for the patterns of filters.
-/
