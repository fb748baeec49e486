/-!
# Misuse of guards

A guard is entered and left in pairs, and is given up only when everything entered has been left.
Breaking one of these rules is a fault of the program that uses the guard.

* `Misuse` : the ways to break them.
* `Misuse.message` : how each is reported.
-/

namespace TypeAncestry

/-- A rule for the use of guards that was broken. -/
inductive Misuse where
  /-- A key was left that is not active. -/
  | leftInactive
  /-- A guard was given up with this many active keys. -/
  | guardAbandoned (active : Nat)
  /-- A level was left while none was open. -/
  | leftOutermost
  /-- A level counter was given up with this many open levels. -/
  | levelsAbandoned (levels : Nat)
  deriving DecidableEq, Repr

/-- The report of a broken rule. -/
def Misuse.message : Misuse → String
  | leftInactive => "RecursionGuard::leave without a matching enter"
  | guardAbandoned n => "RecursionGuard dropped with " ++ toString n ++ " keys still entered"
  | leftOutermost => "DepthCounter::leave at depth 0"
  | levelsAbandoned n => "DepthCounter dropped at depth " ++ toString n

end TypeAncestry
