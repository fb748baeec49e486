import TypeAncestry.Limits
import TypeAncestry.Misuse

/-!
# Guards against endless recursion

A guard watches a recursion whose calls are told apart by keys.  A call enters the guard with its
key before it starts and leaves it with the same key when it is done.  The guard refuses a call
whose key is active already, and calls beyond its limits.

* `Guard` : the state of a guard.
* `Guard.enter` : ask to start a call; `Entry` is the answer.
* `Guard.leave` : report that a call is done.
* `Guard.abandon` : the check made when the guard is given up.
-/

namespace TypeAncestry

/-- The answer of a guard to a call that wants to start. -/
inductive Entry where
  /-- The call may start. -/
  | entered
  /-- The same call is active already. -/
  | cycle
  /-- Too many calls are active. -/
  | depthExceeded
  /-- Too many calls have been tried. -/
  | stepsExceeded
  deriving DecidableEq, Repr

/-- The name of an answer in reports. -/
def Entry.label : Entry → String
  | entered => "Entered"
  | cycle => "Cycle"
  | depthExceeded => "DepthExceeded"
  | stepsExceeded => "IterationExceeded"

/-- A guard for calls with keys in `K`. -/
structure Guard (K : Type) where
  /-- The limits it enforces. -/
  limits : Limits
  /-- The keys of the calls that have been entered and not left, the latest first. -/
  active : List K
  /-- How many calls are active. -/
  depth : Nat
  /-- How many calls have been tried; the count stops at the greatest 32-bit number. -/
  steps : Nat
  /-- A call was refused because of a limit. -/
  truncated : Bool
  deriving DecidableEq, Repr

namespace Guard

/-- The number at which the count of tried calls stops. -/
def stepsCap : Nat := 4294967295

/-- A guard that has seen no call. -/
def new {K : Type} (limits : Limits) : Guard K := ⟨limits, [], 0, 0, false⟩

variable {K : Type} [DecidableEq K]

/-- Ask to start the call with key `k`.  The limit on steps is checked first, then the limit on
depth, then whether the key is active. -/
def enter (g : Guard K) (k : K) : Entry × Guard K :=
  let g := { g with steps := min (g.steps + 1) stepsCap }
  if g.limits.maxSteps.toNat < g.steps then (.stepsExceeded, { g with truncated := true })
  else if g.limits.maxDepth.toNat ≤ g.depth then (.depthExceeded, { g with truncated := true })
  else if k ∈ g.active then (.cycle, g)
  else (.entered, { g with active := k :: g.active, depth := g.depth + 1 })

/-- Report that the call with key `k` is done; the key has to be active. -/
def leave (g : Guard K) (k : K) : Except Misuse (Guard K) :=
  if k ∈ g.active then .ok { g with active := g.active.erase k, depth := g.depth - 1 }
  else .error .leftInactive

/-- The check made when the guard is given up: no key may be active. -/
def abandon (g : Guard K) : Option Misuse :=
  if g.active.isEmpty then none else some (.guardAbandoned g.active.length)

end Guard

end TypeAncestry
