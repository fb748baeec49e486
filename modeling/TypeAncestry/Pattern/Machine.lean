/-!
# Machines

A pattern is turned into a machine that reads the bytes of a text.  The states of a machine are
numbered in the order in which they are built.  Only its size matters here: a pattern is refused if
its machine is too large.

* `Pattern.Machine` : what has been built of a machine.
* `Pattern.Machine.size`, `Pattern.Machine.isTooLarge` : its size in bytes, and the limit.
* `Pattern.Machine.add` : add states.
* `Pattern.Machine.copies` : build the same part several times.

A state of any kind takes `stateSize` bytes.  A state with a list of arrows, each of which has a
range of bytes and a target, takes `arrowSize` bytes more for each of them, and a fork, whose arrows
have a target only, `branchSize` bytes.
-/

namespace TypeAncestry

namespace Pattern

/-- What has been built of a machine. -/
structure Machine where
  /-- The number of states. -/
  states : Nat
  /-- The bytes that the arrows in lists and forks take. -/
  arrows : Nat
  deriving DecidableEq, Repr

/-- The size of a state. -/
def stateSize : Nat := 32

/-- The size of an arrow in a list. -/
def arrowSize : Nat := 8

/-- The size of an arrow of a fork. -/
def branchSize : Nat := 4

namespace Machine

/-- No state has been built. -/
def initial : Machine := ⟨0, 0⟩

/-- The size in bytes. -/
def size (m : Machine) : Nat := m.states * stateSize + m.arrows

/-- The greatest size of a machine: ten mebibytes. -/
def maxSize : Nat := 10 * 1024 * 1024

/-- The machine is larger than is allowed.  It stays so, whatever is added to it. -/
def isTooLarge (m : Machine) : Bool := maxSize < m.size

/-- Add states. -/
def add (m : Machine) (states : Nat) : Machine := { m with states := m.states + states }

/-- Add a state with a list of arrows. -/
def addList (m : Machine) (arrows : Nat) : Machine :=
  ⟨m.states + 1, m.arrows + arrows * arrowSize⟩

/-- Add arrows to forks. -/
def addBranches (m : Machine) (branches : Nat) : Machine :=
  { m with arrows := m.arrows + branches * branchSize }

/-- Build the same part several times, unless the machine has become too large. -/
def copies (build : Machine → Machine) : Nat → Machine → Machine
  | 0, m => m
  | n + 1, m => if m.isTooLarge then m else copies build n (build m)

end Machine

end Pattern

end TypeAncestry
