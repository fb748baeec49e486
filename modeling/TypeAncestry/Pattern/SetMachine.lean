import Std.Data.HashMap
import TypeAncestry.Pattern.Machine
import TypeAncestry.Text.Utf8

/-!
# Machines for sets of characters

A machine that reads bytes needs many states for a set of characters.  States that do the same are
built once as long as they are remembered.  A memory has a fixed number of slots; what is to be
remembered goes into the slot that its digest names and replaces what has been there.  The digests
depend on the numbers of states, so the size of such a machine depends on the place where it stands.

* `Pattern.Memory` : what is remembered.
* `Pattern.Machine.addSet` : the machine for a set, for reading forwards or backwards.

Forwards, the sequences of ranges of bytes are put in order into a tree of which only the branch of
the latest sequence is still open.  A state is built when its branch is closed.  Backwards, each
sequence is built from its first byte, and joins a state that is remembered wherever it can.
-/

namespace TypeAncestry

namespace Pattern

open Text (CharSet)
open Text.Utf8 (ByteRange)

/-! ### Remembering states -/

/-- States by what they do. -/
structure Memory (α : Type) where
  /-- What the slots hold that are not empty. -/
  slots : Std.HashMap Nat (α × Nat)

namespace Memory

/-- The digest of a list of numbers: each number is mixed in by an exclusive or and a
multiplication, in words of 64 bits. -/
def digest (ns : List Nat) : UInt64 :=
  ns.foldl (fun h n => (h ^^^ UInt64.ofNat n) * 1099511628211) 14695981039346656037

/-- The slot for a list of numbers among `count` slots. -/
def slot (count : Nat) (ns : List Nat) : Nat := (digest ns).toNat % count

variable {α : Type} [DecidableEq α]

/-- Nothing is remembered. -/
def empty : Memory α := ⟨∅⟩

/-- The state for a key in the given slot, if it is remembered. -/
def find? (memory : Memory α) (slot : Nat) (key : α) : Option Nat :=
  match memory.slots[slot]? with
  | some (k, state) => if k = key then some state else none
  | none => none

/-- Remember a state. -/
def put (memory : Memory α) (slot : Nat) (key : α) (state : Nat) : Memory α :=
  ⟨memory.slots.insert slot (key, state)⟩

end Memory

/-! ### Reading forwards -/

/-- An arrow of a state: a range of bytes and the state behind it. -/
structure Arrow where
  range : ByteRange
  target : Nat
  deriving DecidableEq, Repr

/-- The numbers of which the digest of a list of arrows is made. -/
def Arrow.numbers (arrows : List Arrow) : List Nat :=
  arrows.flatMap fun a => [a.range.first, a.range.last, a.target]

/-- A machine whose states are remembered by what they do. -/
structure Shared (α : Type) where
  machine : Machine
  memory : Memory α

/-- The number of slots for reading forwards. -/
def forwardSlots : Nat := 10000

/-- A node on the open branch: its arrows, the latest first, and the range of bytes that leads to
the next node. -/
structure OpenNode where
  closed : List Arrow
  range : ByteRange
  deriving Repr

namespace Shared

/-- The number of a state with the given arrows, which is built if it is not remembered. -/
def state (arrows : List Arrow) (m : Shared (List Arrow)) : Nat × Shared (List Arrow) :=
  let slot := Memory.slot forwardSlots (Arrow.numbers arrows)
  match m.memory.find? slot arrows with
  | some n => (n, m)
  | none =>
    let n := m.machine.states
    (n, ⟨m.machine.addList arrows.length, m.memory.put slot arrows n⟩)

/-- Close a branch that leads to the state `target`, from its far end. -/
def close (target : Nat) : List OpenNode → Shared (List Arrow) → Nat × Shared (List Arrow)
  | [], m => (target, m)
  | node :: branch, m =>
    let (n, m) := close target branch m
    state (node.closed.reverse ++ [⟨node.range, n⟩]) m

/-- Put a sequence into the tree.  The ranges that it shares with the open branch stay open. -/
def insert (target : Nat) : List OpenNode → List ByteRange → Shared (List Arrow) →
    List OpenNode × Shared (List Arrow)
  | node :: branch, r :: rs, m =>
    if node.range = r then
      let (branch, m) := insert target branch rs m
      (node :: branch, m)
    else
      let (n, m) := close target branch m
      (⟨⟨node.range, n⟩ :: node.closed, r⟩ :: rs.map (⟨[], ·⟩), m)
  | _, rs, m => (rs.map (⟨[], ·⟩), m)

end Shared

/-- Build the machine that reads one character of a set forwards. -/
def Machine.addForward (s : CharSet) (m : Machine) : Machine :=
  let target := m.states
  let (branch, m) := (Text.Utf8.ofCharSet s).foldl
    (fun (branch, m) rs => Shared.insert target branch rs m) ([], ⟨m.add 1, .empty⟩)
  (Shared.close target branch m).2.machine

/-! ### Reading backwards -/

/-- The number of slots for reading backwards. -/
def backwardSlots : Nat := 1000

namespace Shared

/-- The number of a state that reads a byte of the given range and goes on to a given state; it is
built if it is not remembered. -/
def step (target : Nat) (range : ByteRange) (m : Shared Arrow) : Nat × Shared Arrow :=
  let slot := Memory.slot backwardSlots [target, range.first, range.last]
  match m.memory.find? slot ⟨range, target⟩ with
  | some n => (n, m)
  | none =>
    let n := m.machine.states
    (n, ⟨m.machine.add 1, m.memory.put slot ⟨range, target⟩ n⟩)

/-- The state that reads a sequence of ranges from its end, with an arrow to it from the fork at the
start. -/
def steps (target : Nat) : List ByteRange → Shared Arrow → Shared Arrow
  | [], m => { m with machine := m.machine.addBranches 1 }
  | r :: rs, m =>
    let (n, m) := step target r m
    steps n rs m

end Shared

/-- Build the machine that reads one character of a set backwards: a fork, the end, and what lies
between them. -/
def Machine.addBackward (s : CharSet) (m : Machine) : Machine :=
  let target := m.states + 1
  ((Text.Utf8.ofCharSet s).foldl (fun m rs => Shared.steps target rs m)
    ⟨m.add 2, .empty⟩).machine

/-- Build the machine that reads one character of a set.  For ASCII this is a list of arrows and the
state behind it. -/
def Machine.addSet (backward : Bool) (s : CharSet) (m : Machine) : Machine :=
  if s.isAscii then (m.add 1).addList s.intervals.length
  else if backward then m.addBackward s
  else m.addForward s

end Pattern

end TypeAncestry
