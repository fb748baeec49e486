import TypeAncestry.Pattern.Machine

/-!
# Tries

Several texts to choose from are kept in a trie, so that texts that begin alike share their first
bytes.  The texts before a given one are preferred to it: a text that ends at a node closes what has
been put there before, and later bytes go into a new part of the node.

* `Pattern.Trie` : tries.
* `Pattern.Trie.insert` : put a text into a trie.
* `Pattern.Trie.build` : the machine for a trie.
-/

namespace TypeAncestry

namespace Pattern

/-- A node of a trie, from the latest of its parts to the first. -/
inductive Trie where
  /-- The end of the node. -/
  | stop
  /-- A byte, the node below it, and the rest of the node.  The bytes of a part are in order. -/
  | arrow (byte : Nat) (below next : Trie)
  /-- A text ends here, behind the parts in `earlier`. -/
  | mark (earlier : Trie)
  deriving DecidableEq, Repr

namespace Trie

/-- No byte leads on from the node. -/
def isLeaf : Trie → Bool
  | stop => true
  | arrow _ _ _ => false
  | mark t => t.isLeaf

/-- The trie of one text. -/
def ofBytes : List Nat → Trie
  | [] => mark stop
  | b :: bs => arrow b (ofBytes bs) stop

/-- Put a text into a trie, behind those that are in it.  Its end need not be marked where nothing
but a mark has been. -/
def insert : List Nat → Trie → Trie
  | [], t => if t = mark stop then t else mark t
  | b :: bs, arrow c below next =>
    if b = c then arrow c (insert bs below) next
    else if b < c then arrow b (ofBytes bs) (arrow c below next)
    else arrow c below (insert (b :: bs) next)
  | b :: bs, t => arrow b (ofBytes bs) t

/-- The trie of several texts. -/
def ofTexts (texts : List (List Nat)) : Trie := texts.foldl (fun t bytes => insert bytes t) stop

/-- Add the state for a part of a node with the given number of bytes.  The fork of the node gets an
arrow to it. -/
def buildPart (bytes : Nat) (m : Machine) : Machine :=
  if bytes = 0 then m
  else if bytes = 1 then (m.add 1).addBranches 1
  else (m.addList bytes).addBranches 1

/-- Build the rest of a node, where `bytes` is the number of bytes before it in the same part.  A
node is a fork to its parts and, where a text ends, to the end; a leaf needs no state. -/
def buildNode (bytes : Nat) : Trie → Machine → Machine
  | stop, m => buildPart bytes m
  | arrow _ below next, m =>
    buildNode (bytes + 1) next (if below.isLeaf then m else (buildNode 0 below m).add 1)
  | mark t, m => buildNode 0 t ((buildPart bytes m).addBranches 1)

/-- Build the machine for a trie: a state for the end, and the nodes. -/
def build (t : Trie) (m : Machine) : Machine := (buildNode 0 t (m.add 1)).add 1

end Trie

end Pattern

end TypeAncestry
