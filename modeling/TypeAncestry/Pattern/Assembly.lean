import TypeAncestry.Pattern.Plan
import TypeAncestry.Pattern.SetMachine
import TypeAncestry.Pattern.Trie

/-!
# Machines for expressions

Two machines are built for an expression: one reads a text forwards and notes what groups match, the
other reads it backwards.

* `Pattern.Plan.build` : the machine for a plan.
* `Pattern.Expr.fits` : no machine for an expression is too large.

The parts of a machine are joined by arrows.  Those that leave a fork take space; so it counts which
parts end with one, as repetitions without an upper bound do.
-/

namespace TypeAncestry

namespace Pattern

namespace Plan

/-- Every text that matches has a character, and the lengths of the parts do not rule out all of
them. -/
def isSolid (p : Plan) : Bool := p.minLength?.any (0 < ·)

mutual

/-- The machine for the plan ends with a fork. -/
def endsOpen (backward : Bool) : Plan → Bool
  | loop 0 none _ a => a.isSolid
  | loop _ none _ _ => true
  | loop least (some most) _ a => least == most && a.endsOpen backward
  | group a => backward && a.endsOpen backward
  | seq ps => if backward then firstEndsOpen backward ps else lastEndsOpen backward ps
  | _ => false

/-- The machine for the first plan in a list ends with a fork. -/
def firstEndsOpen (backward : Bool) : List Plan → Bool
  | [] => false
  | p :: _ => p.endsOpen backward

/-- The machine for the last plan in a list ends with a fork. -/
def lastEndsOpen (backward : Bool) : List Plan → Bool
  | [] => false
  | [p] => p.endsOpen backward
  | _ :: ps => lastEndsOpen backward ps

end

/-- The number of branches that joining the machine for a plan to the next part takes. -/
def joint (backward : Bool) (p : Plan) : Nat := (p.endsOpen backward).toNat

/-- The number of branches that joining the machines for plans to the next parts takes. -/
def joints (backward : Bool) (ps : List Plan) : Nat :=
  ps.foldl (fun n p => n + joint backward p) 0

/-- The texts that plans stand for, if all of them are texts. -/
def texts? : List Plan → Option (List (List Char))
  | [] => some []
  | text cs :: ps => (texts? ps).map (cs :: ·)
  | _ => none

/-- The trie of several texts, in the order in which their bytes are read. -/
def trie (backward : Bool) (texts : List (List Char)) : Trie :=
  .ofTexts (texts.map fun cs =>
    let bytes := Text.Utf8.encodeAll cs
    if backward then bytes.reverse else bytes)

/-- Build the machine for a repetition of a part, which is built by `build`, takes `joint` branches
to be joined, and matches no empty text if it is `solid`. -/
def buildLoop (build : Machine → Machine) (joint : Nat) (solid : Bool) (least : Nat)
    (most : Option Nat) (m : Machine) : Machine :=
  match least, most with
  | 0, some 1 => ((build (m.add 1)).add 1).addBranches (2 + joint)
  | 0, none =>
    if solid then (build (m.add 1)).addBranches (1 + joint)
    else ((build m).add 3).addBranches (4 + joint)
  | n, none => ((m.copies build n).add 1).addBranches (1 + n * joint)
  | n, some k =>
    if n = k then (m.copies build n).addBranches ((n - 1) * joint)
    else
      let m := if n = 0 then m.add 1 else m.copies build n
      ((m.add 1).copies (fun m => build ((m.add 1).addBranches 2)) (k - n)).addBranches (k * joint)

mutual

/-- Build the machine for a plan. -/
def build (backward : Bool) : Plan → Machine → Machine
  | empty, m => m.add 1
  | place _, m => m.add 1
  | text cs, m => m.add (Text.Utf8.encodeAll cs).length
  | one s, m => m.addSet backward s
  | loop least most _ a, m =>
    buildLoop (a.build backward) (a.joint backward) a.isSolid least most m
  | group a, m =>
    if backward then a.build backward m
    else ((a.build backward (m.add 1)).add 1).addBranches (a.joint backward)
  | seq ps, m =>
    (buildAll backward ps m).addBranches (joints backward ps - joint backward (seq ps))
  | alt ps, m =>
    match texts? ps with
    | some texts => (trie backward texts).build m
    | none => (buildEach backward 0 ps m).addBranches (ps.length + joints backward ps)

/-- Build the machines for plans that follow one another, in the order in which they are read. -/
def buildAll (backward : Bool) : List Plan → Machine → Machine
  | [], m => m
  | p :: ps, m =>
    if backward then p.build backward (buildAll backward ps m)
    else buildAll backward ps (p.build backward m)

/-- Build the machines for alternatives of which `done` have been built.  The fork in front of them
and the end behind them are built after the second one. -/
def buildEach (backward : Bool) (done : Nat) : List Plan → Machine → Machine
  | [], m => m
  | p :: ps, m =>
    let m := p.build backward m
    buildEach backward (done + 1) ps (if done = 1 then m.add 2 else m)

end

/-- The whole machine.  Unless every match begins where the machine begins to read, it starts with a
loop that passes over any bytes.  Forwards, the text that matches as a whole is noted. -/
def machine (backward : Bool) (p : Plan) : Machine :=
  let anchored := if backward then p.ends .textEnd else p.begins .textStart
  let m :=
    if anchored then Machine.initial.add 1
    else ((Machine.initial.add 2).addList 1).addBranches 2
  let m := if backward then p.build backward m else (p.build backward (m.add 1)).add 1
  (m.add 1).addBranches (p.joint backward)

end Plan

/-- No machine for the expression is too large. -/
def Expr.fits (e : Expr) : Bool :=
  let p := e.plan
  !(p.machine false).isTooLarge && !(p.machine true).isTooLarge

end Pattern

end TypeAncestry
