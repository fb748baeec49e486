import TypeAncestry.Pattern.Expr
import TypeAncestry.Text.Utf8

/-!
# Plans

A plan is a regular expression in the form in which a machine is built for it: texts are put
together, sets of single characters become one set, alternatives and sequences are flat, and what
alternatives begin with alike is written once.

* `Pattern.Plan` : plans.
* `Pattern.Expr.plan` : the plan of an expression.
* `Pattern.Plan.isVoid`, `Pattern.Plan.minLength?` : bounds on the length of the texts that match.
* `Pattern.Plan.begins`, `Pattern.Plan.ends` : a match begins or ends at a certain place.
-/

namespace TypeAncestry

namespace Pattern

open Text (CharSet)

/-- A regular expression in the form in which a machine is built for it. -/
inductive Plan where
  /-- Nothing. -/
  | empty
  /-- A text, which is not empty. -/
  | text (cs : List Char)
  /-- One character of a set. -/
  | one (s : CharSet)
  /-- A place. -/
  | place (p : Place)
  /-- A repetition, with the least and, unless there is none, the greatest number of rounds. -/
  | loop (least : Nat) (most : Option Nat) (greedy : Bool) (a : Plan)
  /-- A group that keeps what it matches. -/
  | group (a : Plan)
  /-- Plans one after the other. -/
  | seq (ps : List Plan)
  /-- One of several plans. -/
  | alt (ps : List Plan)
  deriving Repr

namespace Plan

/-! ### Properties -/

mutual

/-- Two plans are the same.  Groups keep what they match apart from each other, so no two of them
are the same. -/
def same : Plan → Plan → Bool
  | empty, empty => true
  | text cs, text ds => cs == ds
  | one s, one t => s == t
  | place p, place q => p == q
  | loop n m g a, loop n' m' g' b => n == n' && m == m' && g == g' && same a b
  | seq ps, seq qs => sameAll ps qs
  | alt ps, alt qs => sameAll ps qs
  | _, _ => false

/-- The plans in two lists are the same, one by one. -/
def sameAll : List Plan → List Plan → Bool
  | [], [] => true
  | p :: ps, q :: qs => same p q && sameAll ps qs
  | _, _ => false

end

mutual

/-- The plan matches empty texts only. -/
def isVoid : Plan → Bool
  | empty | place _ => true
  | text _ | one _ => false
  | loop _ most _ a => a.isVoid || most == some 0
  | group a => a.isVoid
  | seq ps => areVoid ps
  | alt ps => areVoid ps

/-- All plans in a list match empty texts only. -/
def areVoid : List Plan → Bool
  | [] => true
  | p :: ps => p.isVoid && areVoid ps

end

mutual

/-- The least number of characters in a text that matches.  There is none if the plan, or a part of
it that counts, is a set without characters. -/
def minLength? : Plan → Option Nat
  | empty | place _ => some 0
  | text cs => some cs.length
  | one s => if s.isEmpty then none else some 1
  | loop least _ _ a => a.minLength?.map (least * ·)
  | group a => a.minLength?
  | seq ps => sumLengths? ps
  | alt ps => leastLength? ps

/-- The sum of the least numbers of characters. -/
def sumLengths? : List Plan → Option Nat
  | [] => some 0
  | p :: ps =>
    match p.minLength?, sumLengths? ps with
    | some n, some m => some (n + m)
    | _, _ => none

/-- The smallest of the least numbers of characters. -/
def leastLength? : List Plan → Option Nat
  | [] => none
  | [p] => p.minLength?
  | p :: ps =>
    match p.minLength?, leastLength? ps with
    | some n, some m => some (min n m)
    | _, _ => none

end

mutual

/-- Every match begins at the given place, as the first parts of the plan ask for it. -/
def begins (q : Place) : Plan → Bool
  | place p => p == q
  | loop least _ _ a => least != 0 && a.begins q
  | group a => a.begins q
  | seq ps => firstBegins q ps
  | alt ps => allBegin q ps
  | _ => false

/-- One of the first plans in a list, of those that match empty texts only and the one behind them,
begins at the given place. -/
def firstBegins (q : Place) : List Plan → Bool
  | [] => false
  | p :: ps => p.begins q || (p.isVoid && firstBegins q ps)

/-- All plans in a list begin at the given place. -/
def allBegin (q : Place) : List Plan → Bool
  | [] => true
  | p :: ps => p.begins q && allBegin q ps

end

mutual

/-- Every match ends at the given place, as the last parts of the plan ask for it. -/
def ends (q : Place) : Plan → Bool
  | place p => p == q
  | loop least _ _ a => least != 0 && a.ends q
  | group a => a.ends q
  | seq ps => lastEnds q ps
  | alt ps => allEnd q ps
  | _ => false

/-- One of the last plans in a list, of those that match empty texts only and the one before them,
ends at the given place. -/
def lastEnds (q : Place) : List Plan → Bool
  | [] => false
  | p :: ps => lastEnds q ps || (areVoid ps && p.ends q)

/-- All plans in a list end at the given place. -/
def allEnd (q : Place) : List Plan → Bool
  | [] => true
  | p :: ps => p.ends q && allEnd q ps

end

/-! ### Sequences -/

/-- The plan for one character of a set; a set of just one character is a text. -/
def ofSet (s : CharSet) : Plan :=
  match s.single? with
  | some c => text [c]
  | none => one s

/-- The plans that a plan consists of, one after the other. -/
def parts : Plan → List Plan
  | empty => []
  | seq ps => ps
  | p => [p]

/-- Plans one after the other; a single one stands for itself. -/
def ofParts : List Plan → Plan
  | [] => empty
  | [p] => p
  | ps => seq ps

/-- Put a plan in front of others.  Two texts become one. -/
def push : Plan → List Plan → List Plan
  | text cs, text ds :: ps => text (cs ++ ds) :: ps
  | p, ps => p :: ps

/-- One plan after the other. -/
def followedBy (a b : Plan) : Plan := ofParts (a.parts.foldr push b.parts)

/-! ### Repetitions -/

/-- A plan repeated.  What matches empty texts only need not be repeated. -/
def repeated (least : Nat) (most : Option Nat) (greedy : Bool) (a : Plan) : Plan :=
  let (least, most) :=
    if a.isVoid then (min least 1, some (min (most.getD 1) 1)) else (least, most)
  if least = 0 ∧ most = some 0 then empty
  else if least = 1 ∧ most = some 1 then a
  else loop least most greedy a

/-! ### Alternatives -/

/-- The plans that a plan chooses from. -/
def choices : Plan → List Plan
  | alt ps => ps
  | p => [p]

/-- The set of the characters that the plans stand for, if each of them is a text of one
character. -/
def singles? : List Plan → Option CharSet
  | [] => some .empty
  | text [c] :: ps => (singles? ps).map (CharSet.union · (.single c))
  | _ => none

/-- The union of the sets that the plans stand for, if each of them is a set. -/
def sets? : List Plan → Option CharSet
  | [] => some .empty
  | one s :: ps => (sets? ps).map (CharSet.union · s)
  | _ => none

/-- One of several plans; single characters become a set, and sets become one set. -/
def choice : List Plan → Plan
  | [p] => p
  | ps =>
    match singles? ps, sets? ps with
    | some s, _ => ofSet s
    | none, some s => ofSet s
    | none, none => alt ps

/-- The parts of plans of which each is a sequence. -/
def sequences? : List Plan → Option (List (List Plan))
  | [] => some []
  | seq qs :: ps => (sequences? ps).map (qs :: ·)
  | _ => none

/-- How many plans two lists have in common from their starts. -/
def commonLength : List Plan → List Plan → Nat
  | p :: ps, q :: qs => if same p q then commonLength ps qs + 1 else 0
  | _, _ => 0

/-- One of several plans.  If all of them are sequences that begin with the same plans, these are
put in front of the choice. -/
def ofChoices (ps : List Plan) : Plan :=
  match choice ps, sequences? ps with
  | alt _, some (first :: rest) =>
    let n := rest.foldl (fun n qs => min n (commonLength first qs)) first.length
    if n = 0 then alt ps
    else
      followedBy (ofParts (first.take n))
        (choice ((first :: rest).flatMap fun qs => (ofParts (qs.drop n)).choices))
  | p, _ => p

end Plan

/-! ### The plan of an expression -/

/-- The plans of the alternatives that an expression consists of. -/
def Expr.plans : Expr → List Plan
  | empty => [.empty]
  | one s => [.ofSet s]
  | place p => [.place p]
  | seq a b => (Plan.followedBy (.ofChoices a.plans) (.ofChoices b.plans)).choices
  | alt a b => (Plan.ofChoices a.plans).choices ++ b.plans
  | loop least most greedy a => (Plan.repeated least most greedy (.ofChoices a.plans)).choices
  | group captures a =>
    if captures then [.group (.ofChoices a.plans)] else (Plan.ofChoices a.plans).choices

/-- The plan of an expression. -/
def Expr.plan (e : Expr) : Plan := .ofChoices e.plans

end Pattern

end TypeAncestry
