import TypeAncestry.Pattern.Bracket

/-!
# The elements of patterns

A pattern is a sequence of elements: single characters and sets, the two ends of groups, the bars
between alternatives, repetitions of what stands before them, and flags.

* `Pattern.Element` : the elements.
* `Pattern.element?` : read one element.
-/

namespace TypeAncestry

namespace Pattern

/-- An element of a pattern. -/
inductive Element where
  /-- A pattern without parts. -/
  | form (f : Form)
  /-- The start of a group: whether it keeps what it matches, the flags inside it, and its name if
  it has one. -/
  | groupStart (captures : Bool) (change : FlagChange) (name : Option (List Char))
  /-- The end of a group. -/
  | groupEnd
  /-- Flags for the rest of the group. -/
  | flags (change : FlagChange)
  /-- The bar between two alternatives. -/
  | bar
  /-- A repetition of what stands before it; one that is lazy prefers few rounds to many. -/
  | loop (least : Nat) (most : Option Nat) (lazy : Bool)
  deriving Repr

/-! ### Repetitions -/

/-- The greatest number of rounds that can be written. -/
def maxRounds : Nat := 4294967295

/-- Read a number with white space around it. -/
def rounds? (cs : List Char) : Option (Nat × List Char) :=
  let cs := cs.dropWhile Text.isBlank
  let digits := cs.takeWhile Char.isDigit
  let n := digits.foldl (fun n d => n * 10 + (d.toNat - 48)) 0
  if digits.isEmpty || maxRounds < n then none
  else some (n, (cs.dropWhile Char.isDigit).dropWhile Text.isBlank)

/-- The least and the greatest number of rounds, as they stand between braces. -/
def bounds? (cs : List Char) : Option (Nat × Option Nat) :=
  match rounds? cs with
  | some (n, []) => some (n, some n)
  | some (n, [',']) => some (n, none)
  | some (n, ',' :: rest) =>
    match rounds? rest with
    | some (m, []) => if n ≤ m then some (n, some m) else none
    | _ => none
  | _ => none

/-- The repetition with the given numbers of rounds.  It is lazy if a question mark follows. -/
def repetition (least : Nat) (most : Option Nat) : List Char → Element × List Char
  | '?' :: rest => (.loop least most true, rest)
  | cs => (.loop least most false, cs)

/-- Read a repetition with numbers behind its opening brace. -/
def counted? (extended : Bool) (cs : List Char) : Option (Element × List Char) :=
  match braced? extended false cs with
  | some (content, rest) =>
    (bounds? content).map fun (least, most) => repetition least most (skip extended rest)
  | none => none

/-! ### Groups -/

/-- A character that the name of a group may begin with. -/
def isNameStart (c : Char) : Bool := c == '_' || Text.isAlphabetic c

/-- A character that the name of a group may go on with. -/
def isNamePart (c : Char) : Bool :=
  c == '_' || c == '.' || c == '[' || c == ']' || Text.isAlphanumeric c

/-- Read the name of a group and the bracket behind it. -/
def groupName? (cs : List Char) : Option (Element × List Char) :=
  match cs.takeWhile (· != '>'), cs.dropWhile (· != '>') with
  | c :: name, '>' :: rest =>
    if isNameStart c && name.all isNamePart then some (.groupStart true [] (some (c :: name)), rest)
    else none
  | _, _ => none

/-- The flags that letters turn on and, behind a dash, off.  No flag may occur twice, and a dash
only once and not at the end. -/
def flagChange? (on : Bool) (change : FlagChange) : List Char → Option FlagChange
  | [] => some change
  | '-' :: rest => if on && !rest.isEmpty then flagChange? false change rest else none
  | c :: rest =>
    match Flag.ofLetter? c with
    | some f => if (change.get? f).isSome then none else flagChange? on ((f, on) :: change) rest
    | none => none

/-- Read the flags at the start of a group, or for the rest of a group. -/
def groupFlags? (cs : List Char) : Option (Element × List Char) :=
  let isEnd (c : Char) : Bool := c == ':' || c == ')'
  match flagChange? true [] (cs.takeWhile (!isEnd ·)), cs.dropWhile (!isEnd ·) with
  | some change, ':' :: rest => some (.groupStart false change none, rest)
  | some change, ')' :: rest => if change.isEmpty then none else some (.flags change, rest)
  | _, _ => none

/-- Read the start of a group, or flags, behind the opening parenthesis.  Looking ahead and looking
behind are not among the patterns. -/
def group? (extended : Bool) (cs : List Char) : Option (Element × List Char) :=
  match skip extended cs with
  | '?' :: 'P' :: '<' :: rest => groupName? rest
  | '?' :: '<' :: '=' :: _ => none
  | '?' :: '<' :: '!' :: _ => none
  | '?' :: '<' :: rest => groupName? rest
  | '?' :: rest => groupFlags? rest
  | rest => some (.groupStart true [] none, rest)

/-! ### Elements -/

/-- Read one element that begins with the character `c`. -/
def element? (extended : Bool) (c : Char) (cs : List Char) : Option (Element × List Char) :=
  if c = '(' then group? extended cs
  else if c = ')' then some (.groupEnd, cs)
  else if c = '|' then some (.bar, cs)
  else if c = '[' then (bracket? extended cs).map fun (s, rest) => (.form (.set s), rest)
  else if c = '?' then some (repetition 0 (some 1) cs)
  else if c = '*' then some (repetition 0 none cs)
  else if c = '+' then some (repetition 1 none cs)
  else if c = '\x7b' then counted? extended cs
  else if c = '\\' then (escape? extended cs).map fun (a, rest) => (.form a.form, rest)
  else if c = '.' then some (.form .dot, cs)
  else if c = '^' then some (.form (.anchor .caret), cs)
  else if c = '$' then some (.form (.anchor .dollar), cs)
  else some (.form (.literal c false), cs)

end Pattern

end TypeAncestry
