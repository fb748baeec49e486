import TypeAncestry.Levels
import TypeAncestry.Signature.Error
import TypeAncestry.Signature.Term

/-!
# Reading signatures

A signature is read one lexeme at a time.  What has been read is kept in a state: a stack of the
signatures that are still open, the innermost first, and a focus, the part that is being read now.

* `Reading.State` : what has been read so far.
* `Reading.State.step` : read one lexeme.
* `Reading.ofText` : read a text to its end.
* `TypeTree.ofSignature` : the tree that the text of a signature stands for.
-/

namespace TypeAncestry

namespace Signature

/-- A signature that is still open. -/
inductive Frame where
  /-- A wildcard whose bound is being read. -/
  | bound (b : Bound)
  /-- A name whose arguments are being read; those before the one in focus are kept, the latest
  first. -/
  | arguments (name : Word) (done : List Term)
  deriving Repr

/-- The part of a signature that is being read. -/
inductive Focus where
  /-- A signature has to begin. -/
  | start
  /-- A wildcard has been read, which may have a bound. -/
  | wildcard
  /-- A name has been read, which may have arguments. -/
  | name (n : Word)
  /-- A signature has been read to its closing bracket. -/
  | complete (t : Term)
  deriving Repr

namespace Reading

/-- What has been read so far. -/
structure State where
  /-- The open signatures, the innermost first. -/
  stack : List Frame
  /-- What is being read now. -/
  focus : Focus
  /-- The counter of open brackets. -/
  levels : Levels
  /-- The first misuse of the counter, if there was one. -/
  misuse : Option Misuse
  deriving Repr

namespace State

/-- Nothing has been read. -/
def initial : State := ⟨[], .start, Levels.new Limits.signature.maxDepth, none⟩

/-- Close a bracket in the counter. -/
def closeLevel (s : State) : State :=
  match s.levels.leave with
  | .ok l => { s with levels := l }
  | .error m => { s with misuse := s.misuse.or (some m) }

/-- Read the lexeme `l` behind the complete signature `t`, which is the innermost part of `stack`.
The signature may complete the bounds around it; then it is an argument, or the whole signature. -/
def resume (s : State) (t : Term) (l : Lexeme) : List Frame → Except SignatureError State
  | .bound b :: stack => resume s (.bounded b t) l stack
  | .arguments n ts :: stack =>
    match l.token with
    | .comma => .ok { s with stack := .arguments n (t :: ts) :: stack, focus := .start }
    | .closing =>
      .ok (closeLevel { s with stack := stack, focus := .complete (.named n (t :: ts).reverse) })
    | token => .error (.unexpectedChar token.first l.offset)
  | [] => .error (.trailingInput l.offset)

/-- Read the lexeme `l` where a signature has to begin. -/
def begin (s : State) (l : Lexeme) : Except SignatureError State :=
  match l.token, s.stack with
  | .word w, _ =>
    .ok { s with focus := if w = .wildcard then .wildcard else .name w }
  | .comma, .arguments _ _ :: _ => .error (.emptyArgument l.offset)
  | .closing, .arguments _ _ :: _ => .error (.emptyArgument l.offset)
  | token, _ => .error (.unexpectedChar token.first l.offset)

/-- Read the lexeme `l` behind a wildcard: a bound may follow. -/
def afterWildcard (s : State) (l : Lexeme) : Except SignatureError State :=
  match l.token with
  | .word w =>
    match Bound.ofWord? w with
    | some b => .ok { s with stack := .bound b :: s.stack, focus := .start }
    | none => resume s .wildcard l s.stack
  | _ => resume s .wildcard l s.stack

/-- Read the lexeme `l` behind the name `n`: arguments may follow. -/
def afterName (s : State) (n : Word) (l : Lexeme) : Except SignatureError State :=
  match l.token with
  | .opening =>
    match s.levels.enter? with
    | some levels =>
      .ok { s with stack := .arguments n [] :: s.stack, focus := .start, levels := levels }
    | none => .error (.tooDeep l.offset)
  | _ => resume s (.named n []) l s.stack

/-- Read one lexeme. -/
def step (s : State) (l : Lexeme) : Except SignatureError State :=
  match s.focus with
  | .start => begin s l
  | .wildcard => afterWildcard s l
  | .name n => afterName s n l
  | .complete t => resume s t l s.stack

/-- Read lexemes up to the first fault; the state is the last one before the fault. -/
def run (s : State) : List Lexeme → State × Option SignatureError
  | [] => (s, none)
  | l :: ls =>
    match s.step l with
    | .ok s => run s ls
    | .error e => (s, some e)

/-- The signature that is complete once `t` is, which is the innermost part of the stack; none if a
bracket is open. -/
def finish (t : Term) : List Frame → Option Term
  | [] => some t
  | .bound b :: stack => finish (.bounded b t) stack
  | .arguments _ _ :: _ => none

/-- The signature that has been read, if it may end here. -/
def result? (s : State) : Option Term :=
  match s.focus with
  | .start => none
  | .wildcard => finish .wildcard s.stack
  | .name n => finish (.named n []) s.stack
  | .complete t => finish t s.stack

/-- Close the brackets that are open in a stack, in the counter. -/
def unwind (s : State) : List Frame → State
  | [] => s
  | .bound _ :: stack => unwind s stack
  | .arguments _ _ :: stack => unwind (closeLevel s) stack

end State

end Reading

/-- The result of reading a text. -/
structure Reading where
  /-- The signature, or the first fault. -/
  outcome : Except SignatureError Term
  /-- The counter of open brackets at the end. -/
  levels : Levels
  /-- The first misuse of the counter, if there was one. -/
  misuse : Option Misuse

/-- Read a text.  Brackets that are open at a fault are closed in the counter. -/
def Reading.ofText (text : String) : Reading :=
  let (s, fault) := State.run .initial (Lexeme.ofText text)
  let outcome :=
    match fault, s.result? with
    | some e, _ => .error e
    | none, some t => .ok t
    | none, none => .error (.unexpectedEnd text.utf8ByteSize)
  let s := s.unwind s.stack
  { outcome := outcome, levels := s.levels, misuse := s.misuse.or s.levels.abandon }

end Signature

/-- The tree that the text of a signature stands for. -/
def TypeTree.ofSignature (text : String) : Except SignatureError TypeTree :=
  (Signature.Reading.ofText text).outcome.map (·.denote)

end TypeAncestry
