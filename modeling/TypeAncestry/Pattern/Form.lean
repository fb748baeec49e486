/-!
# The written form of patterns

A pattern is a regular expression.  This is what its text says, before flags are taken into account.

* `Pattern.Flag`, `Pattern.FlagChange` : flags, and turning them on and off.
* `Pattern.ClassSet` : sets of characters as they are written.
* `Pattern.Form` : patterns as they are written.
* `Pattern.Form.depth` : how deeply a pattern nests, which is limited by `Pattern.maxDepth`.
-/

namespace TypeAncestry

namespace Pattern

/-- The flags that change how a pattern is understood. -/
inductive Flag where
  /-- Letters stand for both of their cases. -/
  | caseless
  /-- The anchors look at lines instead of the whole text. -/
  | multiLine
  /-- The dot stands for the end of a line as well. -/
  | dotAll
  /-- Repetitions prefer few rounds to many. -/
  | swapGreed
  /-- The pattern is about characters and not about bytes. -/
  | unicode
  /-- A carriage return ends a line as well. -/
  | crlf
  /-- White space and comments in the pattern are passed over. -/
  | extended
  deriving DecidableEq, Repr

/-- The flag with the given letter. -/
def Flag.ofLetter? (c : Char) : Option Flag :=
  if c = 'i' then some .caseless
  else if c = 'm' then some .multiLine
  else if c = 's' then some .dotAll
  else if c = 'U' then some .swapGreed
  else if c = 'u' then some .unicode
  else if c = 'R' then some .crlf
  else if c = 'x' then some .extended
  else none

/-- Flags that are turned on or off. -/
abbrev FlagChange := List (Flag × Bool)

/-- The value of a flag after a change, if the change is about it. -/
def FlagChange.get? (change : FlagChange) (f : Flag) : Option Bool := change.lookup f

/-- The classes of characters with a letter of their own. -/
inductive Shorthand where
  | digit
  | space
  | word
  deriving DecidableEq, Repr

/-- The classes of ASCII characters with a name. -/
inductive AsciiClass where
  | alnum
  | alpha
  | ascii
  | blank
  | cntrl
  | digit
  | graph
  | lower
  | print
  | punct
  | space
  | upper
  | word
  | xdigit
  deriving DecidableEq, Repr

/-- The ASCII class with the given name. -/
def AsciiClass.ofName? (name : List Char) : Option AsciiClass :=
  [("alnum", alnum), ("alpha", alpha), ("ascii", ascii), ("blank", blank), ("cntrl", cntrl),
    ("digit", digit), ("graph", graph), ("lower", lower), ("print", print), ("punct", punct),
    ("space", space), ("upper", upper), ("word", word), ("xdigit", xdigit)].lookup
      (String.ofList name)

/-- The operations on sets of characters. -/
inductive SetOperation where
  | intersection
  | difference
  | symmetricDifference
  deriving DecidableEq, Repr

/-- A set of characters as it is written. -/
inductive ClassSet where
  /-- Nothing is written. -/
  | empty
  /-- A single character. -/
  | single (c : Char)
  /-- The characters from one to another. -/
  | range (first last : Char)
  /-- A class with a letter, or its complement. -/
  | shorthand (s : Shorthand) (negated : Bool)
  /-- A class of ASCII characters with a name, or its complement. -/
  | ascii (a : AsciiClass) (negated : Bool)
  /-- The characters with a Unicode property, or without it. -/
  | property (name : List Char) (negated : Bool)
  /-- A set in brackets, or its complement. -/
  | bracket (negated : Bool) (s : ClassSet)
  /-- Several sets side by side. -/
  | union (sets : List ClassSet)
  /-- An operation on two sets. -/
  | operation (op : SetOperation) (left right : ClassSet)
  deriving Repr

/-- Places between characters that are told by what stands on their two sides. -/
inductive WordPlace where
  /-- A word begins or ends. -/
  | boundary
  /-- No word begins or ends. -/
  | inside
  /-- A word begins. -/
  | start
  /-- A word ends. -/
  | finish
  /-- No word goes on from the left. -/
  | startHalf
  /-- No word goes on to the right. -/
  | finishHalf
  deriving DecidableEq, Repr

/-- The anchors: patterns for places between characters. -/
inductive Anchor where
  /-- The start of the text, or of a line. -/
  | caret
  /-- The end of the text, or of a line. -/
  | dollar
  /-- The start of the text. -/
  | textStart
  /-- The end of the text. -/
  | textEnd
  /-- A place at a word. -/
  | word (w : WordPlace)
  deriving DecidableEq, Repr

/-- A pattern as it is written. -/
inductive Form where
  /-- Nothing is written. -/
  | empty
  /-- Flags for what follows. -/
  | flags (change : FlagChange)
  /-- A single character; it may be written as the value of a byte. -/
  | literal (c : Char) (byte : Bool)
  /-- The dot. -/
  | dot
  /-- An anchor. -/
  | anchor (a : Anchor)
  /-- A set of characters. -/
  | set (s : ClassSet)
  /-- A repetition with the least and, unless there is none, the greatest number of rounds.  One
  that is marked as lazy prefers few rounds to many. -/
  | loop (least : Nat) (most : Option Nat) (lazy : Bool) (f : Form)
  /-- A group, whether it keeps what it matches, and the flags inside it. -/
  | group (captures : Bool) (change : FlagChange) (f : Form)
  /-- Alternatives. -/
  | alternation (fs : List Form)
  /-- Patterns one after the other. -/
  | concat (fs : List Form)
  deriving Repr

namespace ClassSet

/-- Sets side by side; a single one stands for itself. -/
def ofList : List ClassSet → ClassSet
  | [] => empty
  | [s] => s
  | sets => union sets

mutual

/-- How deeply a set nests. -/
def depth : ClassSet → Nat
  | bracket _ s => 1 + s.depth
  | union sets => 1 + depthAll sets
  | operation _ l r => 1 + max l.depth r.depth
  | _ => 0

/-- The greatest depth in a list of sets. -/
def depthAll : List ClassSet → Nat
  | [] => 0
  | s :: sets => max s.depth (depthAll sets)

end

end ClassSet

namespace Form

/-- Patterns one after the other; a single one stands for itself. -/
def ofSequence : List Form → Form
  | [] => empty
  | [f] => f
  | fs => concat fs

/-- Alternatives; a single one stands for itself. -/
def ofAlternatives : List Form → Form
  | [f] => f
  | fs => alternation fs

mutual

/-- How deeply a pattern nests. -/
def depth : Form → Nat
  | set s => s.depth
  | loop _ _ _ f => 1 + f.depth
  | group _ _ f => 1 + f.depth
  | alternation fs => 1 + depthAll fs
  | concat fs => 1 + depthAll fs
  | _ => 0

/-- The greatest depth in a list of patterns. -/
def depthAll : List Form → Nat
  | [] => 0
  | f :: fs => max f.depth (depthAll fs)

end

end Form

/-- The greatest depth a pattern may have. -/
def maxDepth : Nat := 250

end Pattern

end TypeAncestry
