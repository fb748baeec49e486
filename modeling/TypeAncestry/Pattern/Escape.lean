import TypeAncestry.Json.Text
import TypeAncestry.Pattern.Cursor
import TypeAncestry.Pattern.Form

/-!
# Escapes in patterns

* `Pattern.Atom` : what a single character or an escape stands for.
* `Pattern.escape?` : read an escape behind its backslash.
-/

namespace TypeAncestry

namespace Pattern

/-- What a single character or an escape stands for. -/
inductive Atom where
  /-- A character; it may be written as the value of a byte. -/
  | literal (c : Char) (byte : Bool)
  /-- A class of characters. -/
  | class_ (s : ClassSet)
  /-- A place between characters. -/
  | anchor (a : Anchor)
  deriving Repr

/-- The pattern that an atom is by itself. -/
def Atom.form : Atom → Form
  | literal c byte => .literal c byte
  | class_ s => .set s
  | anchor a => .anchor a

/-- The character with the given number, if there is one. -/
def charOf? (n : Nat) : Option Char := if n.isValidChar then some (Char.ofNat n) else none

/-- Read the given number of hexadecimal digits; `value` is that of the digits before them. -/
def hexDigits? (extended : Bool) : Nat → Nat → List Char → Option (Nat × List Char)
  | 0, value, cs => some (value, cs)
  | _ + 1, _, [] => none
  | n + 1, value, c :: cs =>
    match Json.hexValue? c with
    | some d => hexDigits? extended n (value * 16 + d) (skip extended cs)
    | none => none

/-- The value of hexadecimal digits; `value` is that of the digits before them. -/
def hexNumber? (value : Nat) : List Char → Option Nat
  | [] => some value
  | c :: cs =>
    match Json.hexValue? c with
    | some d => hexNumber? (value * 16 + d) cs
    | none => none

/-- Read a character that is given by its number: in braces, or with a fixed number of digits. -/
def hexEscape? (extended : Bool) (digits : Nat) (cs : List Char) : Option (Atom × List Char) :=
  match skip extended cs with
  | '\x7b' :: rest =>
    match braced? extended false rest with
    | some (content, rest) =>
      if content.isEmpty then none
      else ((hexNumber? 0 content).bind charOf?).map fun c => (.literal c false, rest)
    | none => none
  | rest =>
    match hexDigits? extended digits 0 rest with
    | some (n, rest) => (charOf? n).map fun c => (.literal c (digits == 2), rest)
    | none => none

/-- Read the name of a Unicode property: in braces, or a single character. -/
def property? (extended negated : Bool) (cs : List Char) : Option (Atom × List Char) :=
  match skip extended cs with
  | [] => none
  | '\x7b' :: rest =>
    (braced? extended false rest).map fun (name, rest) => (.class_ (.property name negated), rest)
  | c :: rest =>
    if c = '\\' then none else some (.class_ (.property [c] negated), skip extended rest)

/-- The class that a letter stands for. -/
def shorthand? (c : Char) : Option ClassSet :=
  if c = 'd' then some (.shorthand .digit false)
  else if c = 's' then some (.shorthand .space false)
  else if c = 'w' then some (.shorthand .word false)
  else if c = 'D' then some (.shorthand .digit true)
  else if c = 'S' then some (.shorthand .space true)
  else if c = 'W' then some (.shorthand .word true)
  else none

/-- A character that stands for itself behind a backslash: punctuation, white space and control
characters of ASCII, but for the two angle brackets. -/
def isEscapable (c : Char) : Bool :=
  c.toNat < 0x80 && !c.isAlphanum && c != '<' && c != '>'

/-- The place at a word with the given name. -/
def WordPlace.ofName? (name : List Char) : Option WordPlace :=
  [("start", start), ("end", finish), ("start-half", startHalf), ("end-half", finishHalf)].lookup
    (String.ofList name)

/-- Read what follows the letter of a word boundary: the name of a place in braces, or nothing.
Braces that do not begin with a letter or a dash belong to a repetition. -/
def wordPlace? (extended : Bool) (cs : List Char) : Option (Atom × List Char) :=
  match cs with
  | '\x7b' :: rest =>
    match skip extended rest with
    | [] => none
    | c :: _ =>
      if c.isAlpha || c == '-' then
        match braced? extended false rest with
        | some (name, rest) => (WordPlace.ofName? name).map fun w => (.anchor (.word w), rest)
        | none => none
      else some (.anchor (.word .boundary), cs)
  | _ => some (.anchor (.word .boundary), cs)

/-- The control characters with a letter of their own. -/
def controlLetter? (c : Char) : Option Char :=
  if c = 'a' then some '\x07'
  else if c = 'f' then some '\x0c'
  else if c = 't' then some '\t'
  else if c = 'n' then some '\n'
  else if c = 'r' then some '\r'
  else if c = 'v' then some '\x0b'
  else none

/-- The places that a letter or an angle bracket stands for. -/
def placeLetter? (c : Char) : Option Anchor :=
  if c = 'A' then some .textStart
  else if c = 'z' then some .textEnd
  else if c = 'B' then some (.word .inside)
  else if c = '<' then some (.word .start)
  else if c = '>' then some (.word .finish)
  else none

/-- Read an escape whose backslash has been read. -/
def escape? (extended : Bool) : List Char → Option (Atom × List Char)
  | [] => none
  | c :: cs =>
    if c = 'x' then hexEscape? extended 2 cs
    else if c = 'u' then hexEscape? extended 4 cs
    else if c = 'U' then hexEscape? extended 8 cs
    else if c = 'p' then property? extended false cs
    else if c = 'P' then property? extended true cs
    else if c = 'b' then wordPlace? extended cs
    else if isEscapable c then some (.literal c false, cs)
    else
      match shorthand? c, controlLetter? c, placeLetter? c with
      | some s, _, _ => some (.class_ s, cs)
      | none, some c, _ => some (.literal c false, cs)
      | none, none, some a => some (.anchor a, cs)
      | none, none, none => none

end Pattern

end TypeAncestry
