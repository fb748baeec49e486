import TypeAncestry.Text.Classes

/-!
# The tokens of a signature

A signature is a sequence of angle brackets, commas and words.  A word is a longest run of
characters that are neither of these marks nor white space; white space only separates.

* `Token`, `Word` : the tokens.
* `Lexeme` : a token with the place where it stands, counted in bytes of UTF-8.
* `Lexeme.ofText` : the lexemes of a text.
-/

namespace TypeAncestry

namespace Signature

/-- A word: a run of at least one character. -/
structure Word where
  /-- The first character. -/
  first : Char
  /-- The characters after the first. -/
  rest : List Char
  deriving DecidableEq, Repr

/-- The text of a word. -/
def Word.text (w : Word) : String := String.ofList (w.first :: w.rest)

/-- The word `?`. -/
def Word.wildcard : Word := ⟨'?', []⟩

/-- The tokens of signatures. -/
inductive Token where
  /-- An opening angle bracket. -/
  | opening
  /-- A closing angle bracket. -/
  | closing
  /-- A comma. -/
  | comma
  /-- A word. -/
  | word (w : Word)
  deriving DecidableEq, Repr

/-- The token that a mark is by itself. -/
def Token.ofMark? (c : Char) : Option Token :=
  if c = '<' then some .opening
  else if c = '>' then some .closing
  else if c = ',' then some .comma
  else none

/-- The first character of a token. -/
def Token.first : Token → Char
  | opening => '<'
  | closing => '>'
  | comma => ','
  | word w => w.first

/-- A token and its place. -/
structure Lexeme where
  /-- The token. -/
  token : Token
  /-- The number of bytes before it. -/
  offset : Nat
  deriving DecidableEq, Repr

namespace Lexeme

/-- Put the character `c`, which belongs to a word and stands at `offset`, before the lexemes that
follow it: it becomes the first character of a word that begins right behind it, and else a word of
its own. -/
def attach (c : Char) (offset : Nat) : List Lexeme → List Lexeme
  | ⟨.word w, o⟩ :: rest =>
    if o = offset + c.utf8Size then ⟨.word ⟨c, w.first :: w.rest⟩, offset⟩ :: rest
    else ⟨.word ⟨c, []⟩, offset⟩ :: ⟨.word w, o⟩ :: rest
  | rest => ⟨.word ⟨c, []⟩, offset⟩ :: rest

/-- The lexemes of a text that begins at `offset`. -/
def scan (offset : Nat) : List Char → List Lexeme
  | [] => []
  | c :: cs =>
    let rest := scan (offset + c.utf8Size) cs
    if Text.isBlank c then rest
    else
      match Token.ofMark? c with
      | some t => ⟨t, offset⟩ :: rest
      | none => attach c offset rest

/-- The lexemes of a text. -/
def ofText (text : String) : List Lexeme := scan 0 text.toList

end Lexeme

/-- The tokens of a text. -/
def tokens (text : String) : List Token := (Lexeme.ofText text).map (·.token)

end Signature

end TypeAncestry
