import TypeAncestry.Text.Classes

/-!
# Moving over the text of a pattern

Where the flag for extended patterns is on, white space and comments, which go from `#` to the end
of the line, may stand almost anywhere in a pattern and are passed over.

* `Pattern.skip` : pass over what may be passed over.
* `Pattern.braced?` : what stands up to a closing brace.
* `Pattern.peekBehind` : the character after the next one.
-/

namespace TypeAncestry

namespace Pattern

mutual

/-- The text without the white space and the comments it begins with. -/
def skipBlanks : List Char → List Char
  | [] => []
  | c :: cs => if Text.isBlank c then skipBlanks cs else if c = '#' then skipComment cs else c :: cs

/-- The text behind a comment that has begun, and behind what may be passed over there. -/
def skipComment : List Char → List Char
  | [] => []
  | c :: cs => if c = '\n' then skipBlanks cs else skipComment cs

end

/-- The text without what may be passed over in front of it. -/
def skip (extended : Bool) (cs : List Char) : List Char := if extended then skipBlanks cs else cs

/-- The characters up to a closing brace and the text behind it.  In an extended pattern, white
space and comments are left out; `comment` says that the text begins inside a comment. -/
def braced? (extended comment : Bool) : List Char → Option (List Char × List Char)
  | [] => none
  | c :: cs =>
    if comment then braced? extended (c != '\n') cs
    else if extended && Text.isBlank c then braced? extended false cs
    else if extended && c == '#' then braced? extended true cs
    else if c = '\x7d' then some ([], cs)
    else (braced? extended false cs).map fun (content, rest) => (c :: content, rest)

/-- The character that counts behind the first one.  In an extended pattern this is the next one
that is not white space, where the first `#` counts as white space too. -/
def peekBehind (extended : Bool) : List Char → Option Char
  | [] => none
  | _ :: cs =>
    if extended then
      match cs.dropWhile Text.isBlank with
      | '#' :: rest => (rest.dropWhile Text.isBlank).head?.or cs.head?
      | c :: _ => some c
      | [] => cs.head?
    else cs.head?

mutual

theorem length_skipBlanks_le : ∀ cs : List Char, (skipBlanks cs).length ≤ cs.length
  | [] => Nat.le_refl _
  | c :: cs => by
    have h := length_skipBlanks_le cs
    have h' := length_skipComment_le cs
    simp only [skipBlanks]
    split
    · simp only [List.length_cons]; omega
    · split
      · simp only [List.length_cons]; omega
      · exact Nat.le_refl _

theorem length_skipComment_le : ∀ cs : List Char, (skipComment cs).length ≤ cs.length
  | [] => Nat.le_refl _
  | c :: cs => by
    have h := length_skipBlanks_le cs
    have h' := length_skipComment_le cs
    simp only [skipComment]
    split
    · simp only [List.length_cons]; omega
    · simp only [List.length_cons]; omega

end

end Pattern

end TypeAncestry
