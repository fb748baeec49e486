import TypeAncestry.Pattern.Form
import TypeAncestry.Text.Letters

/-!
# Classes of characters with a letter or a name

* `Pattern.AsciiClass.chars` : the characters of a class with a name.
* `Pattern.Shorthand.chars` : the characters of a class with a letter, which has an ASCII and a
  Unicode reading.
-/

namespace TypeAncestry

namespace Pattern

open Text

/-- The characters that are in a class of ASCII characters. -/
def AsciiClass.chars : AsciiClass → CharSet
  | alnum => ⟨[(0x30, 0x39), (0x41, 0x5A), (0x61, 0x7A)]⟩
  | alpha => ⟨[(0x41, 0x5A), (0x61, 0x7A)]⟩
  | ascii => ⟨[(0x00, 0x7F)]⟩
  | blank => ⟨[(0x09, 0x09), (0x20, 0x20)]⟩
  | cntrl => ⟨[(0x00, 0x1F), (0x7F, 0x7F)]⟩
  | digit => ⟨[(0x30, 0x39)]⟩
  | graph => ⟨[(0x21, 0x7E)]⟩
  | lower => ⟨[(0x61, 0x7A)]⟩
  | print => ⟨[(0x20, 0x7E)]⟩
  | punct => ⟨[(0x21, 0x2F), (0x3A, 0x40), (0x5B, 0x60), (0x7B, 0x7E)]⟩
  | space => ⟨[(0x09, 0x0D), (0x20, 0x20)]⟩
  | upper => ⟨[(0x41, 0x5A)]⟩
  | word => ⟨[(0x30, 0x39), (0x41, 0x5A), (0x5F, 0x5F), (0x61, 0x7A)]⟩
  | xdigit => ⟨[(0x30, 0x39), (0x41, 0x46), (0x61, 0x66)]⟩

/-- The characters that are in a class with a letter. -/
def Shorthand.chars (unicode : Bool) : Shorthand → CharSet
  | digit => if unicode then digits else AsciiClass.digit.chars
  | space => if unicode then whiteSpace else AsciiClass.space.chars
  | word => if unicode then wordChars else AsciiClass.word.chars

end Pattern

end TypeAncestry
