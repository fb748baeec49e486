import TypeAncestry.Text.CharSet

/-!
# The bytes of characters

In UTF-8 a character is written with one to four bytes.  The texts of the characters in an interval
can be described by sequences of ranges of bytes, as long as the interval is cut where it has to be.

* `Utf8.encode` : the bytes of a code point.
* `Utf8.ByteRange` : a range of bytes.
* `Utf8.sequences` : the sequences of ranges for an interval of code points.
-/

namespace TypeAncestry

namespace Text

namespace Utf8

/-- The bytes of a code point. -/
def encode (n : Nat) : List Nat :=
  if n < 0x80 then [n]
  else if n < 0x800 then [0xC0 + n / 64, 0x80 + n % 64]
  else if n < 0x10000 then [0xE0 + n / 4096, 0x80 + n / 64 % 64, 0x80 + n % 64]
  else [0xF0 + n / 262144, 0x80 + n / 4096 % 64, 0x80 + n / 64 % 64, 0x80 + n % 64]

/-- The bytes of a text. -/
def encodeAll (cs : List Char) : List Nat := cs.flatMap fun c => encode c.toNat

/-- The bytes from `first` to `last`. -/
structure ByteRange where
  first : Nat
  last : Nat
  deriving DecidableEq, Repr

/-! ### Cutting intervals -/

/-- The code points behind which an interval is cut: those where the number of bytes changes, and
the last one in front of the surrogates. -/
def limits : List Nat := [0x7F, 0x7FF, 0xD7FF, 0xFFFF]

/-- The parts of the interval from `a` to `b`, cut behind each of the given code points that lie in
it. -/
def cutBehind : List Nat → Nat → Nat → List (Nat × Nat)
  | [], a, b => [(a, b)]
  | c :: cs, a, b =>
    if a ≤ c ∧ c < b then (a, c) :: cutBehind cs (CharSet.next c) b else cutBehind cs a b

/-- The numbers of code points that share all bytes but the last one, two or three. -/
def blockSizes : List Nat := [64, 4096, 262144]

/-- The parts of the interval from `a` to `b`, so that each of them is a part of one block or
consists of whole blocks, for blocks of each of the given sizes.  What is left over at the two ends
is cut off for the smallest size first. -/
def blocks : List Nat → Nat → Nat → List (Nat × Nat)
  | [], a, b => [(a, b)]
  | n :: sizes, a, b =>
    if a / n = b / n then [(a, b)]
    else
      let a' := if a % n = 0 then a else (a / n + 1) * n
      let b' := if (b + 1) % n = 0 then b else b / n * n - 1
      let front := if a = a' then [] else [(a, a' - 1)]
      if a' / n = b / n then front ++ [(a', b)]
      else front ++ blocks sizes a' b' ++ (if b = b' then [] else [(b' + 1, b)])

/-- The ranges of bytes for an interval that needs no more cuts. -/
def ranges (a b : Nat) : List ByteRange := List.zipWith ByteRange.mk (encode a) (encode b)

/-- The sequences of ranges of bytes for the code points from `a` to `b`, in ascending order. -/
def sequences (a b : Nat) : List (List ByteRange) :=
  (cutBehind limits a b).flatMap fun (a, b) =>
    if b < 0x80 then [ranges a b] else (blocks blockSizes a b).map fun (a, b) => ranges a b

/-- The sequences of ranges of bytes for the characters of a set. -/
def ofCharSet (s : CharSet) : List (List ByteRange) :=
  s.intervals.flatMap fun (a, b) => sequences a b

end Utf8

end Text

end TypeAncestry
