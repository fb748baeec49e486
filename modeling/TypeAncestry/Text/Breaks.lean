import TypeAncestry.Text.Marks
import TypeAncestry.Text.Script
import TypeAncestry.Text.Symbols

/-!
# Where texts may be broken

Three properties say how characters behave where a text is broken into what a reader takes for
characters, into words and into sentences.  Every character has at most one value of each of them.

* `GraphemeBreak.values`, `WordBreak.values`, `SentenceBreak.values` : the values by name, with the
  characters that have them.

The values follow edition 16 of Unicode.  Most classes are put together from other properties.
-/

namespace TypeAncestry

namespace Text

/-- The signs and digits that count as digits in words though they are none by category. -/
def otherNumeric : CharSet := ⟨[
  (0x600, 0x605), (0x66B, 0x66B), (0x6DD, 0x6DD), (0x890, 0x891), (0x8E2, 0x8E2), (0x19DA, 0x19DA),
  (0x110BD, 0x110BD), (0x110CD, 0x110CD)]⟩

/-- The line feed. -/
def lineFeed : CharSet := .single '\n'

/-- The carriage return. -/
def carriageReturn : CharSet := .single '\r'

/-- The invisible character that joins emoji. -/
def joiner : CharSet := ⟨[(0x200D, 0x200D)]⟩

/-- The characters that go with the one before them, marks that take room among them. -/
def markLike : CharSet := graphemeExtend.union (charsWith (· == .mc))

namespace GraphemeBreak

/-- The characters between which no break is kept: controls, and ends of lines and paragraphs. -/
def control : CharSet :=
  CharSet.diff
    ((charsWith fun c => c == .zl || c == .zp || c == .cc || c == .cf).union
      ((charsWith (· == .cn)).inter defaultIgnorable))
    (CharSet.unions [lineFeed, carriageReturn, joinControl, prependedMarks, graphemeExtend])

/-- The characters that go with the one before them. -/
def extend : CharSet := graphemeExtend.union emojiModifiers

/-- The characters that go with the one behind them. -/
def prepend : CharSet := prependedMarks.union ⟨[
    (0xD4E, 0xD4E), (0x111C2, 0x111C3), (0x113D1, 0x113D1), (0x1193F, 0x1193F), (0x11941, 0x11941),
    (0x11A84, 0x11A89), (0x11D46, 0x11D46), (0x11F02, 0x11F02)]⟩

/-- The marks that take room and do not go with the letter before them. -/
def spacingAlone : CharSet := ⟨[
  (0x102B, 0x102C), (0x1038, 0x1038), (0x1062, 0x1064), (0x1067, 0x106D), (0x1083, 0x1083),
  (0x1087, 0x108C), (0x108F, 0x108F), (0x109A, 0x109C), (0x1A61, 0x1A61), (0x1A63, 0x1A64),
  (0xAA7B, 0xAA7B), (0xAA7D, 0xAA7D), (0x11720, 0x11721)]⟩

/-- The marks that take room and go with the letter before them. -/
def spacingMark : CharSet :=
  (CharSet.diff (charsWith (· == .mc)) (extend.union spacingAlone)).union
    ⟨[(0xE33, 0xE33), (0xEB3, 0xEB3)]⟩

/-- The vowels of Korean syllables. -/
def vowels : CharSet :=
  ⟨[(0x1160, 0x11A7), (0xD7B0, 0xD7C6), (0x16D63, 0x16D63), (0x16D67, 0x16D6A)]⟩

/-- The Korean syllables of two parts: one in every row of 28. -/
def openSyllables : CharSet :=
  ⟨(List.range 399).map fun i => (0xAC00 + 28 * i, 0xAC00 + 28 * i)⟩

/-- The Korean syllables of three parts. -/
def closedSyllables : CharSet := CharSet.diff ⟨[(0xAC00, 0xD7A3)]⟩ openSyllables

/-- The values by their names. -/
def values : List (List String × CharSet) := [
  (["cr"], carriageReturn), (["lf"], lineFeed), (["cn", "control"], control),
  (["ex", "extend"], extend), (["pp", "prepend"], prepend), (["sm", "spacingmark"], spacingMark),
  (["ri", "regionalindicator"], regionalIndicators), (["zwj"], joiner),
  (["l"], ⟨[(0x1100, 0x115F), (0xA960, 0xA97C)]⟩), (["v"], vowels),
  (["t"], ⟨[(0x11A8, 0x11FF), (0xD7CB, 0xD7FB)]⟩), (["lv"], openSyllables),
  (["lvt"], closedSyllables)]

end GraphemeBreak

namespace WordBreak

/-- The characters that go with the one before them. -/
def extend : CharSet := (markLike.union emojiModifiers).diff joiner

/-- The Hebrew letters. -/
def hebrewLetter : CharSet := (Script.chars "hebr").inter (charsWith (· == .lo))

/-- The characters of Katakana. -/
def katakana : CharSet := (Script.chars "kana").union ⟨[
    (0x3031, 0x3035), (0x309B, 0x309C), (0x30A0, 0x30A0), (0x30FC, 0x30FC), (0xFF70, 0xFF70)]⟩

/-- The blocks of scripts that are written without spaces between words. -/
def unspaced : CharSet := ⟨[
  (0xE00, 0xEFF), (0x1000, 0x109F), (0x1780, 0x17FF), (0x1950, 0x19DF), (0x1A20, 0x1AAF),
  (0xA9E0, 0xA9FF), (0xAA60, 0xAADF), (0x11700, 0x1174F)]⟩

/-- Characters that behave as letters though they are not alphabetic. -/
def otherLetter : CharSet := ⟨[
  (0xB8, 0xB8), (0x2C2, 0x2C5), (0x2D2, 0x2D7), (0x2DE, 0x2DF), (0x2E5, 0x2EB), (0x2ED, 0x2ED),
  (0x2EF, 0x2FF), (0x55A, 0x55C), (0x55E, 0x55E), (0x58A, 0x58A), (0x5F3, 0x5F3), (0x70F, 0x70F),
  (0xA708, 0xA716), (0xA720, 0xA721), (0xA789, 0xA78A), (0xAB5B, 0xAB5B)]⟩

/-- The letters of scripts that put spaces between words. -/
def letter : CharSet :=
  CharSet.diff
    ((alphabetic.diff (CharSet.unions [ideographs, katakana, Script.chars "hira", unspaced])).union
      otherLetter)
    (extend.union hebrewLetter)

/-- The digits. -/
def numeric : CharSet := digits.union otherNumeric

/-- The invisible characters of format. -/
def format : CharSet :=
  CharSet.diff (charsWith (· == .cf))
    (CharSet.unions
      [⟨[(0x70F, 0x70F), (0x200B, 0x200D)]⟩, otherNumeric, otherExtend])

/-- The punctuation that joins words, and the narrow space that does. -/
def extendNumLet : CharSet := (charsWith (· == .pc)).union ⟨[(0x202F, 0x202F)]⟩

/-- The spaces between words. -/
def space : CharSet :=
  (charsWith (· == .zs)).diff ⟨[(0xA0, 0xA0), (0x2007, 0x2007), (0x202F, 0x202F)]⟩

/-- Punctuation between letters. -/
def midLetter : CharSet := ⟨[
  (0x3A, 0x3A), (0xB7, 0xB7), (0x387, 0x387), (0x55F, 0x55F), (0x5F4, 0x5F4), (0x2027, 0x2027),
  (0xFE13, 0xFE13), (0xFE55, 0xFE55), (0xFF1A, 0xFF1A)]⟩

/-- Punctuation between digits. -/
def midNum : CharSet := ⟨[
  (0x2C, 0x2C), (0x3B, 0x3B), (0x37E, 0x37E), (0x589, 0x589), (0x60C, 0x60D), (0x66C, 0x66C),
  (0x7F8, 0x7F8), (0x2044, 0x2044), (0xFE10, 0xFE10), (0xFE14, 0xFE14), (0xFE50, 0xFE50),
  (0xFE54, 0xFE54), (0xFF0C, 0xFF0C), (0xFF1B, 0xFF1B)]⟩

/-- Punctuation between letters and between digits. -/
def midNumLet : CharSet := ⟨[
  (0x2E, 0x2E), (0x2018, 0x2019), (0x2024, 0x2024), (0xFE52, 0xFE52), (0xFF07, 0xFF07),
  (0xFF0E, 0xFF0E)]⟩

/-- The ends of lines. -/
def newline : CharSet := ⟨[(0xB, 0xC), (0x85, 0x85), (0x2028, 0x2029)]⟩

/-- The values by their names. -/
def values : List (List String × CharSet) := [
  (["cr"], carriageReturn), (["lf"], lineFeed), (["nl", "newline"], newline),
  (["le", "aletter"], letter), (["hl", "hebrewletter"], hebrewLetter),
  (["ka", "katakana"], katakana), (["nu", "numeric"], numeric), (["extend"], extend),
  (["fo", "format"], format), (["ex", "extendnumlet"], extendNumLet),
  (["ml", "midletter"], midLetter), (["mn", "midnum"], midNum), (["mb", "midnumlet"], midNumLet),
  (["dq", "doublequote"], .single '"'), (["sq", "singlequote"], ⟨[(0x27, 0x27)]⟩),
  (["ri", "regionalindicator"], regionalIndicators), (["wsegspace"], space), (["zwj"], joiner)]

end WordBreak

namespace SentenceBreak

/-- The lowercase letters, but for the Georgian ones. -/
def lower : CharSet :=
  (lowercase.diff ⟨[(0x10D0, 0x10FA), (0x10FD, 0x10FF)]⟩).diff graphemeExtend

/-- The capitals, but for the Georgian ones. -/
def upper : CharSet :=
  (uppercase.union titlecase).diff ⟨[(0x1C90, 0x1CBA), (0x1CBD, 0x1CBF)]⟩

/-- The letters without case. -/
def otherLetter : CharSet :=
  (alphabetic.union ⟨[(0x5F3, 0x5F3)]⟩).diff (CharSet.unions [lower, upper, markLike])

/-- The digits. -/
def numeric : CharSet := WordBreak.numeric.union ⟨[(0x66C, 0x66C)]⟩

/-- The invisible characters of format. -/
def format : CharSet := WordBreak.format.union ⟨[(0x70F, 0x70F), (0x200B, 0x200B)]⟩

/-- The full stops that may also stand inside a sentence. -/
def fullStop : CharSet :=
  ⟨[(0x2E, 0x2E), (0x2024, 0x2024), (0xFE52, 0xFE52), (0xFF0E, 0xFF0E)]⟩

/-- The punctuation that ends a sentence for certain. -/
def terminal : CharSet := sentenceEnds.diff fullStop

/-- The brackets and the quotation marks. -/
def close : CharSet :=
  (charsWith fun c => c == .ps || c == .pe || c == .pi || c == .pf).union ⟨[
    (0x22, 0x22), (0x27, 0x27), (0x275B, 0x2760), (0x2E00, 0x2E01), (0x2E06, 0x2E08),
    (0x2E0B, 0x2E0B), (0x1F676, 0x1F678)]⟩

/-- The punctuation behind which a sentence goes on. -/
def goesOn : CharSet := ⟨[
  (0x2C, 0x2D), (0x3A, 0x3B), (0x37E, 0x37E), (0x55D, 0x55D), (0x60C, 0x60D), (0x7F8, 0x7F8),
  (0x1802, 0x1802), (0x1808, 0x1808), (0x2013, 0x2014), (0x3001, 0x3001), (0xFE10, 0xFE11),
  (0xFE13, 0xFE14), (0xFE31, 0xFE32), (0xFE50, 0xFE51), (0xFE54, 0xFE55), (0xFE58, 0xFE58),
  (0xFE63, 0xFE63), (0xFF0C, 0xFF0D), (0xFF1A, 0xFF1B), (0xFF64, 0xFF64)]⟩

/-- The ends of lines and paragraphs. -/
def separator : CharSet := ⟨[(0x85, 0x85), (0x2028, 0x2029)]⟩

/-- The spaces. -/
def space : CharSet :=
  whiteSpace.diff (CharSet.unions [separator, carriageReturn, lineFeed])

/-- The values by their names. -/
def values : List (List String × CharSet) := [
  (["cr"], carriageReturn), (["lf"], lineFeed), (["se", "sep"], separator), (["sp"], space),
  (["lo", "lower"], lower), (["up", "upper"], upper), (["le", "oletter"], otherLetter),
  (["nu", "numeric"], numeric), (["ex", "extend"], markLike.union joiner),
  (["fo", "format"], format), (["at", "aterm"], fullStop), (["st", "sterm"], terminal),
  (["cl", "close"], close), (["sc", "scontinue"], goesOn)]

end SentenceBreak

end Text

end TypeAncestry
