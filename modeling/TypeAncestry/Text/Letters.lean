import TypeAncestry.Text.CaseFold
import TypeAncestry.Text.Classes
import TypeAncestry.Text.Edition

/-!
# Letters

Properties of letters and of what words and identifiers are made of, by edition 16 of Unicode.  Most
are a general category or a few of them, with a short table of what the categories miss.

* `alphabetic`, `lowercase`, `uppercase`, `cased` : letters.
* `wordChars`, `digits` : the characters of words, and the decimal digits.
* `identifierStart`, `identifierContinue` : the characters of identifiers.
* `changesWhenLowered` and its like : characters that change when the case of a text is changed.
-/

namespace TypeAncestry

namespace Text

/-- The letters and letter numbers. -/
def letterLike : CharSet := charsWith fun c => c.isLetter || c == .nl

/-- The alphabetic characters. -/
def alphabetic : CharSet := letterLike.union (CharSet.diff ⟨otherAlphabetic⟩ newcomers)

/-- The decimal digits. -/
def digits : CharSet := charsWith (· == .nd)

/-- The white space. -/
def whiteSpace : CharSet := ⟨blanks⟩

/-- The two invisible characters that control joining. -/
def joinControl : CharSet := ⟨[(0x200C, 0x200D)]⟩

/-- The characters of words: alphabetic characters, marks, decimal digits, punctuation that joins,
and the characters that control joining. -/
def wordChars : CharSet :=
  CharSet.union
    (charsWith fun c => c.isLetter || c == .nl || c.isMark || c == .nd || c == .pc)
    (alphabetic.union joinControl)

/-! ### Case -/

/-- The characters in lower case that are not lowercase letters. -/
def otherLowercase : CharSet := ⟨[
  (0xAA, 0xAA), (0xBA, 0xBA), (0x2B0, 0x2B8), (0x2C0, 0x2C1), (0x2E0, 0x2E4), (0x345, 0x345),
  (0x37A, 0x37A), (0x10FC, 0x10FC), (0x1D2C, 0x1D6A), (0x1D78, 0x1D78), (0x1D9B, 0x1DBF),
  (0x2071, 0x2071), (0x207F, 0x207F), (0x2090, 0x209C), (0x2170, 0x217F), (0x24D0, 0x24E9),
  (0x2C7C, 0x2C7D), (0xA69C, 0xA69D), (0xA770, 0xA770), (0xA7F2, 0xA7F4), (0xA7F8, 0xA7F9),
  (0xAB5C, 0xAB5F), (0xAB69, 0xAB69), (0x10780, 0x10780), (0x10783, 0x10785), (0x10787, 0x107B0),
  (0x107B2, 0x107BA), (0x1E030, 0x1E06D)]⟩

/-- The characters in upper case that are not uppercase letters. -/
def otherUppercase : CharSet := ⟨[
  (0x2160, 0x216F), (0x24B6, 0x24CF), (0x1F130, 0x1F149), (0x1F150, 0x1F169), (0x1F170, 0x1F189)]⟩

/-- The characters in lower case. -/
def lowercase : CharSet := (charsWith (· == .ll)).union otherLowercase

/-- The characters in upper case. -/
def uppercase : CharSet := (charsWith (· == .lu)).union otherUppercase

/-- The letters in title case. -/
def titlecase : CharSet := charsWith (· == .lt)

/-- The characters that have case. -/
def cased : CharSet := (lowercase.union uppercase).union titlecase

/-- Punctuation that may stand inside a word. -/
def innerPunctuation : CharSet := ⟨[
  (0x27, 0x27), (0x2E, 0x2E), (0x3A, 0x3A), (0xB7, 0xB7), (0x387, 0x387), (0x55F, 0x55F),
  (0x5F4, 0x5F4), (0x2018, 0x2019), (0x2024, 0x2024), (0x2027, 0x2027), (0xFE13, 0xFE13),
  (0xFE52, 0xFE52), (0xFE55, 0xFE55), (0xFF07, 0xFF07), (0xFF0E, 0xFF0E), (0xFF1A, 0xFF1A)]⟩

/-- The characters that are passed over when the case of the letters around them counts. -/
def caseIgnorable : CharSet :=
  CharSet.union
    (charsWith fun c => c == .mn || c == .me || c == .cf || c == .lm || c == .sk) innerPunctuation

/-- The characters whose capital is written with several characters, and the dotless i. -/
def spelledOut : CharSet := ⟨[
  (0x131, 0x131), (0x149, 0x149), (0x1F0, 0x1F0), (0x587, 0x587), (0x1E96, 0x1E9A),
  (0x1F50, 0x1F50), (0x1F52, 0x1F52), (0x1F54, 0x1F54), (0x1F56, 0x1F56), (0x1FB2, 0x1FB2),
  (0x1FB4, 0x1FB4), (0x1FB6, 0x1FB7), (0x1FC2, 0x1FC2), (0x1FC4, 0x1FC4), (0x1FC6, 0x1FC7),
  (0x1FD2, 0x1FD2), (0x1FD6, 0x1FD7), (0x1FE2, 0x1FE2), (0x1FE4, 0x1FE4), (0x1FE6, 0x1FE7),
  (0x1FF2, 0x1FF2), (0x1FF4, 0x1FF4), (0x1FF6, 0x1FF7), (0xFB00, 0xFB04), (0xFB13, 0xFB17)]⟩

/-- The characters that are a member of a pair that differs in case only. -/
def casePairs : CharSet := CaseFold.close CaseFold.moved

/-- The characters that change in lower case. -/
def changesWhenLowered : CharSet :=
  (casePairs.inter (uppercase.union titlecase)).union ⟨[(0x130, 0x130)]⟩

/-- The characters that change in upper case. -/
def changesWhenUppered : CharSet := (casePairs.diff uppercase).union spelledOut

/-- The characters that change at the start of a title: those that have a title case of their own,
but for the Georgian letters, which have none. -/
def changesWhenTitled : CharSet :=
  CharSet.union
    ((changesWhenUppered.diff titlecase).diff ⟨[(0x10D0, 0x10FA), (0x10FD, 0x10FF)]⟩)
    ⟨[(0x1C4, 0x1C4), (0x1C7, 0x1C7), (0x1CA, 0x1CA), (0x1F1, 0x1F1)]⟩

/-- The characters that change in some case. -/
def changesWhenMapped : CharSet :=
  CharSet.unions [casePairs, spelledOut, ⟨[(0x130, 0x130)]⟩]

/-- The characters that fold to several characters, or to one when they are taken apart first. -/
def foldedOut : CharSet := ⟨[
  (0xDF, 0xDF), (0x130, 0x130), (0x149, 0x149), (0x587, 0x587), (0x1E9A, 0x1E9A), (0x1F80, 0x1F87),
  (0x1F90, 0x1F97), (0x1FA0, 0x1FA7), (0x1FB2, 0x1FB4), (0x1FB7, 0x1FB7), (0x1FC2, 0x1FC4),
  (0x1FC7, 0x1FC7), (0x1FF2, 0x1FF4), (0x1FF7, 0x1FF7), (0xFB00, 0xFB04), (0xFB06, 0xFB06),
  (0xFB13, 0xFB17)]⟩

/-- The characters that change when case is folded. -/
def changesWhenFolded : CharSet :=
  (CaseFold.moved.diff ⟨[(0x1FBE, 0x1FBE), (0x1FD3, 0x1FD3), (0x1FE3, 0x1FE3)]⟩).union foldedOut

/-- The letters whose dot gives way to an accent. -/
def softDotted : CharSet := ⟨[
  (0x69, 0x6A), (0x12F, 0x12F), (0x249, 0x249), (0x268, 0x268), (0x29D, 0x29D), (0x2B2, 0x2B2),
  (0x3F3, 0x3F3), (0x456, 0x456), (0x458, 0x458), (0x1D62, 0x1D62), (0x1D96, 0x1D96),
  (0x1DA4, 0x1DA4), (0x1DA8, 0x1DA8), (0x1E2D, 0x1E2D), (0x1ECB, 0x1ECB), (0x2071, 0x2071),
  (0x2148, 0x2149), (0x2C7C, 0x2C7C), (0x1D422, 0x1D423), (0x1D456, 0x1D457), (0x1D48A, 0x1D48B),
  (0x1D4BE, 0x1D4BF), (0x1D4F2, 0x1D4F3), (0x1D526, 0x1D527), (0x1D55A, 0x1D55B),
  (0x1D58E, 0x1D58F), (0x1D5C2, 0x1D5C3), (0x1D5F6, 0x1D5F7), (0x1D62A, 0x1D62B),
  (0x1D65E, 0x1D65F), (0x1D692, 0x1D693), (0x1DF1A, 0x1DF1A), (0x1E04C, 0x1E04D),
  (0x1E068, 0x1E068)]⟩

/-! ### Identifiers -/

/-- Characters other than letters that may begin an identifier. -/
def otherIdentifierStart : CharSet :=
  ⟨[(0x1885, 0x1886), (0x2118, 0x2118), (0x212E, 0x212E), (0x309B, 0x309C)]⟩

/-- The characters that may begin an identifier. -/
def identifierStart : CharSet :=
  (letterLike.union otherIdentifierStart).diff ⟨[(0x2E2F, 0x2E2F)]⟩

/-- Characters other than letters, marks and digits that may stand inside an identifier. -/
def otherIdentifierContinue : CharSet := ⟨[
  (0xB7, 0xB7), (0x387, 0x387), (0x1369, 0x1371), (0x19DA, 0x19DA), (0x200C, 0x200D),
  (0x30FB, 0x30FB), (0xFF65, 0xFF65)]⟩

/-- The characters that may stand inside an identifier. -/
def identifierContinue : CharSet :=
  CharSet.unions
    [identifierStart, charsWith fun c => c == .mn || c == .mc || c == .nd || c == .pc,
      otherIdentifierContinue]

/-- Characters of identifiers that could turn into others when a text is normalised. -/
def notClosedInside : CharSet := ⟨[
  (0x37A, 0x37A), (0x309B, 0x309C), (0xFC5E, 0xFC63), (0xFDFA, 0xFDFB), (0xFE70, 0xFE70),
  (0xFE72, 0xFE72), (0xFE74, 0xFE74), (0xFE76, 0xFE76), (0xFE78, 0xFE78), (0xFE7A, 0xFE7A),
  (0xFE7C, 0xFE7C), (0xFE7E, 0xFE7E)]⟩

/-- The characters that may begin an identifier, whatever form the text is brought into. -/
def closedIdentifierStart : CharSet :=
  (identifierStart.diff notClosedInside).diff
    ⟨[(0xE33, 0xE33), (0xEB3, 0xEB3), (0xFF9E, 0xFF9F)]⟩

/-- The characters that may stand inside an identifier, whatever form the text is brought into. -/
def closedIdentifierContinue : CharSet := identifierContinue.diff notClosedInside

/-- Mathematical symbols that may begin an identifier. -/
def mathIdentifierStart : CharSet := ⟨[
  (0x2202, 0x2202), (0x2207, 0x2207), (0x221E, 0x221E), (0x1D6C1, 0x1D6C1), (0x1D6DB, 0x1D6DB),
  (0x1D6FB, 0x1D6FB), (0x1D715, 0x1D715), (0x1D735, 0x1D735), (0x1D74F, 0x1D74F),
  (0x1D76F, 0x1D76F), (0x1D789, 0x1D789), (0x1D7A9, 0x1D7A9), (0x1D7C3, 0x1D7C3)]⟩

/-- Mathematical symbols that may stand inside an identifier. -/
def mathIdentifierContinue : CharSet :=
  mathIdentifierStart.union
    ⟨[(0xB2, 0xB3), (0xB9, 0xB9), (0x2070, 0x2070), (0x2074, 0x207E), (0x2080, 0x208E)]⟩

/-! ### Digits and ideographs -/

/-- The hexadecimal digits of ASCII. -/
def asciiHexDigits : CharSet := ⟨[(0x30, 0x39), (0x41, 0x46), (0x61, 0x66)]⟩

/-- The hexadecimal digits. -/
def hexDigits : CharSet :=
  asciiHexDigits.union ⟨[(0xFF10, 0xFF19), (0xFF21, 0xFF26), (0xFF41, 0xFF46)]⟩

/-- The ideographs that several languages share. -/
def unifiedIdeographs : CharSet := ⟨[
  (0x3400, 0x4DBF), (0x4E00, 0x9FFF), (0xFA0E, 0xFA0F), (0xFA11, 0xFA11), (0xFA13, 0xFA14),
  (0xFA1F, 0xFA1F), (0xFA21, 0xFA21), (0xFA23, 0xFA24), (0xFA27, 0xFA29), (0x20000, 0x2A6DF),
  (0x2A700, 0x2B739), (0x2B740, 0x2B81D), (0x2B820, 0x2CEA1), (0x2CEB0, 0x2EBE0),
  (0x2EBF0, 0x2EE5D), (0x30000, 0x3134A), (0x31350, 0x323AF)]⟩

/-- Other ideographs. -/
def otherIdeographs : CharSet := ⟨[
  (0x3006, 0x3007), (0x3021, 0x3029), (0x3038, 0x303A), (0xF900, 0xFA0D), (0xFA10, 0xFA10),
  (0xFA12, 0xFA12), (0xFA15, 0xFA1E), (0xFA20, 0xFA20), (0xFA22, 0xFA22), (0xFA25, 0xFA26),
  (0xFA2A, 0xFA6D), (0xFA70, 0xFAD9), (0x16FE4, 0x16FE4), (0x17000, 0x187F7), (0x18800, 0x18CD5),
  (0x18CFF, 0x18D08), (0x1B170, 0x1B2FB), (0x2F800, 0x2FA1D)]⟩

/-- The ideographs. -/
def ideographs : CharSet := unifiedIdeographs.union otherIdeographs

/-- The parts of ideographs. -/
def radicals : CharSet := ⟨[(0x2E80, 0x2E99), (0x2E9B, 0x2EF3), (0x2F00, 0x2FD5)]⟩

end Text

end TypeAncestry
