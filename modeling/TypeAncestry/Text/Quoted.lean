import TypeAncestry.Text.Classes

/-!
# Quoted texts

* `Text.quoted` : a text in quotation marks in which every character can be seen: characters without
  a shape of their own are written as their number.
-/

namespace TypeAncestry

namespace Text

/-- A character as its number in hexadecimal digits. -/
def numbered (c : Char) : List Char :=
  ['\\', 'u', '\x7b'] ++ Nat.toDigits 16 c.toNat ++ ['\x7d']

/-- A character as it is shown between quotation marks. -/
def shown (c : Char) : List Char :=
  if c = '\x00' then ['\\', '0']
  else if c = '\t' then ['\\', 't']
  else if c = '\r' then ['\\', 'r']
  else if c = '\n' then ['\\', 'n']
  else if c = '\\' then ['\\', '\\']
  else if c = '"' then ['\\', '"']
  else if extendsGrapheme c || !isPrintable c then numbered c
  else [c]

/-- A text in quotation marks. -/
def quoted (s : String) : String := String.ofList ('"' :: s.toList.flatMap shown ++ ['"'])

end Text

end TypeAncestry
