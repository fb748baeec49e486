/-!
# What is wrong with a text that is not a signature

* `SignatureError` : the faults, each with the place of the fault, counted in bytes of UTF-8.
* `SignatureError.message` : a fault in words.
-/

namespace TypeAncestry

/-- A fault in the text of a signature. -/
inductive SignatureError where
  /-- The text ends where more is needed. -/
  | unexpectedEnd (position : Nat)
  /-- A character stands where it cannot. -/
  | unexpectedChar (found : Char) (position : Nat)
  /-- An argument is missing before a comma or a closing bracket. -/
  | emptyArgument (position : Nat)
  /-- Something follows a complete signature. -/
  | trailingInput (position : Nat)
  /-- Too many brackets are open. -/
  | tooDeep (position : Nat)
  deriving DecidableEq, Repr

namespace SignatureError

/-- The place of a fault. -/
def position : SignatureError → Nat
  | unexpectedEnd p => p
  | unexpectedChar _ p => p
  | emptyArgument p => p
  | trailingInput p => p
  | tooDeep p => p

/-- A fault in words. -/
def message : SignatureError → String
  | unexpectedEnd p => "unexpected end of signature at offset " ++ toString p
  | unexpectedChar c p =>
    "unexpected character '" ++ String.singleton c ++ "' at offset " ++ toString p
  | emptyArgument p => "empty type argument at offset " ++ toString p
  | trailingInput p => "trailing input at offset " ++ toString p
  | tooDeep p => "type arguments nested too deeply at offset " ++ toString p

end SignatureError

end TypeAncestry
