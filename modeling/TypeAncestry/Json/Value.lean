import TypeAncestry.Json.Text

/-!
# JSON values

The reader keeps of a JSON text what is needed to find texts, arrays and objects in it.

* `Json.Value` : the values.
* `Json.Value.ofText?` : read a text that holds one value and white space around it.
-/

namespace TypeAncestry

namespace Json

/-- A JSON value. -/
inductive Value where
  /-- A number, a truth value or `null`. -/
  | scalar
  /-- A text; none if it is no sequence of characters. -/
  | text (s : Option (List Char))
  /-- An array. -/
  | array (items : List Value)
  /-- An object: its keys and its values, in the order in which they are written. -/
  | object (keys : List (Option (List Char))) (values : List Value)
  deriving Repr

/-- The white space of JSON. -/
def isBlank (c : Char) : Bool := c == ' ' || c == '\n' || c == '\t' || c == '\r'

/-- A text without the white space it begins with. -/
def skipBlanks (s : List Char) : List Char := s.dropWhile isBlank

/-- Read one digit or more. -/
def digits? (s : List Char) : Option (List Char) :=
  match s with
  | c :: rest => if c.isDigit then some (rest.dropWhile Char.isDigit) else none
  | [] => none

/-- Read the whole part of a number: a zero by itself, or digits that do not begin with one. -/
def whole? (s : List Char) : Option (List Char) :=
  match s with
  | '0' :: rest => some rest
  | _ => digits? s

/-- Read the fraction of a number, if there is one. -/
def fraction? (s : List Char) : Option (List Char) :=
  match s with
  | '.' :: rest => digits? rest
  | _ => some s

/-- Read the exponent of a number, if there is one. -/
def exponent? (s : List Char) : Option (List Char) :=
  match s with
  | c :: rest =>
    if c = 'e' ∨ c = 'E' then
      match rest with
      | '+' :: rest => digits? rest
      | '-' :: rest => digits? rest
      | _ => digits? rest
    else some s
  | [] => some s

/-- Read a number. -/
def number? (s : List Char) : Option (List Char) :=
  let unsigned :=
    match s with
    | '-' :: rest => rest
    | _ => s
  ((whole? unsigned).bind fraction?).bind exponent?

/-- Read a number, a truth value or `null`. -/
def scalar? (s : List Char) : Option (List Char) :=
  match s with
  | 'n' :: 'u' :: 'l' :: 'l' :: rest => some rest
  | 't' :: 'r' :: 'u' :: 'e' :: rest => some rest
  | 'f' :: 'a' :: 'l' :: 's' :: 'e' :: rest => some rest
  | _ => number? s

mutual

/-- Read a value; `fuel` bounds the recursion. -/
def value? (fuel : Nat) (s : List Char) : Option (Value × List Char) :=
  match fuel with
  | 0 => none
  | fuel + 1 =>
    match skipBlanks s with
    | '"' :: rest => (unquote rest).map fun (units, rest) => (.text (joinPairs? units), rest)
    | '[' :: rest =>
      match skipBlanks rest with
      | ']' :: rest => some (.array [], rest)
      | _ => (items? fuel rest).map fun (vs, rest) => (.array vs, rest)
    | '\x7b' :: rest =>
      match skipBlanks rest with
      | '\x7d' :: rest => some (.object [] [], rest)
      | _ => (members? fuel rest).map fun (ks, vs, rest) => (.object ks vs, rest)
    | s => (scalar? s).map fun rest => (.scalar, rest)

/-- Read the items of an array, one or more, and its closing bracket. -/
def items? (fuel : Nat) (s : List Char) : Option (List Value × List Char) :=
  match fuel with
  | 0 => none
  | fuel + 1 =>
    match value? fuel s with
    | none => none
    | some (v, rest) =>
      match skipBlanks rest with
      | ',' :: rest => (items? fuel rest).map fun (vs, rest) => (v :: vs, rest)
      | ']' :: rest => some ([v], rest)
      | _ => none

/-- Read the members of an object, one or more, and its closing brace. -/
def members? (fuel : Nat) (s : List Char) :
    Option (List (Option (List Char)) × List Value × List Char) :=
  match fuel with
  | 0 => none
  | fuel + 1 =>
    match skipBlanks s with
    | '"' :: rest =>
      match unquote rest with
      | none => none
      | some (units, rest) =>
        match skipBlanks rest with
        | ':' :: rest =>
          match value? fuel rest with
          | none => none
          | some (v, rest) =>
            match skipBlanks rest with
            | ',' :: rest =>
              (members? fuel rest).map fun (ks, vs, rest) =>
                (joinPairs? units :: ks, v :: vs, rest)
            | '\x7d' :: rest => some ([joinPairs? units], [v], rest)
            | _ => none
        | _ => none
    | _ => none

end

/-- Enough fuel to read any value of a text: reading a part takes two units at most for every
character. -/
def fuelFor (s : List Char) : Nat := 2 * s.length + 2

/-- Read a text that holds one value and white space around it. -/
def Value.ofText? (s : List Char) : Option Value :=
  match value? (fuelFor s) s with
  | some (v, rest) => if (skipBlanks rest).isEmpty then some v else none
  | none => none

end Json

end TypeAncestry
