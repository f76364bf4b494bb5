import ExpandContract.Json.Basic

/-!
# Writing JSON values

A value is written without white space, the members of an object in their order. In a string the
quote, the backslash and the control characters are escaped, and every other character stands for
itself. A number that is not an integer is written by its digits and the exponent of ten.

A value without a text, of which `Json.unreadable` is the only one, is written as null.
-/

set_option autoImplicit false

namespace ExpandContract.Json

/-- The hexadecimal digit of a number below sixteen. -/
def hexDigit (n : Nat) : Char :=
  if n < 10 then Char.ofNat ('0'.toNat + n) else Char.ofNat ('a'.toNat + (n - 10))

/-- One character inside a string. -/
def printChar (c : Char) : List Char :=
  if c = '"' then ['\\', '"']
  else if c = '\\' then ['\\', '\\']
  else if c = '\n' then ['\\', 'n']
  else if c = '\r' then ['\\', 'r']
  else if c = '\t' then ['\\', 't']
  else if c.toNat = 8 then ['\\', 'b']
  else if c.toNat = 12 then ['\\', 'f']
  else if c.toNat < 0x20 then
    ['\\', 'u', '0', '0', hexDigit (c.toNat / 16), hexDigit (c.toNat % 16)]
  else [c]

/-- A text between quotes. -/
def printString (text : String) : List Char :=
  '"' :: text.toList.flatMap printChar ++ ['"']

/-- The decimal digits of an integer, after its sign. -/
def printInt (n : Int) : List Char :=
  if n < 0 then '-' :: Nat.toDigits 10 n.natAbs else Nat.toDigits 10 n.natAbs

/-- A number. -/
def printNumber : JsonNumber → List Char
  | .int n => printInt n
  | .decimal negative digits exponent =>
      (if negative then ['-'] else []) ++ Nat.toDigits 10 digits ++ 'e' :: printInt exponent

mutual

/-- The characters of a value. -/
def print : Json → List Char
  | .null => ['n', 'u', 'l', 'l']
  | .bool true => ['t', 'r', 'u', 'e']
  | .bool false => ['f', 'a', 'l', 's', 'e']
  | .number n => printNumber n
  | .string text => printString text
  | .array items => '[' :: printItems items ++ [']']
  | .object members => '\x7b' :: printMembers members ++ ['\x7d']
  | .unreadable => ['n', 'u', 'l', 'l']

/-- The items of an array, with commas between them. -/
def printItems : List Json → List Char
  | [] => []
  | [item] => print item
  | item :: rest => print item ++ ',' :: printItems rest

/-- The members of an object, with commas between them. -/
def printMembers : List (String × Json) → List Char
  | [] => []
  | [(name, value)] => printString name ++ ':' :: print value
  | (name, value) :: rest => printString name ++ ':' :: print value ++ ',' :: printMembers rest

end

/-- The text of a value. -/
def render (value : Json) : String :=
  String.ofList value.print

end ExpandContract.Json
