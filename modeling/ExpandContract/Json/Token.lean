import ExpandContract.Json.Basic

/-!
# Tokens of a JSON text

The first of the two steps in which a JSON text is read: the text is split into brackets, commas,
colons, strings, numbers and the three words, and white space (spaces, tabs, carriage returns and
line feeds) is dropped. Strings are read in two parts, first into characters and numbered code units
as they are written, then into text, where two code units of a surrogate pair make one character.

A string in which a surrogate stands alone is a token without a text.
-/

set_option autoImplicit false

namespace ExpandContract.Json

/-- A token of a JSON text. -/
inductive Token where
  | openArray
  | closeArray
  | openObject
  | closeObject
  | comma
  | colon
  | null
  | bool (b : Bool)
  | number (n : JsonNumber)
  /-- A string; there is no text when a surrogate stands alone in it. -/
  | string (text : Option String)
deriving DecidableEq, Repr

/-! ## Strings -/

/-- A character of a string as it is written: by itself, or by the number of a code unit. -/
inductive Piece where
  | char (c : Char)
  | unit (n : Nat)
deriving DecidableEq, Repr

/-- The value of a hexadecimal digit, small or capital. -/
def hexValue? (c : Char) : Option Nat :=
  if '0' ≤ c ∧ c ≤ '9' then some (c.toNat - '0'.toNat)
  else if 'a' ≤ c ∧ c ≤ 'f' then some (c.toNat - 'a'.toNat + 10)
  else if 'A' ≤ c ∧ c ≤ 'F' then some (c.toNat - 'A'.toNat + 10)
  else none

/-- The code unit that four hexadecimal digits name. -/
def hexUnit? (a b c d : Char) : Option Nat := do
  let a ← hexValue? a
  let b ← hexValue? b
  let c ← hexValue? c
  let d ← hexValue? d
  return ((a * 16 + b) * 16 + c) * 16 + d

/-- The character that a backslash and one further character stand for. -/
def escaped? : Char → Option Char
  | '"' => some '"'
  | '\\' => some '\\'
  | '/' => some '/'
  | 'b' => some (Char.ofNat 8)
  | 'f' => some (Char.ofNat 12)
  | 'n' => some '\n'
  | 'r' => some '\r'
  | 't' => some '\t'
  | _ => none

/-- Reads the inside of a string up to the closing quote. Control characters have to be escaped. -/
def lexPieces : List Char → Option (List Piece × List Char)
  | [] => none
  | '"' :: rest => some ([], rest)
  | '\\' :: 'u' :: a :: b :: c :: d :: rest =>
      match hexUnit? a b c d, lexPieces rest with
      | some n, some (pieces, after) => some (.unit n :: pieces, after)
      | _, _ => none
  | '\\' :: e :: rest =>
      match escaped? e, lexPieces rest with
      | some c, some (pieces, after) => some (.char c :: pieces, after)
      | _, _ => none
  | c :: rest =>
      if c.toNat < 0x20 ∨ c = '\\' then none
      else
        match lexPieces rest with
        | some (pieces, after) => some (.char c :: pieces, after)
        | none => none

/-- Whether the code unit is the first half of a surrogate pair. -/
def isHighSurrogate (n : Nat) : Bool :=
  0xd800 ≤ n && n < 0xdc00

/-- Whether the code unit is the second half of a surrogate pair. -/
def isLowSurrogate (n : Nat) : Bool :=
  0xdc00 ≤ n && n < 0xe000

/-- The text of a string, unless a surrogate stands alone in it. -/
def textOfPieces? : List Piece → Option (List Char)
  | [] => some []
  | .char c :: rest => (textOfPieces? rest).map (c :: ·)
  | .unit high :: .unit low :: rest =>
      if isHighSurrogate high then
        if isLowSurrogate low then
          (textOfPieces? rest).map
            (Char.ofNat (0x10000 + (high - 0xd800) * 0x400 + (low - 0xdc00)) :: ·)
        else none
      else if isLowSurrogate high then none
      else (textOfPieces? (.unit low :: rest)).map (Char.ofNat high :: ·)
  | .unit n :: rest =>
      if isHighSurrogate n || isLowSurrogate n then none
      else (textOfPieces? rest).map (Char.ofNat n :: ·)

/-! ## Numbers -/

/-- The number that decimal digits stand for. -/
def digitsValue (digits : List Char) : Nat :=
  digits.foldl (fun n c => n * 10 + (c.toNat - '0'.toNat)) 0

/-- Splits a text after the decimal digits it begins with; there has to be one. -/
def lexDigits? (text : List Char) : Option (List Char × List Char) :=
  match text.takeWhile Char.isDigit with
  | [] => none
  | digits => some (digits, text.dropWhile Char.isDigit)

/-- The places after the point, if there is a point. -/
def lexFraction? : List Char → Option (Option (List Char) × List Char)
  | '.' :: rest => (lexDigits? rest).map fun found => (some found.1, found.2)
  | rest => some (none, rest)

/-- The exponent of ten, if there is one. -/
def lexExponent? : List Char → Option (Option Int × List Char)
  | c :: rest =>
      if c = 'e' ∨ c = 'E' then
        let signed := match rest with
          | '-' :: rest => (true, rest)
          | '+' :: rest => (false, rest)
          | rest => (false, rest)
        (lexDigits? signed.2).map fun found =>
          let n : Int := digitsValue found.1
          (some (if signed.1 then -n else n), found.2)
      else some (none, c :: rest)
  | [] => some (none, [])

/-- Reads a number. It has no leading zero, and digits on both sides of a point. -/
def lexNumber? (text : List Char) : Option (JsonNumber × List Char) := do
  let (negative, text) := match text with
    | '-' :: rest => (true, rest)
    | rest => (false, rest)
  let (whole, text) ← lexDigits? text
  if whole.head? = some '0' ∧ whole ≠ ['0'] then none
  let (fraction, text) ← lexFraction? text
  let (exponent, text) ← lexExponent? text
  let places := fraction.getD []
  let value := digitsValue (whole ++ places)
  if fraction = none ∧ exponent = none ∧ ¬(negative ∧ value = 0) then
    return (.int (if negative then -(value : Int) else value), text)
  else
    return (.decimal negative value (exponent.getD 0 - places.length), text)

/-! ## The text -/

/-- Whether the character may stand between two tokens. -/
def isSpace (c : Char) : Bool :=
  c == ' ' || c == '\t' || c == '\r' || c == '\n'

/-- The token that begins with the character, and the text after it. -/
def lexToken? (c : Char) (rest : List Char) : Option (Token × List Char) :=
  match c, rest with
  | '[', rest => some (.openArray, rest)
  | ']', rest => some (.closeArray, rest)
  | '\x7b', rest => some (.openObject, rest)
  | '\x7d', rest => some (.closeObject, rest)
  | ',', rest => some (.comma, rest)
  | ':', rest => some (.colon, rest)
  | 'n', 'u' :: 'l' :: 'l' :: rest => some (.null, rest)
  | 't', 'r' :: 'u' :: 'e' :: rest => some (.bool true, rest)
  | 'f', 'a' :: 'l' :: 's' :: 'e' :: rest => some (.bool false, rest)
  | '"', rest =>
      (lexPieces rest).map fun found =>
        (.string ((textOfPieces? found.1).map String.ofList), found.2)
  | c, rest => (lexNumber? (c :: rest)).map fun found => (.number found.1, found.2)

/-- The tokens of a text, read with as many steps as it has characters. -/
def lexFrom : Nat → List Char → Option (List Token)
  | _, [] => some []
  | 0, _ :: _ => none
  | fuel + 1, c :: rest =>
      if isSpace c then lexFrom fuel rest
      else
        match lexToken? c rest with
        | some (token, rest) => (lexFrom fuel rest).map (token :: ·)
        | none => none

/-- The tokens of a text, unless a part of it is no token. -/
def lex? (text : String) : Option (List Token) :=
  lexFrom text.toList.length text.toList

end ExpandContract.Json
