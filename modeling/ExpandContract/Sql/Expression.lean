import ExpandContract.Sql.Quoted
import ExpandContract.Text.Lowercase
import ExpandContract.Text.Numeric

/-!
# Column references in expressions

A check that the user writes names its column under the name the column will have. While the
migration is in progress the column has another name, and the check has to refer to that one.

The module splits an expression into tokens: text literals, quoted identifiers, words, and single
other characters. A reference to a column is a quoted identifier with exactly that name, or a word
that the server would fold to it and that does not directly follow a point. Literals and names that
merely contain the column's name are left alone.

Two texts do not come back as they were: a quoted identifier whose closing quote is missing is
closed, and everything else keeps its characters.
-/

set_option autoImplicit false

namespace ExpandContract.Sql

/-! ## Tokens -/

/-- A piece of an expression. -/
inductive Token where
  /-- A text literal; the last one of an expression may lack its closing quote. -/
  | literal (text : List Char) (closed : Bool)
  /-- An identifier in double quotes, with the quotes removed. -/
  | quoted (name : List Char)
  /-- A letter or an underscore, followed by letters, numerals, underscores and dollar signs. -/
  | word (text : List Char)
  /-- Any other single character. -/
  | symbol (c : Char)
deriving DecidableEq, Repr

/-- The text of a token. -/
def Token.text : Token → List Char
  | .literal text true => '\'' :: doubled '\'' text ++ ['\'']
  | .literal text false => '\'' :: doubled '\'' text
  | .quoted name => '"' :: doubled '"' name ++ ['"']
  | .word text => text
  | .symbol c => [c]

/-- Whether a word can begin with the character. -/
def startsWord (c : Char) : Bool :=
  Text.isAlphabetic c || c == '_'

/-- Whether a word can go on with the character. -/
def continuesWord (c : Char) : Bool :=
  Text.isAlphanumeric c || c == '_' || c == '$'

/-- Where the reading of an expression stands. A token that is not finished holds the characters
read so far, the last one first. -/
inductive Reading where
  | between
  | inLiteral (read : List Char)
  | inQuoted (read : List Char)
  | inWord (read : List Char)
deriving DecidableEq, Repr

/-- What a character between two tokens begins: a token of its own, or a longer one. -/
def Reading.begin (c : Char) : Option Token × Reading :=
  if c = '\'' then (none, .inLiteral [])
  else if c = '"' then (none, .inQuoted [])
  else if startsWord c then (none, .inWord [c])
  else (some (.symbol c), .between)

/-- The tokens of the rest of an expression. -/
def tokensFrom : Reading → List Char → List Token
  | .between, [] => []
  | .between, c :: rest =>
      (Reading.begin c).1.toList ++ tokensFrom (Reading.begin c).2 rest
  | .inLiteral read, [] => [.literal read.reverse false]
  | .inLiteral read, '\'' :: '\'' :: rest => tokensFrom (.inLiteral ('\'' :: read)) rest
  | .inLiteral read, c :: rest =>
      if c = '\'' then .literal read.reverse true :: tokensFrom .between rest
      else tokensFrom (.inLiteral (c :: read)) rest
  | .inQuoted read, [] => [.quoted read.reverse]
  | .inQuoted read, '"' :: '"' :: rest => tokensFrom (.inQuoted ('"' :: read)) rest
  | .inQuoted read, c :: rest =>
      if c = '"' then .quoted read.reverse :: tokensFrom .between rest
      else tokensFrom (.inQuoted (c :: read)) rest
  | .inWord read, [] => [.word read.reverse]
  | .inWord read, c :: rest =>
      if continuesWord c then tokensFrom (.inWord (c :: read)) rest
      else
        .word read.reverse :: ((Reading.begin c).1.toList ++ tokensFrom (Reading.begin c).2 rest)

/-- The tokens of an expression, in order. -/
def tokens (expression : String) : List Token :=
  tokensFrom .between expression.toList

/-! ## References -/

/-- Whether a token refers to the column; `afterPoint` tells whether the token directly before it
is a point. A word is compared by its lower-case form, a quoted identifier as it is. -/
def Token.refersTo (column : List Char) (afterPoint : Bool) : Token → Bool
  | .quoted name => name == column
  | .word text => !afterPoint && Text.lowercase text == column
  | .literal _ _ => false
  | .symbol _ => false

/-- The tokens with every reference to the column replaced by a quoted identifier. -/
def renameReferences (column replacement : List Char) : Bool → List Token → List Token
  | _, [] => []
  | afterPoint, token :: rest =>
      (if token.refersTo column afterPoint then .quoted replacement else token) ::
        renameReferences column replacement (token == .symbol '.') rest

/-- An expression with every reference to the column replaced by the quoted replacement. -/
def replaceReferences (expression column replacement : String) : String :=
  String.ofList
    ((renameReferences column.toList replacement.toList false (tokens expression)).flatMap
      Token.text)

end ExpandContract.Sql
