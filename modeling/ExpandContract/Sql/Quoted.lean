/-!
# Quoted identifiers and literals

SQL encloses an identifier in double quotes and a text literal in single quotes; a quote inside is
written twice. Everything this library sends to a server writes its names through `quotedName` and
its literals through `quotedText`, so that no name can end its own quotes.

The quote character is a parameter of the encoding. `doubled` writes the inside of the quotes and
`undoubled` reads it back up to the closing quote, together with the text that follows.
-/

set_option autoImplicit false

namespace ExpandContract.Sql

/-! ## The inside of the quotes -/

/-- A text as it stands between two quotes: each quote is written twice. -/
def doubled (quote : Char) : List Char → List Char
  | [] => []
  | c :: rest => if c = quote then quote :: quote :: doubled quote rest else c :: doubled quote rest

/-- Reads the inside of the quotes up to the closing quote: the text that was quoted, and what
follows it. There is no result when the closing quote is missing. -/
def undoubled (quote : Char) : List Char → Option (List Char × List Char)
  | [] => none
  | [c] => if c = quote then some ([], []) else none
  | c :: d :: rest =>
      if c = quote then
        if d = quote then
          (undoubled quote rest).map fun found => (quote :: found.1, found.2)
        else some ([], d :: rest)
      else (undoubled quote (d :: rest)).map fun found => (c :: found.1, found.2)

/-- The number of characters a quoted text takes: one for each character, and one more for each
quote. -/
theorem length_doubled (quote : Char) (text : List Char) :
    (doubled quote text).length = text.length + text.count quote := by
  induction text with
  | nil => rfl
  | cons c rest ih =>
      by_cases same : c = quote
      · simp [doubled, same, ih]; omega
      · simp [doubled, same, ih]; omega

/-! ## Quoted text -/

/-- A text between two quotes. -/
def quoted (quote : Char) (text : String) : String :=
  String.ofList (quote :: doubled quote text.toList ++ [quote])

/-- An identifier in double quotes. -/
def quotedName (name : String) : String :=
  quoted '"' name

/-- A text literal in single quotes. -/
def quotedText (text : String) : String :=
  quoted '\'' text

/-- The name of an object in a schema: both names quoted, with a point between them. -/
def qualifiedName (schema name : String) : String :=
  quotedName schema ++ "." ++ quotedName name

/-- Texts joined by a separator. -/
def joined (separator : String) (texts : List String) : String :=
  separator.intercalate texts

/-- A list of identifiers, quoted and joined by commas. -/
def quotedNames (names : List String) : String :=
  joined ", " (names.map quotedName)

/-- The characters of a quoted text are the quote, the doubled text and the quote. -/
theorem toList_quoted (quote : Char) (text : String) :
    (quoted quote text).toList = quote :: doubled quote text.toList ++ [quote] := by
  simp [quoted]

end ExpandContract.Sql
