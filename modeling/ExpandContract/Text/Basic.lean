/-!
# Characters and texts

The character properties of this library are tables of closed ranges of code points, as the
Unicode Character Database lists them. A table is a list of pairs, and a code point has the
property when some pair encloses it. The tables leave out the ASCII characters: each property
states its ASCII part as a rule, so that the common case never searches a table.

The first of these properties is `White_Space`: a required field of an operation is missing when its
text has no other characters. Beside it stands the search in texts: whether a text occurs in
another, and the replacement of all its occurrences. They are looked for from the left and do not
overlap, and the empty text occurs before every character and at the end.
-/

set_option autoImplicit false

namespace ExpandContract.Text

/-! ## Ranges of code points -/

/-- Whether some range of the table encloses the code point; both ends belong to a range. -/
def inRanges (ranges : List (Nat × Nat)) (code : Nat) : Bool :=
  ranges.any fun range => range.1 ≤ code && code ≤ range.2

/-! ## Blank texts -/

/-- The white space code points outside ASCII. -/
def whiteSpaceRanges : List (Nat × Nat) :=
  [(0x85, 0x85), (0xa0, 0xa0), (0x1680, 0x1680), (0x2000, 0x200a), (0x2028, 0x2029),
    (0x202f, 0x202f), (0x205f, 0x205f), (0x3000, 0x3000)]

/-- Whether the character is white space, in any script: inside ASCII, the space and the five
characters from the tab to the carriage return. -/
def isWhiteSpace (c : Char) : Bool :=
  if c.toNat < 0x80 then c.toNat == 0x20 || (0x09 ≤ c.toNat && c.toNat ≤ 0x0d)
  else inRanges whiteSpaceRanges c.toNat

/-- Whether a text has no character but white space. -/
def isBlank (text : String) : Bool :=
  text.toList.all isWhiteSpace

/-! ## Finding and replacing -/

/-- Whether the pattern occurs in the text. -/
def occursIn (pattern : List Char) : List Char → Bool
  | [] => pattern.isEmpty
  | c :: rest => pattern.isPrefixOf (c :: rest) || occursIn pattern rest

/-- Replaces the occurrences of a pattern that is not empty. The number counts the characters that
still belong to an occurrence which has been replaced. -/
def replaceFrom (pattern replacement : List Char) : Nat → List Char → List Char
  | _, [] => []
  | skip + 1, _ :: rest => replaceFrom pattern replacement skip rest
  | 0, c :: rest =>
      if pattern.isPrefixOf (c :: rest) then
        replacement ++ replaceFrom pattern replacement (pattern.length - 1) rest
      else c :: replaceFrom pattern replacement 0 rest

/-- Replaces all occurrences of the pattern. -/
def replaceAll (pattern replacement text : List Char) : List Char :=
  if pattern.isEmpty then text.flatMap (fun c => replacement ++ [c]) ++ replacement
  else replaceFrom pattern replacement 0 text

end ExpandContract.Text
