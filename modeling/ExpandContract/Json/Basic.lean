/-!
# JSON values

A value as it is read from a text and written to one. The members of an object keep their order, and
a name may occur more than once, because a text can say so; `lastWins` gives the value that a
database keeps of it.

A text can be well formed and still stand for no value: an escape may name one half of a surrogate
pair alone. Such a string, and an object that has such a string for a member's name, is read as
`unreadable`. It may stand where nothing looks at it, and every reader refuses it.
-/

set_option autoImplicit false

namespace ExpandContract

/-- A number of a JSON text. -/
inductive JsonNumber where
  /-- A number written with digits alone, and not as minus zero. -/
  | int (n : Int)
  /-- Any other number: its sign, its digits read as one number, and the exponent of ten. -/
  | decimal (negative : Bool) (digits : Nat) (exponent : Int)
deriving DecidableEq, Repr

/-- A JSON value. -/
inductive Json where
  | null
  | bool (b : Bool)
  | number (n : JsonNumber)
  | string (text : String)
  | array (items : List Json)
  | object (members : List (String × Json))
  | unreadable
deriving Repr

namespace Json

/-- An integer. -/
def int (n : Int) : Json :=
  .number (.int n)

/-- A list of texts. -/
def strings (texts : List String) : Json :=
  .array (texts.map .string)

/-- A text, or null. -/
def optString : Option String → Json
  | none => .null
  | some text => .string text

/-- The text of a string. -/
def string? : Json → Option String
  | .string text => some text
  | _ => none

/-- The truth value of a Boolean. -/
def bool? : Json → Option Bool
  | .bool b => some b
  | _ => none

/-- The number of an integer. -/
def int? : Json → Option Int
  | .number (.int n) => some n
  | _ => none

/-- The items of an array, each read in the same way. -/
def list? {α : Type} (read : Json → Option α) : Json → Option (List α)
  | .array items => items.mapM read
  | _ => none

/-- A value that may be null. -/
def nullable? {α : Type} (read : Json → Option α) : Json → Option (Option α)
  | .null => some none
  | value => (read value).map some

/-! ## One member for each name -/

/-- The members with, of several members of one name, only the last. -/
def keepLast {α : Type} : List (String × α) → List (String × α)
  | [] => []
  | entry :: rest =>
      if rest.any (fun later => later.1 == entry.1) then keepLast rest else entry :: keepLast rest

mutual

/-- The value in which every object has, of several members of one name, only the last. -/
def lastWins : Json → Json
  | .array items => .array (lastWinsItems items)
  | .object members => .object (keepLast (lastWinsMembers members))
  | value => value

/-- `lastWins` for the items of an array. -/
def lastWinsItems : List Json → List Json
  | [] => []
  | item :: rest => lastWins item :: lastWinsItems rest

/-- `lastWins` for the members of an object. -/
def lastWinsMembers : List (String × Json) → List (String × Json)
  | [] => []
  | (name, value) :: rest => (name, lastWins value) :: lastWinsMembers rest

end

end Json

end ExpandContract
