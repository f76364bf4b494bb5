import ExpandContract.Json.Token

/-!
# Reading JSON values

The second step of reading: the tokens of a text are folded into a value. The state of the fold is
what may come next, together with the arrays and objects that are still open, the innermost one
first. Every token is looked at once and nothing is looked at ahead, so a text may be nested to any
depth.

A text is accepted when it is one complete value; after the last token nothing may be open.
-/

set_option autoImplicit false

namespace ExpandContract.Json

/-- An array or object that is still open. Items and members are kept with the last one first. -/
inductive Frame where
  | array (items : List Json)
  /-- An object between two members; `readable` is false once a member's name had no text. -/
  | object (members : List (String × Json)) (readable : Bool)
  /-- An object whose next member has the given name and no value yet. -/
  | member (members : List (String × Json)) (readable : Bool) (name : Option String)

/-- What may come next. -/
inductive Expected where
  | value
  | valueOrClose
  | name
  | nameOrClose
  | colon (name : Option String)
  /-- A value has just ended: a comma or a closing bracket may follow, or the end of the text. -/
  | after (value : Json)

/-- The state between two tokens. -/
structure Progress where
  expected : Expected
  frames : List Frame

/-- The object of the members read. -/
def closeObject (members : List (String × Json)) (readable : Bool) : Json :=
  if readable then .object members.reverse else .unreadable

/-- The members of an open object after one more. -/
def addMember (members : List (String × Json)) (readable : Bool) (name : Option String)
    (value : Json) : List (String × Json) × Bool :=
  match name with
  | some name => ((name, value) :: members, readable)
  | none => (members, false)

/-- The state after the first token of a value. -/
def beginValue (frames : List Frame) : Token → Option Progress
  | .null => some ⟨.after .null, frames⟩
  | .bool b => some ⟨.after (.bool b), frames⟩
  | .number n => some ⟨.after (.number n), frames⟩
  | .string (some text) => some ⟨.after (.string text), frames⟩
  | .string none => some ⟨.after .unreadable, frames⟩
  | .openArray => some ⟨.valueOrClose, .array [] :: frames⟩
  | .openObject => some ⟨.nameOrClose, .object [] true :: frames⟩
  | _ => none

/-- The state after one more token, unless the token may not stand there. -/
def Progress.step : Progress → Token → Option Progress
  | ⟨.value, frames⟩, token => beginValue frames token
  | ⟨.valueOrClose, .array [] :: frames⟩, .closeArray => some ⟨.after (.array []), frames⟩
  | ⟨.valueOrClose, frames⟩, token => beginValue frames token
  | ⟨.name, frames⟩, .string name => some ⟨.colon name, frames⟩
  | ⟨.nameOrClose, .object [] true :: frames⟩, .closeObject => some ⟨.after (.object []), frames⟩
  | ⟨.nameOrClose, frames⟩, .string name => some ⟨.colon name, frames⟩
  | ⟨.colon name, .object members readable :: frames⟩, .colon =>
      some ⟨.value, .member members readable name :: frames⟩
  | ⟨.after value, .array items :: frames⟩, .comma =>
      some ⟨.value, .array (value :: items) :: frames⟩
  | ⟨.after value, .array items :: frames⟩, .closeArray =>
      some ⟨.after (.array (value :: items).reverse), frames⟩
  | ⟨.after value, .member members readable name :: frames⟩, .comma =>
      let added := addMember members readable name value
      some ⟨.name, .object added.1 added.2 :: frames⟩
  | ⟨.after value, .member members readable name :: frames⟩, .closeObject =>
      let added := addMember members readable name value
      some ⟨.after (closeObject added.1 added.2), frames⟩
  | _, _ => none

/-- The state before the first token. -/
def Progress.start : Progress := ⟨.value, []⟩

/-- The value that has been read, if it is complete. -/
def Progress.result? : Progress → Option Json
  | ⟨.after value, []⟩ => some value
  | _ => none

/-- The value of a list of tokens. -/
def ofTokens? (tokens : List Token) : Option Json := do
  let final ← tokens.foldlM Progress.step .start
  final.result?

/-- The value of a text. -/
def parse? (text : String) : Option Json := do
  ofTokens? (← lex? text)

end ExpandContract.Json
