import ExpandContract.Json.Printer
import ExpandContract.Json.Token
import Mathlib.Tactic.SplitIfs

/-!
# The texts of a value

A value can be written in many ways: white space may stand around every value and every member's
name, and a character of a string may stand for itself, behind a backslash, or by the numbers of its
code units. `Json.Spells` says which texts are texts of a value, apart from how they are read.
Numbers have one text each. What the printer writes is one of the texts (`Json.spells_print`).
-/

set_option autoImplicit false

namespace ExpandContract.Json

/-! ## Strings -/

/-- The ways to write one character of a string. -/
inductive SpellsChar : Char → List Char → Prop
  | itself {c : Char} (visible : 0x20 ≤ c.toNat) (notQuote : c ≠ '"') (notBackslash : c ≠ '\\') :
      SpellsChar c [c]
  | short {c e : Char} (stands : escaped? e = some c) : SpellsChar c ['\\', e]
  /-- By one code unit, which is no half of a surrogate pair. -/
  | unit {a b c d : Char} {n : Nat} (digits : hexUnit? a b c d = some n)
      (notHigh : isHighSurrogate n = false) (notLow : isLowSurrogate n = false) :
      SpellsChar (Char.ofNat n) ['\\', 'u', a, b, c, d]
  /-- By the two halves of a surrogate pair. -/
  | pair {a b c d e f g h : Char} {high low : Nat} (first : hexUnit? a b c d = some high)
      (second : hexUnit? e f g h = some low) (isHigh : isHighSurrogate high = true)
      (isLow : isLowSurrogate low = true) :
      SpellsChar (Char.ofNat (0x10000 + (high - 0xd800) * 0x400 + (low - 0xdc00)))
        ['\\', 'u', a, b, c, d, '\\', 'u', e, f, g, h]

/-- The ways to write the characters of a string one after another. -/
inductive SpellsText : List Char → List Char → Prop
  | nil : SpellsText [] []
  | cons {c : Char} {rest first second : List Char} (head : SpellsChar c first)
      (tail : SpellsText rest second) : SpellsText (c :: rest) (first ++ second)

/-- A text whose characters all stand for themselves. -/
theorem SpellsText.plain {text : List Char}
    (plain : ∀ c ∈ text, 0x20 ≤ c.toNat ∧ c ≠ '"' ∧ c ≠ '\\') : SpellsText text text := by
  induction text with
  | nil => exact .nil
  | cons c rest ih =>
      obtain ⟨visible, notQuote, notBackslash⟩ := plain c List.mem_cons_self
      exact .cons (.itself visible notQuote notBackslash)
        (ih fun later among => plain later (List.mem_cons_of_mem _ among))

theorem SpellsText.append {first second writtenFirst writtenSecond : List Char}
    (early : SpellsText first writtenFirst) (late : SpellsText second writtenSecond) :
    SpellsText (first ++ second) (writtenFirst ++ writtenSecond) := by
  induction early with
  | nil => exact late
  | cons head _ ih =>
      rw [List.append_assoc]
      exact .cons head ih

/-- The ways to write a string with its quotes. -/
def SpellsString (text : String) (written : List Char) : Prop :=
  ∃ inside, SpellsText text.toList inside ∧ written = '"' :: inside ++ ['"']

/-! ## Values -/

/-- White space. -/
def Blank (text : List Char) : Prop :=
  ∀ c ∈ text, isSpace c = true

/-- A text of the given kind with white space around it. -/
def Surrounded (body : List Char → Prop) (text : List Char) : Prop :=
  ∃ before inside after, Blank before ∧ body inside ∧ Blank after ∧
    text = before ++ inside ++ after

/-- A member of an object: its name, a colon and a value. -/
def SpellsMember (name : String) (value : List Char → Prop) (text : List Char) : Prop :=
  ∃ key body, Surrounded (SpellsString name) key ∧ Surrounded value body ∧
    text = key ++ ':' :: body

mutual

/-- The ways to write a value. -/
def Spells : Json → List Char → Prop
  | .null, text => text = print .null
  | .bool b, text => text = print (.bool b)
  | .number n, text => text = printNumber n
  | .string content, text => SpellsString content text
  | .array items, text => ∃ inside, SpellsItems items inside ∧ text = '[' :: inside ++ [']']
  | .object members, text =>
      ∃ inside, SpellsMembers members inside ∧ text = '\x7b' :: inside ++ ['\x7d']
  | .unreadable, _ => False

/-- The ways to write the items of an array. -/
def SpellsItems : List Json → List Char → Prop
  | [], text => Blank text
  | [item], text => Surrounded (Spells item) text
  | item :: rest, text =>
      ∃ first others, Surrounded (Spells item) first ∧ SpellsItems rest others ∧
        text = first ++ ',' :: others

/-- The ways to write the members of an object. -/
def SpellsMembers : List (String × Json) → List Char → Prop
  | [], text => Blank text
  | [(name, value)], text => SpellsMember name (Spells value) text
  | (name, value) :: rest, text =>
      ∃ first others, SpellsMember name (Spells value) first ∧ SpellsMembers rest others ∧
        text = first ++ ',' :: others

end

/-! ## What the printer writes -/

/-- White space may be left out. -/
theorem Surrounded.bare {body : List Char → Prop} {text : List Char} (spelled : body text) :
    Surrounded body text :=
  ⟨[], text, [], by simp [Blank], spelled, by simp [Blank], by simp⟩

theorem spellsChar_printChar (c : Char) : SpellsChar c (printChar c) := by
  have hexadecimal : ∀ n < 0x20,
      hexUnit? '0' '0' (hexDigit (n / 16)) (hexDigit (n % 16)) = some n ∧
        isHighSurrogate n = false ∧ isLowSurrogate n = false := by decide
  have numbered (n : Nat) (code : c.toNat = n) : Char.ofNat n = c := by
    rw [← code, Char.ofNat_toNat]
  unfold printChar
  split_ifs with quote backslash feed carriage tab backspace form control
  · subst quote
    exact .short rfl
  · subst backslash
    exact .short rfl
  · subst feed
    exact .short rfl
  · subst carriage
    exact .short rfl
  · subst tab
    exact .short rfl
  · exact numbered 8 backspace ▸ .short rfl
  · exact numbered 12 form ▸ .short rfl
  · obtain ⟨digits, notHigh, notLow⟩ := hexadecimal c.toNat control
    have spelled := SpellsChar.unit digits notHigh notLow
    rwa [Char.ofNat_toNat] at spelled
  · exact .itself (Nat.le_of_not_lt control) quote backslash

theorem spellsText_flatMap_printChar (text : List Char) :
    SpellsText text (text.flatMap printChar) := by
  induction text with
  | nil => exact .nil
  | cons c rest ih => exact .cons (spellsChar_printChar c) ih

theorem spellsString_printString (text : String) : SpellsString text (printString text) :=
  ⟨_, spellsText_flatMap_printChar text.toList, rfl⟩

mutual

/-- Whether the value has a text. -/
def Readable : Json → Prop
  | .array items => ReadableItems items
  | .object members => ReadableMembers members
  | .unreadable => False
  | _ => True

/-- Whether all items have texts. -/
def ReadableItems : List Json → Prop
  | [] => True
  | item :: rest => Readable item ∧ ReadableItems rest

/-- Whether the values of all members have texts. -/
def ReadableMembers : List (String × Json) → Prop
  | [] => True
  | (_, value) :: rest => Readable value ∧ ReadableMembers rest

end

@[simp]
theorem readable_null : Json.null.Readable := trivial

@[simp]
theorem readable_bool (b : Bool) : (Json.bool b).Readable := trivial

@[simp]
theorem readable_number (n : JsonNumber) : (Json.number n).Readable := trivial

@[simp]
theorem readable_string (text : String) : (Json.string text).Readable := trivial

@[simp]
theorem readable_array {items : List Json} :
    (Json.array items).Readable ↔ ∀ item ∈ items, item.Readable := by
  rw [Readable]
  induction items with
  | nil => simp [ReadableItems]
  | cons item rest ih => simp [ReadableItems, ih]

@[simp]
theorem readable_object {members : List (String × Json)} :
    (Json.object members).Readable ↔ ReadableMembers members := by
  rw [Readable]

@[simp]
theorem readableMembers_nil : ReadableMembers [] := trivial

@[simp]
theorem readableMembers_cons {name : String} {value : Json} {rest : List (String × Json)} :
    ReadableMembers ((name, value) :: rest) ↔ value.Readable ∧ ReadableMembers rest := by
  rw [ReadableMembers]

@[simp]
theorem readableMembers_append {first rest : List (String × Json)} :
    ReadableMembers (first ++ rest) ↔ ReadableMembers first ∧ ReadableMembers rest := by
  induction first with
  | nil => simp
  | cons member others ih =>
      rw [List.cons_append, readableMembers_cons, readableMembers_cons, ih, and_assoc]

mutual

/-- What the printer writes for a value is a text of it. -/
theorem spells_print : ∀ v : Json, v.Readable → v.Spells v.print
  | .null, _ => by rw [Spells]
  | .bool b, _ => by rw [Spells]
  | .number n, _ => by rw [Spells, print]
  | .string text, _ => by
      rw [Spells, print]
      exact spellsString_printString text
  | .array items, readable => by
      rw [Spells, print]
      rw [Readable] at readable
      exact ⟨_, spellsItems_print items readable, rfl⟩
  | .object members, readable => by
      rw [Spells, print]
      rw [Readable] at readable
      exact ⟨_, spellsMembers_print members readable, rfl⟩
  | .unreadable, readable => by rwa [Readable] at readable

theorem spellsItems_print : ∀ items : List Json, ReadableItems items →
    SpellsItems items (printItems items)
  | [], _ => by simp [SpellsItems, printItems, Blank]
  | [item], readable => by
      rw [ReadableItems] at readable
      rw [SpellsItems, printItems]
      exact .bare (spells_print item readable.1)
  | item :: next :: rest, readable => by
      rw [ReadableItems] at readable
      rw [SpellsItems.eq_3 _ _ _ (by simp), printItems.eq_3 _ _ (by simp)]
      exact ⟨_, _, .bare (spells_print item readable.1),
        spellsItems_print (next :: rest) readable.2, rfl⟩

theorem spellsMembers_print : ∀ members : List (String × Json), ReadableMembers members →
    SpellsMembers members (printMembers members)
  | [], _ => by simp [SpellsMembers, printMembers, Blank]
  | [(name, value)], readable => by
      rw [ReadableMembers] at readable
      rw [SpellsMembers, printMembers]
      exact ⟨_, _, .bare (spellsString_printString name), .bare (spells_print value readable.1),
        rfl⟩
  | (name, value) :: next :: rest, readable => by
      rw [ReadableMembers] at readable
      rw [SpellsMembers.eq_3 _ _ _ _ (by simp), printMembers.eq_3 _ _ _ (by simp)]
      exact ⟨_, _, ⟨_, _, .bare (spellsString_printString name),
          .bare (spells_print value readable.1), rfl⟩,
        spellsMembers_print (next :: rest) readable.2, by simp⟩

end

end ExpandContract.Json
