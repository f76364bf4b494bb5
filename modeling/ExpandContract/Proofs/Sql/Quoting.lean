import ExpandContract.Sql.Quoted

/-!
# Quotes that are read back

A quoted text is read back as it was, whatever follows the closing quote, as long as that is not
another quote (`undoubled_doubled`).

The server itself writes names in quotes where it has to. A name is plain if it consists of small
letters, digits and underscores, and does not begin with a digit; a setting shows a plain name as it
is, unless it is a keyword, and any other name in double quotes (`shownName`). So a setting shows a
name as it is just if the name is plain and no keyword (`shownName_eq_self_iff`).
-/

set_option autoImplicit false

namespace ExpandContract.Sql

/-! ## Reading quotes -/

/-- What is written between quotes is read back, together with what follows. -/
theorem undoubled_doubled (quote : Char) (text : List Char) {rest : List Char}
    (ends : rest.head? ≠ some quote) :
    undoubled quote (doubled quote text ++ quote :: rest) = some (text, rest) := by
  induction text with
  | nil =>
      cases rest with
      | nil => simp [doubled, undoubled]
      | cons c rest =>
          have other : c ≠ quote := fun same => ends (congrArg some same)
          simp [doubled, undoubled, other]
  | cons c text ih =>
      by_cases same : c = quote
      · subst same
        simp [doubled, undoubled, ih]
      · rw [doubled, if_neg same, List.cons_append]
        -- The reader looks one character ahead, and there is one: the closing quote at the latest.
        cases ahead : doubled quote text ++ quote :: rest with
        | nil => simp at ahead
        | cons d others =>
            rw [undoubled, if_neg same, ← ahead, ih]
            rfl

theorem length_quoted (quote : Char) (text : String) :
    text.length + 2 ≤ (quoted quote text).length := by
  have chars := congrArg List.length (toList_quoted quote text)
  rw [List.length_append, List.length_cons, length_doubled, String.length_toList,
    String.length_toList, List.length_singleton] at chars
  omega

/-! ## Names in settings -/

/-- A character that a plain name may begin with. -/
def opensPlain (c : Char) : Bool :=
  c.isLower || c == '_'

/-- A name that the server takes as it is without quotes, unless it is a keyword. -/
def isPlain (name : String) : Bool :=
  match name.toList with
  | [] => false
  | first :: rest => opensPlain first && rest.all fun c => opensPlain c || c.isDigit

/-- A plain name has no quotes in it. -/
theorem not_mem_of_isPlain {name : String} (plain : isPlain name = true) : '"' ∉ name.toList := by
  intro member
  unfold isPlain at plain
  split at plain
  · cases plain
  · rename_i first rest chars
    rw [chars] at member
    obtain ⟨opens, others⟩ := Bool.and_eq_true_iff.mp plain
    rcases List.mem_cons.mp member with same | later
    · subst same
      cases opens
    · cases List.all_eq_true.mp others _ later

/-- A name as the server shows it in a setting, given which names are keywords. -/
def shownName (isKeyword : String → Bool) (name : String) : String :=
  if isPlain name && !isKeyword name then name else quotedName name

variable {isKeyword : String → Bool} {name other : String}

theorem quotedName_ne_self : quotedName name ≠ name := by
  intro same
  have longer := length_quoted '"' name
  rw [show quoted '"' name = name from same] at longer
  omega

/-- Just the plain names that are no keywords are shown as they are. -/
theorem shownName_eq_self_iff :
    shownName isKeyword name = name ↔ isPlain name = true ∧ isKeyword name = false := by
  unfold shownName
  split
  · rename_i bare
    simpa using bare
  · rename_i dressed
    exact ⟨fun same => absurd same quotedName_ne_self,
      fun bare => absurd bare (by simpa using dressed)⟩

/-- A plain name is shown for no other name. -/
theorem eq_of_shownName_eq (plain : isPlain name = true) (same : shownName isKeyword other = name) :
    other = name := by
  unfold shownName at same
  split at same
  · exact same
  · refine absurd ?_ (not_mem_of_isPlain plain)
    rw [← same, quotedName, toList_quoted]
    exact List.mem_cons_self

end ExpandContract.Sql
