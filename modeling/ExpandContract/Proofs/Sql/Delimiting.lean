import ExpandContract.Proofs.Sql.Quoting
import Mathlib.Logic.Function.Basic

/-!
# Quotes that delimit themselves

A text in quotes says by itself where it ends: at the first quote inside that is not followed by
another one. The reader of such a text finds the closing quote, and it finds just the texts that
quoting writes (`readQuoted?_eq_some_iff`). So the names of a list, and a schema and a name with a
point between them, are read back whatever they hold (`readNames?_eq_some_iff`,
`readQualified?_eq_some_iff`), and no other text reads as they do.

The readers are made of two: one for a text in quotes, and one for the sign that stands between two
of them (`after?`). Each is stated as an equivalence between what is read and how the text is put
together, so that a reader made of them is understood by putting the equivalences together.
-/

set_option autoImplicit false

namespace ExpandContract.Sql

/-! ## One text in quotes -/

/-- Reads a text in quotes at the beginning: what was quoted, and what follows the closing quote. -/
def readQuoted? (quote : Char) (text : String) : Option (String × String) :=
  match text.toList with
  | [] => none
  | c :: chars =>
      if c = quote then
        (undoubled quote chars).map fun found => (String.ofList found.1, String.ofList found.2)
      else none

/-- What is read inside of quotes is doubled there, and the quote that closes it stands alone. -/
theorem eq_doubled_of_undoubled {quote : Char} {chars inside rest : List Char}
    (found : undoubled quote chars = some (inside, rest)) :
    chars = doubled quote inside ++ quote :: rest ∧ rest.head? ≠ some quote := by
  fun_induction undoubled quote chars generalizing inside with
  | case1 => cases found
  | case2 =>
      cases found
      simp [doubled]
  | case3 => cases found
  | case4 others ih =>
      obtain ⟨⟨before, after⟩, read, same⟩ := Option.map_eq_some_iff.mp found
      cases same
      obtain ⟨split, ends⟩ := ih read
      exact ⟨by simp [doubled, split], ends⟩
  | case5 d others other =>
      cases found
      exact ⟨by simp [doubled], by simpa using other⟩
  | case6 c d others other ih =>
      obtain ⟨⟨before, after⟩, read, same⟩ := Option.map_eq_some_iff.mp found
      cases same
      obtain ⟨split, ends⟩ := ih read
      exact ⟨by simp [doubled, other, split], ends⟩

/-- The reader finds a text in quotes just where it was written, and reads up to its end. -/
theorem readQuoted?_eq_some_iff {quote : Char} {text inside rest : String} :
    readQuoted? quote text = some (inside, rest) ↔
      text = quoted quote inside ++ rest ∧ rest.toList.head? ≠ some quote := by
  constructor
  · intro read
    unfold readQuoted? at read
    split at read
    · cases read
    · rename_i c chars begins
      split at read
      · rename_i opens
        obtain ⟨⟨before, after⟩, found, same⟩ := Option.map_eq_some_iff.mp read
        cases same
        obtain ⟨split, ends⟩ := eq_doubled_of_undoubled found
        refine ⟨String.toList_injective ?_, by simpa using ends⟩
        simp [toList_quoted, begins, opens, split]
      · cases read
  · rintro ⟨rfl, ends⟩
    have chars : (quoted quote inside ++ rest).toList =
        quote :: (doubled quote inside.toList ++ quote :: rest.toList) := by
      simp [toList_quoted]
    rw [readQuoted?, chars]
    simp [undoubled_doubled quote inside.toList ends]

variable {quote : Char} {text inside rest name schema : String} {names : List String}

/-- What is left is shorter than what is read. -/
theorem length_lt_of_readQuoted? (read : readQuoted? quote text = some (inside, rest)) :
    rest.length < text.length := by
  obtain ⟨rfl, -⟩ := readQuoted?_eq_some_iff.mp read
  have := length_quoted quote inside
  rw [String.length_append]
  omega

/-! ## Signs -/

/-- What follows a sign at the beginning of a text. -/
def after? (sign text : String) : Option String :=
  if sign.toList <+: text.toList then some (String.ofList (text.toList.drop sign.length)) else none

theorem after?_eq_some_iff {sign : String} :
    after? sign text = some rest ↔ text = sign ++ rest := by
  unfold after?
  constructor
  · intro found
    split at found
    · rename_i begins
      obtain ⟨others, same⟩ := begins
      cases found
      refine String.toList_injective ?_
      simp [← same, ← String.length_toList]
    · cases found
  · rintro rfl
    simp [← String.length_toList]

/-! ## A schema and a name -/

/-- Reads the quoted names of a schema and of an object in it, with a point between them. -/
def readQualified? (text : String) : Option (String × String) := do
  let (schema, rest) ← readQuoted? '"' text
  let (name, rest) ← readQuoted? '"' (← after? "." rest)
  if rest = "" then some (schema, name) else none

theorem readQualified?_eq_some_iff :
    readQualified? text = some (schema, name) ↔ text = qualifiedName schema name := by
  constructor
  · intro read
    simp only [readQualified?, Option.bind_eq_bind, Option.bind_eq_some_iff, Prod.exists,
      readQuoted?_eq_some_iff, after?_eq_some_iff] at read
    obtain ⟨first, rest, ⟨rfl, -⟩, others, rfl, second, left, ⟨rfl, -⟩, read⟩ := read
    split at read
    · rename_i ends
      cases read
      rw [ends, String.append_empty, ← String.append_assoc]
      rfl
    · cases read
  · rintro rfl
    have before : readQuoted? '"' (qualifiedName schema name) =
        some (schema, "." ++ quotedName name) :=
      readQuoted?_eq_some_iff.mpr ⟨String.append_assoc .., by simp⟩
    have behind : readQuoted? '"' (quotedName name) = some (name, "") :=
      readQuoted?_eq_some_iff.mpr ⟨String.append_empty.symm, by simp⟩
    simp [readQualified?, before, after?_eq_some_iff.mpr rfl, behind]

/-! ## A list of names -/

/-- Reads quoted names with commas between them up to the end of the text, at least one name. -/
def readSome? (text : String) : Option (List String) :=
  match _read : readQuoted? '"' text with
  | none => none
  | some (name, rest) =>
      if rest = "" then some [name]
      else
        match _next : after? ", " rest with
        | none => none
        | some others => (readSome? others).map (name :: ·)
termination_by text.length
decreasing_by
  have shorter := length_lt_of_readQuoted? _read
  rw [after?_eq_some_iff.mp _next, String.length_append] at shorter
  omega

/-- Reads the quoted names of a list. -/
def readNames? (text : String) : Option (List String) :=
  if text = "" then some [] else readSome? text

theorem quotedNames_singleton (name : String) : quotedNames [name] = quotedName name := by
  rw [quotedNames, joined, List.map_singleton, String.intercalate_singleton]

theorem quotedNames_cons_cons (first second : String) (names : List String) :
    quotedNames (first :: second :: names) =
      quotedName first ++ (", " ++ quotedNames (second :: names)) := by
  simp only [quotedNames, joined, List.map_cons, String.intercalate_cons_cons, String.append_assoc]

/-- A name that the text ends with is the last one of the list. -/
theorem readSome?_of_last (read : readQuoted? '"' text = some (name, "")) :
    readSome? text = some [name] := by
  rw [readSome?]
  split
  · rename_i nothing
    cases nothing.symm.trans read
  · rename_i found
    cases found.symm.trans read
    exact if_pos rfl

/-- Behind a comma the list goes on. -/
theorem readSome?_of_next {others : String}
    (read : readQuoted? '"' text = some (name, ", " ++ others)) :
    readSome? text = (readSome? others).map (name :: ·) := by
  rw [readSome?]
  split
  · rename_i nothing
    cases nothing.symm.trans read
  · rename_i found
    cases found.symm.trans read
    rw [if_neg (by simp)]
    split
    · rename_i nothing
      cases nothing.symm.trans (after?_eq_some_iff.mpr rfl)
    · rename_i found
      cases found.symm.trans (after?_eq_some_iff.mpr rfl)
      rfl

/-- What is read as a list is the list that was written. -/
theorem eq_quotedNames_of_readSome? (read : readSome? text = some names) :
    names ≠ [] ∧ text = quotedNames names := by
  fun_induction readSome? text generalizing names with
  | case1 => cases read
  | case2 text name last =>
      cases read
      obtain ⟨split, -⟩ := readQuoted?_eq_some_iff.mp last
      refine ⟨List.cons_ne_nil _ _, ?_⟩
      rw [quotedNames_singleton, split, String.append_empty]
      rfl
  | case3 => cases read
  | case4 text name rest here _ others next ih =>
      obtain ⟨later, found, rfl⟩ := Option.map_eq_some_iff.mp read
      obtain ⟨some, rfl⟩ := ih found
      obtain ⟨second, names, rfl⟩ := List.exists_cons_of_ne_nil some
      obtain ⟨split, -⟩ := readQuoted?_eq_some_iff.mp here
      refine ⟨List.cons_ne_nil _ _, ?_⟩
      rw [quotedNames_cons_cons, split, after?_eq_some_iff.mp next]
      rfl

/-- A list of at least one name is read back, one name after the other. -/
theorem readSome?_quotedNames (name : String) (names : List String) :
    readSome? (quotedNames (name :: names)) = some (name :: names) := by
  induction names generalizing name with
  | nil =>
      rw [quotedNames_singleton]
      exact readSome?_of_last
        (readQuoted?_eq_some_iff.mpr ⟨String.append_empty.symm, by simp⟩)
  | cons second names ih =>
      have first : readQuoted? '"' (quotedNames (name :: second :: names)) =
          some (name, ", " ++ quotedNames (second :: names)) :=
        readQuoted?_eq_some_iff.mpr ⟨quotedNames_cons_cons .., by simp⟩
      rw [readSome?_of_next first, ih]
      rfl

theorem readSome?_empty : readSome? "" = none := by
  rw [readSome?]
  rfl

theorem readNames?_eq_some_iff : readNames? text = some names ↔ text = quotedNames names := by
  unfold readNames?
  constructor
  · intro read
    split at read
    · rename_i empty
      cases read
      exact empty
    · exact (eq_quotedNames_of_readSome? read).2
  · rintro rfl
    cases names with
    | nil => rfl
    | cons name names =>
        have read := readSome?_quotedNames name names
        have solid : quotedNames (name :: names) ≠ "" := by
          intro empty
          rw [empty, readSome?_empty] at read
          cases read
        rw [if_neg solid, read]

/-! ## What is written alike is alike -/

/-- What is in quotes, and where the quotes end, is the same for all readings of one text. -/
theorem quoted_append_inj {other later : String} (ends : rest.toList.head? ≠ some quote)
    (endsToo : later.toList.head? ≠ some quote)
    (same : quoted quote inside ++ rest = quoted quote other ++ later) :
    inside = other ∧ rest = later := by
  have read : readQuoted? quote (quoted quote inside ++ rest) = some (inside, rest) :=
    readQuoted?_eq_some_iff.mpr ⟨rfl, ends⟩
  have readToo : readQuoted? quote (quoted quote inside ++ rest) = some (other, later) :=
    readQuoted?_eq_some_iff.mpr ⟨same, endsToo⟩
  exact Prod.mk.inj (Option.some.inj (read.symm.trans readToo))

theorem quotedNames_injective : Function.Injective quotedNames := by
  intro names others same
  have read := readNames?_eq_some_iff.mpr same
  rw [readNames?_eq_some_iff.mpr rfl] at read
  exact Option.some.inj read

theorem qualifiedName_injective : Function.Injective2 qualifiedName := by
  intro schema other name another same
  have read := readQualified?_eq_some_iff.mpr same
  rw [readQualified?_eq_some_iff.mpr rfl] at read
  exact Prod.mk.inj (Option.some.inj read)

/-- Quotes delimit themselves. A quoted name and a quoted literal are read back with what follows
them, as long as that does not begin with a further quote. A list of names and a qualified name are
read back as they were written, and nothing else reads as they do, so that different lists and
different pairs have different texts. No name ends its own quotes: what is closed in the text of a
name, without a further quote behind it, is the whole text. -/
theorem quotes_delimit_themselves :
    (∀ name rest : String, rest.toList.head? ≠ some '"' →
      readQuoted? '"' (quotedName name ++ rest) = some (name, rest)) ∧
    (∀ value rest : String, rest.toList.head? ≠ some '\'' →
      readQuoted? '\'' (quotedText value ++ rest) = some (value, rest)) ∧
    (∀ text names, readNames? text = some names ↔ text = quotedNames names) ∧
    (∀ text schema name,
      readQualified? text = some (schema, name) ↔ text = qualifiedName schema name) ∧
    Function.Injective quotedNames ∧
    Function.Injective2 qualifiedName ∧
    ∀ name other rest : String, rest.toList.head? ≠ some '"' →
      quotedName name = quotedName other ++ rest → other = name ∧ rest = "" := by
  refine ⟨fun name rest ends => readQuoted?_eq_some_iff.mpr ⟨rfl, ends⟩,
    fun value rest ends => readQuoted?_eq_some_iff.mpr ⟨rfl, ends⟩,
    fun text names => readNames?_eq_some_iff,
    fun text schema name => readQualified?_eq_some_iff,
    quotedNames_injective, qualifiedName_injective, ?_⟩
  intro name other rest ends same
  have whole : quotedName other ++ rest = quotedName name ++ "" := by
    rw [← same, String.append_empty]
  exact quoted_append_inj ends (by simp) whole

/-- A name that looks like two names of a list is read back as one name, in front of another one. -/
theorem quotes_delimit_lookalike :
    ", \"c\"".toList.head? ≠ some '"' ∧
    readQuoted? '"' (quotedName "a\", \"b" ++ ", \"c\"") = some ("a\", \"b", ", \"c\"") ∧
    quotedNames ["a\", \"b"] ≠ quotedNames ["a", "b"] := by
  have separate : ", \"c\"".toList.head? ≠ some '"' := by decide
  obtain ⟨names, _, _, _, lists, _⟩ := quotes_delimit_themselves
  exact ⟨separate, names _ _ separate, lists.ne (by decide)⟩

end ExpandContract.Sql
