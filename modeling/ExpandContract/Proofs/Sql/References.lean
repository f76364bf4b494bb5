import ExpandContract.Proofs.Sql.Splitting

/-!
# Replacing references

A reference to a column is a quoted identifier with exactly that name, or a word that is that name
in lower case and does not directly follow a point (`Refers`). Replacing references is meant to
change just these tokens (`replaced`).

The result is a text again, and a text has its own tokens. They are the intended ones as long as
no bare reference stands next to a quoted identifier with nothing between them
(`reads_replaceReferences`): its replacement is quoted, and two quoted identifiers side by side
would be read as one.
-/

set_option autoImplicit false

namespace ExpandContract.Sql

variable {column replacement target : List Char} {token next : Token} {list front : List Token}

/-! ## References -/

/-- The token refers to the column, with these tokens before it. -/
def Refers (column : List Char) (front : List Token) : Token → Prop
  | .quoted name => name = column
  | .word text => front.getLast? ≠ some (.symbol '.') ∧ Text.lowercase text = column
  | .literal _ _ => False
  | .symbol _ => False

instance (column : List Char) (front : List Token) : DecidablePred (Refers column front)
  | .quoted name => inferInstanceAs (Decidable (name = column))
  | .word text => inferInstanceAs (Decidable
      (front.getLast? ≠ some (.symbol '.') ∧ Text.lowercase text = column))
  | .literal _ _ => inferInstanceAs (Decidable False)
  | .symbol _ => inferInstanceAs (Decidable False)

/-- One of the tokens refers to the column. -/
def HasReference (column : List Char) (list : List Token) : Prop :=
  ∃ front token back, list = front ++ token :: back ∧ Refers column front token

/-- The quoted replacement in the place of a reference, and any other token itself. -/
def Token.replaced (column replacement : List Char) (front : List Token) (token : Token) : Token :=
  if Refers column front token then .quoted replacement else token

theorem Token.replaced_of_refers (refers : Refers column front token) :
    token.replaced column replacement front = .quoted replacement :=
  if_pos refers

theorem Token.replaced_of_not_refers (other : ¬ Refers column front token) :
    token.replaced column replacement front = token :=
  if_neg other

/-- The tokens with exactly the references replaced. -/
def replaced (column replacement : List Char) (list : List Token) : List Token :=
  list.mapIdx fun i token => token.replaced column replacement (list.take i)

/-- No bare reference to the column is directly followed by a quoted identifier, or directly
follows one. -/
def BareReferencesApart (column : List Char) (list : List Token) : Prop :=
  (∀ front text name back, list = front ++ .word text :: .quoted name :: back →
    ¬ Refers column front (.word text)) ∧
  ∀ front name text back, list = front ++ .quoted name :: .word text :: back →
    ¬ Refers column (front ++ [.quoted name]) (.word text)

/-! ## Going through the tokens -/

/-- Whether a token after these directly follows a point. -/
def followsPoint (front : List Token) : Bool :=
  front.getLast? == some (.symbol '.')

@[simp] theorem followsPoint_nil : followsPoint [] = false :=
  rfl

theorem followsPoint_append_singleton (front : List Token) (token : Token) :
    followsPoint (front ++ [token]) = (token == .symbol '.') := by
  simp [followsPoint]

theorem refersTo_iff (column : List Char) (front : List Token) (token : Token) :
    token.refersTo column (followsPoint front) = true ↔ Refers column front token := by
  cases token with
  | literal text closed => simp [Token.refersTo, Refers]
  | quoted name => simp [Token.refersTo, Refers]
  | word text => simp [Token.refersTo, Refers, followsPoint]
  | symbol c => simp [Token.refersTo, Refers]

theorem renameReferences_cons (column replacement : List Char) (front : List Token) (token : Token)
    (list : List Token) :
    renameReferences column replacement (followsPoint front) (token :: list) =
      token.replaced column replacement front ::
        renameReferences column replacement (followsPoint (front ++ [token])) list := by
  rw [renameReferences, followsPoint_append_singleton, Token.replaced]
  simp only [refersTo_iff]

theorem renameReferences_eq_mapIdx (column replacement : List Char) (front list : List Token) :
    renameReferences column replacement (followsPoint front) list =
      list.mapIdx fun i token => token.replaced column replacement (front ++ list.take i) := by
  induction list generalizing front with
  | nil => rfl
  | cons token list ih =>
      rw [renameReferences_cons, ih, List.mapIdx_cons]
      simp

theorem renameReferences_eq_replaced (column replacement : List Char) (list : List Token) :
    renameReferences column replacement false list = replaced column replacement list := by
  simpa [replaced] using renameReferences_eq_mapIdx column replacement [] list

theorem toList_replaceReferences (expression column replacement : String) :
    (replaceReferences expression column replacement).toList =
      (replaced column.toList replacement.toList (tokens expression)).flatMap Token.text := by
  rw [replaceReferences, String.toList_ofList, renameReferences_eq_replaced]

/-- Tokens without a reference stay as they are. -/
theorem replaced_eq_self (free : ¬ HasReference column list) :
    replaced column replacement list = list := by
  refine List.ext_getElem (by simp [replaced]) fun i _ inside => ?_
  have other : ¬ Refers column (list.take i) list[i] := fun refers =>
    free ⟨list.take i, list[i], list.drop (i + 1), by simp, refers⟩
  simp [replaced, Token.replaced_of_not_refers other]

/-- A replacement that is nowhere referred to can be replaced in its turn. -/
theorem renameReferences_renameReferences (front : List Token)
    (free : ∀ before token back, list = before ++ token :: back →
      ¬ Refers replacement (front ++ before) token) :
    renameReferences replacement target (followsPoint front)
        (renameReferences column replacement (followsPoint front) list) =
      renameReferences column target (followsPoint front) list := by
  induction list generalizing front with
  | nil => rfl
  | cons token list ih =>
      have other : ¬ Refers replacement front token := by simpa using free [] token list rfl
      have later := ih (front ++ [token]) fun before next back split => by
        simpa [split] using free (token :: before) next back
      rw [renameReferences_cons column replacement, renameReferences_cons column target, ← later]
      by_cases refers : Refers column front token
      · -- A reference is not a point, so what follows it is treated as before.
        have noPoint : followsPoint (front ++ [token]) =
            followsPoint (front ++ [.quoted replacement]) := by
          cases token with
          | symbol c => exact absurd refers id
          | _ => rw [followsPoint_append_singleton, followsPoint_append_singleton]; rfl
        have again : Refers replacement front (.quoted replacement) := rfl
        rw [Token.replaced_of_refers refers, Token.replaced_of_refers refers, renameReferences_cons,
          Token.replaced_of_refers again, noPoint]
      · rw [Token.replaced_of_not_refers refers, Token.replaced_of_not_refers refers,
          renameReferences_cons, Token.replaced_of_not_refers other]

/-! ## The tokens of the result -/

theorem wellFormed_replaced (wellFormed : token.WellFormed) :
    (token.replaced column replacement front).WellFormed := by
  unfold Token.replaced
  split
  · trivial
  · exact wellFormed

/-- Only a quoted identifier begins with a double quote. -/
theorem eq_quoted_of_head? (wellFormed : token.WellFormed) (opens : token.text.head? = some '"') :
    ∃ name, token = .quoted name := by
  cases token with
  | literal text closed => cases closed <;> simp [Token.text] at opens
  | quoted name => exact ⟨name, rfl⟩
  | word text =>
      obtain ⟨first, others, rfl, starts, _⟩ := wellFormed
      refine absurd ?_ (ne_of_startsWord starts (show startsWord '"' = false by decide))
      simpa [Token.text] using opens
  | symbol c => exact absurd (by simpa [Token.text] using opens) wellFormed.2.1

/-- Two words do not stand side by side. -/
theorem not_endsBefore_word {text letters : List Char}
    (wellFormed : (Token.word letters).WellFormed) :
    ¬ (Token.word text).EndsBefore (Token.word letters).text.head? := by
  obtain ⟨first, others, rfl, starts, _⟩ := wellFormed
  intro ends
  have stops := ends first rfl
  rw [continuesWord_of_startsWord starts] at stops
  cases stops

/-- A reference that does not touch a quoted identifier can be replaced behind any token. -/
theorem endsBefore_replaced_next (wellFormed : next.WellFormed)
    (ends : token.EndsBefore next.text.head?)
    (apart : ∀ name text, token = .quoted name → next = .word text → ¬ Refers column front next) :
    token.EndsBefore (next.replaced column replacement front).text.head? := by
  by_cases refers : Refers column front next
  · rw [Token.replaced_of_refers refers]
    cases next with
    | literal text closed => exact absurd refers id
    | symbol c => exact absurd refers id
    | quoted name => exact ends
    | word text =>
      cases token with
      | literal inside closed =>
        cases closed with
        | true => simp [Token.EndsBefore, Token.text]
        | false => exact absurd (List.head?_eq_none_iff.mp ends) (Token.text_ne_nil wellFormed)
      | quoted name => exact absurd refers (apart name text rfl rfl)
      | word letters =>
        have stops : continuesWord '"' = false := by decide
        simp [Token.EndsBefore, Token.text, stops]
      | symbol c => trivial
  · rwa [Token.replaced_of_not_refers refers]

/-- Side by side, the tokens of the result are separate as the original ones are. -/
theorem endsBefore_replaced (wellFormed : next.WellFormed)
    (ends : token.EndsBefore next.text.head?)
    (apart : BareReferencesApart column (front ++ token :: next :: list)) :
    (token.replaced column replacement front).EndsBefore
      (next.replaced column replacement (front ++ [token])).text.head? := by
  obtain ⟨noneAfter, noneBefore⟩ := apart
  have newHead : token.EndsBefore
      (next.replaced column replacement (front ++ [token])).text.head? := by
    refine endsBefore_replaced_next wellFormed ends fun name text first second => ?_
    subst first second
    exact noneBefore front name text list rfl
  by_cases refers : Refers column front token
  · cases token with
    | literal text closed => exact absurd refers id
    | symbol c => exact absurd refers id
    | quoted name =>
      rw [Token.replaced_of_refers refers]
      exact newHead
    | word text =>
      have notQuoted : ∀ name, next ≠ .quoted name := by
        intro name same
        exact noneAfter front text name list (by rw [same]) refers
      have unchanged : next.replaced column replacement (front ++ [.word text]) = next := by
        cases next with
        | literal inside closed => rfl
        | symbol c => rfl
        | quoted name => exact absurd rfl (notQuoted name)
        | word letters => exact absurd ends (not_endsBefore_word wellFormed)
      rw [Token.replaced_of_refers refers, unchanged]
      intro opens
      obtain ⟨name, same⟩ := eq_quoted_of_head? wellFormed opens
      exact notQuoted name same
  · rw [Token.replaced_of_not_refers refers]
    exact newHead

/-- The new tokens are what their texts are read as. -/
theorem Reads.renamed {chars rest : List Char} (reads : Reads chars list rest) (front : List Token)
    (whole : rest = [])
    (apart : BareReferencesApart column (front ++ list)) :
    Reads ((renameReferences column replacement (followsPoint front) list).flatMap Token.text)
      (renameReferences column replacement (followsPoint front) list) [] := by
  induction reads generalizing front with
  | nil => exact .nil
  | @cons token after list rest wellFormed ends others ih =>
    have later := ih (front ++ [token]) whole (by simpa using apart)
    rw [renameReferences_cons, List.flatMap_cons]
    refine .cons (wellFormed_replaced wellFormed) ?_ later
    cases others with
    | nil => exact Token.endsBefore_none _
    | @cons next remaining list rest wellFormedNext endsNext others =>
      rw [renameReferences_cons, List.flatMap_cons,
        Token.head?_text_append (wellFormed_replaced wellFormedNext)]
      rw [Token.head?_text_append wellFormedNext] at ends
      exact endsBefore_replaced wellFormedNext ends apart

/-- What is read in the result are the intended tokens: the ones of the expression, with exactly the
references replaced. -/
theorem reads_replaceReferences {expression column replacement : String}
    (closed : QuotesClosed expression.toList)
    (apart : BareReferencesApart column.toList (tokens expression)) :
    Reads (replaceReferences expression column replacement).toList
      (replaced column.toList replacement.toList (tokens expression)) [] := by
  rw [toList_replaceReferences, ← renameReferences_eq_replaced]
  exact ((reads_iff closed).mpr rfl).renamed [] rfl apart

theorem tokens_replaceReferences {expression column replacement : String}
    (closed : QuotesClosed expression.toList)
    (apart : BareReferencesApart column.toList (tokens expression)) :
    tokens (replaceReferences expression column replacement) =
      replaced column.toList replacement.toList (tokens expression) := by
  rw [tokens, (reads_replaceReferences closed apart).tokensFrom_eq, tokensFrom, List.append_nil]

/-- An expression whose double quotes are closed, and in which no bare reference touches a quoted
identifier, is read back after the references have been replaced: its tokens are the same ones,
but for the references, which are the quoted replacement now. Nothing is changed if there are
none, and a replacement that was not in use before can be replaced in its turn. -/
theorem replaceReferences_spec (expression column replacement : String)
    (closed : QuotesClosed expression.toList)
    (apart : BareReferencesApart column.toList (tokens expression)) :
    Reads expression.toList (tokens expression) [] ∧
    Reads (replaceReferences expression column replacement).toList
      (replaced column.toList replacement.toList (tokens expression)) [] ∧
    tokens (replaceReferences expression column replacement) =
      replaced column.toList replacement.toList (tokens expression) ∧
    (¬ HasReference column.toList (tokens expression) →
      replaceReferences expression column replacement = expression) ∧
    ∀ target, ¬ HasReference replacement.toList (tokens expression) →
      replaceReferences (replaceReferences expression column replacement) replacement target =
        replaceReferences expression column target := by
  refine ⟨(reads_iff closed).mpr rfl, reads_replaceReferences closed apart,
    tokens_replaceReferences closed apart, fun free => ?_, fun target free => ?_⟩
  · apply String.toList_injective
    rw [toList_replaceReferences, replaced_eq_self free]
    exact quotesClosed_iff.mp closed
  · rw [replaceReferences, tokens_replaceReferences closed apart, ← renameReferences_eq_replaced,
      ← followsPoint_nil, renameReferences_renameReferences [] fun before token back split refers =>
        free ⟨before, token, back, split, refers⟩]
    rfl

/-- Two references are replaced, and the member of a table is not. -/
theorem replaceReferences_email :
    QuotesClosed "EMAIL = t.email || \"email\"".toList ∧
    tokens (replaceReferences "EMAIL = t.email || \"email\"" "email" "_pgshift_new_email") =
      [.quoted "_pgshift_new_email".toList, .symbol ' ', .symbol '=', .symbol ' ', .word ['t'],
        .symbol '.', .word "email".toList, .symbol ' ', .symbol '|', .symbol '|', .symbol ' ',
        .quoted "_pgshift_new_email".toList] := by
  have closed : QuotesClosed "EMAIL = t.email || \"email\"".toList := quotesClosed_iff.mpr rfl
  have found : tokens "EMAIL = t.email || \"email\"" =
      [.word "EMAIL".toList, .symbol ' ', .symbol '=', .symbol ' ', .word ['t'], .symbol '.',
        .word "email".toList, .symbol ' ', .symbol '|', .symbol '|', .symbol ' ',
        .quoted "email".toList] := rfl
  have apart : BareReferencesApart "email".toList (tokens "EMAIL = t.email || \"email\"") := by
    rw [found]
    constructor
    · intro front text name back split
      simp [List.cons_eq_append_iff] at split
    · intro front name text back split
      simp [List.cons_eq_append_iff] at split
  obtain ⟨_, _, again, _⟩ := replaceReferences_spec _ "email" "_pgshift_new_email" closed apart
  refine ⟨closed, ?_⟩
  rw [again, found]
  rfl

end ExpandContract.Sql
