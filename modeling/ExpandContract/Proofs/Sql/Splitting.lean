import ExpandContract.Sql.Expression

/-!
# Expressions and their tokens

A text is read as tokens if it consists of their texts, one after the other, and each of them is as
long as it can be: what follows a token does not belong to it (`Reads`). This says nothing about how
the tokens are found.

The reader of expressions finds them. A text is read as at most one list of tokens, and it is read
as one unless a double quote is left open (`reads_iff`). A quote that is left open is closed by
the reader, which is the one thing that the tokens do not give back (`quotesClosed_iff`).
-/

set_option autoImplicit false

namespace ExpandContract.Sql

variable {quote : Char} {chars after rest : List Char} {token : Token} {list front : List Token}

/-! ## Tokens side by side -/

namespace Token

/-- The token consists of such characters as a token of its kind has. -/
def WellFormed : Token → Prop
  | .literal _ _ => True
  | .quoted _ => True
  | .word text => ∃ first others, text = first :: others ∧ startsWord first = true ∧
      ∀ c ∈ others, continuesWord c = true
  | .symbol c => c ≠ '\'' ∧ c ≠ '"' ∧ startsWord c = false

/-- The token is over where this character follows it, or nothing at all. -/
def EndsBefore (next : Option Char) : Token → Prop
  | .literal _ true => next ≠ some '\''
  | .literal _ false => next = none
  | .quoted _ => next ≠ some '"'
  | .word _ => ∀ c ∈ next, continuesWord c = false
  | .symbol _ => True

theorem endsBefore_none (token : Token) : token.EndsBefore none := by
  cases token with
  | literal inside closed => cases closed <;> simp [EndsBefore]
  | quoted name => simp [EndsBefore]
  | word letters => simp [EndsBefore]
  | symbol c => trivial

theorem text_ne_nil (wellFormed : token.WellFormed) : token.text ≠ [] := by
  cases token with
  | literal inside closed => cases closed <;> simp [text]
  | quoted name => simp [text]
  | word letters =>
      obtain ⟨first, others, rfl, _, _⟩ := wellFormed
      simp [text]
  | symbol c => simp [text]

theorem head?_text_append (wellFormed : token.WellFormed) (after : List Char) :
    (token.text ++ after).head? = token.text.head? := by
  cases shape : token.text with
  | nil => exact absurd shape (text_ne_nil wellFormed)
  | cons c others => rfl

end Token

/-- The text begins with these tokens, and the rest follows. -/
inductive Reads : List Char → List Token → List Char → Prop where
  | nil {rest : List Char} : Reads rest [] rest
  | cons {token : Token} {after : List Char} {list : List Token} {rest : List Char}
      (wellFormed : token.WellFormed) (ends : token.EndsBefore after.head?)
      (others : Reads after list rest) : Reads (token.text ++ after) (token :: list) rest

/-- The tokens are all there is before the rest. -/
theorem Reads.text (reads : Reads chars list rest) : chars = list.flatMap Token.text ++ rest := by
  induction reads with
  | nil => rfl
  | cons _ _ _ ih => rw [List.flatMap_cons, List.append_assoc, ← ih]

/-! ## The reader finds the tokens -/

attribute [local simp] doubled tokensFrom

theorem continuesWord_of_startsWord {c : Char} (starts : startsWord c = true) :
    continuesWord c = true := by
  simp only [startsWord, Bool.or_eq_true] at starts
  rcases starts with letter | underscore
  · simp [continuesWord, Text.isAlphanumeric, letter]
  · simp [continuesWord, underscore]

theorem ne_of_startsWord {c d : Char} (starts : startsWord c = true)
    (other : startsWord d = false) :
    c ≠ d := by
  intro same
  rw [same, other] at starts
  cases starts

/-- A literal that is closed, with what has been read of it. -/
theorem tokensFrom_inLiteral (read text : List Char) (ends : rest.head? ≠ some '\'') :
    tokensFrom (.inLiteral read) (doubled '\'' text ++ '\'' :: rest) =
      .literal (read.reverse ++ text) true :: tokensFrom .between rest := by
  induction text generalizing read with
  | nil =>
      cases rest with
      | nil => simp
      | cons d rest =>
          have other : d ≠ '\'' := by simpa using ends
          simp [other]
  | cons c text ih =>
      by_cases same : c = '\''
      · subst same
        simp [ih]
      · simp [same, ih]

theorem tokensFrom_inLiteral_open (read text : List Char) :
    tokensFrom (.inLiteral read) (doubled '\'' text) = [.literal (read.reverse ++ text) false] := by
  induction text generalizing read with
  | nil => simp
  | cons c text ih =>
      by_cases same : c = '\''
      · subst same
        simp [ih]
      · simp [same, ih]

theorem tokensFrom_inQuoted (read name : List Char) (ends : rest.head? ≠ some '"') :
    tokensFrom (.inQuoted read) (doubled '"' name ++ '"' :: rest) =
      .quoted (read.reverse ++ name) :: tokensFrom .between rest := by
  induction name generalizing read with
  | nil =>
      cases rest with
      | nil => simp
      | cons d rest =>
          have other : d ≠ '"' := by simpa using ends
          simp [other]
  | cons c name ih =>
      by_cases same : c = '"'
      · subst same
        simp [ih]
      · simp [same, ih]

theorem tokensFrom_inQuoted_open (read name : List Char) :
    tokensFrom (.inQuoted read) (doubled '"' name) = [.quoted (read.reverse ++ name)] := by
  induction name generalizing read with
  | nil => simp
  | cons c name ih =>
      by_cases same : c = '"'
      · subst same
        simp [ih]
      · simp [same, ih]

theorem tokensFrom_inWord (read others : List Char) (goesOn : ∀ c ∈ others, continuesWord c = true)
    (ends : ∀ c ∈ rest.head?, continuesWord c = false) :
    tokensFrom (.inWord read) (others ++ rest) =
      .word (read.reverse ++ others) :: tokensFrom .between rest := by
  induction others generalizing read with
  | nil =>
      cases rest with
      | nil => simp
      | cons d rest => simp [ends d rfl]
  | cons c others ih =>
      obtain ⟨first, later⟩ := List.forall_mem_cons.mp goesOn
      simp [first, ih (c :: read) later]

/-- A token that is over where the rest begins is found as the first one. -/
theorem tokensFrom_text_append (wellFormed : token.WellFormed)
    (ends : token.EndsBefore rest.head?) :
    tokensFrom .between (token.text ++ rest) = token :: tokensFrom .between rest := by
  cases token with
  | literal text closed =>
      cases closed with
      | true => simpa [Token.text, Reading.begin] using tokensFrom_inLiteral [] text ends
      | false =>
          obtain rfl : rest = [] := List.head?_eq_none_iff.mp ends
          simpa [Token.text, Reading.begin] using tokensFrom_inLiteral_open [] text
  | quoted name =>
      simpa [Token.text, Reading.begin] using tokensFrom_inQuoted [] name ends
  | word text =>
      obtain ⟨first, others, rfl, starts, goesOn⟩ := wellFormed
      have notQuote := ne_of_startsWord starts (show startsWord '\'' = false by decide)
      have notDouble := ne_of_startsWord starts (show startsWord '"' = false by decide)
      have begins : Reading.begin first = (none, .inWord [first]) := by
        simp [Reading.begin, notQuote, notDouble, starts]
      simpa [Token.text, begins] using tokensFrom_inWord [first] others goesOn ends
  | symbol c =>
      obtain ⟨notQuote, notDouble, starts⟩ := wellFormed
      simp [Token.text, Reading.begin, notQuote, notDouble, starts]

/-- The reader finds the tokens that a text begins with, and goes on with the rest. -/
theorem Reads.tokensFrom_eq (reads : Reads chars list rest) :
    tokensFrom .between chars = list ++ tokensFrom .between rest := by
  induction reads with
  | nil => rfl
  | cons wellFormed ends _ ih => rw [tokensFrom_text_append wellFormed ends, ih, List.cons_append]

/-! ## Every text is read -/

/-- Inside quotes a text runs up to the closing quote, or it is inside as a whole. -/
theorem eq_doubled_append_or_eq_doubled (quote : Char) (chars : List Char) :
    (∃ inside rest, chars = doubled quote inside ++ quote :: rest ∧ rest.head? ≠ some quote) ∨
      ∃ inside, chars = doubled quote inside := by
  fun_induction undoubled quote chars with
  | case1 => exact .inr ⟨[], rfl⟩
  | case2 => exact .inl ⟨[], [], rfl, by simp⟩
  | case3 c other => exact .inr ⟨[c], by simp [other]⟩
  | case4 rest ih =>
      rcases ih with ⟨inside, later, rfl, ends⟩ | ⟨inside, rfl⟩
      · exact .inl ⟨quote :: inside, later, by simp, ends⟩
      · exact .inr ⟨quote :: inside, by simp⟩
  | case5 d rest other => exact .inl ⟨[], d :: rest, rfl, by simpa using other⟩
  | case6 c d rest other ih =>
      rcases ih with ⟨inside, later, same, ends⟩ | ⟨inside, same⟩
      · exact .inl ⟨c :: inside, later, by simp [other, same], ends⟩
      · exact .inr ⟨c :: inside, by simp [other, same]⟩

/-- The text consists of tokens, and of a double quote that is left open, if there is one. -/
def SplitsUp (chars : List Char) : Prop :=
  (∃ list, Reads chars list []) ∨ ∃ list name, Reads chars list ('"' :: doubled '"' name)

theorem SplitsUp.cons (wellFormed : token.WellFormed) (ends : token.EndsBefore after.head?)
    (splits : SplitsUp after) : SplitsUp (token.text ++ after) := by
  rcases splits with ⟨list, reads⟩ | ⟨list, name, reads⟩
  · exact .inl ⟨token :: list, .cons wellFormed ends reads⟩
  · exact .inr ⟨token :: list, name, .cons wellFormed ends reads⟩

theorem splitsUp (chars : List Char) : SplitsUp chars := by
  -- What follows a token is shorter than the text, as no token is empty.
  induction total : chars.length using Nat.strongRecOn generalizing chars with
  | ind size ih =>
    have step (token : Token) (after : List Char) (wellFormed : token.WellFormed)
        (ends : token.EndsBefore after.head?) (split : chars = token.text ++ after) :
        SplitsUp chars := by
      have shorter : after.length < size := by
        have positive := List.length_pos_iff.mpr (token.text_ne_nil wellFormed)
        rw [← total, split, List.length_append]
        omega
      rw [split]
      exact .cons wellFormed ends (ih after.length shorter after rfl)
    cases chars with
    | nil => exact .inl ⟨[], .nil⟩
    | cons c others =>
      by_cases single : c = '\''
      · subst single
        rcases eq_doubled_append_or_eq_doubled '\'' others with
          ⟨inside, rest, rfl, ends⟩ | ⟨inside, rfl⟩
        · exact step (.literal inside true) rest trivial ends (by simp [Token.text])
        · exact step (.literal inside false) [] trivial rfl (by simp [Token.text])
      by_cases double : c = '"'
      · subst double
        rcases eq_doubled_append_or_eq_doubled '"' others with
          ⟨name, rest, rfl, ends⟩ | ⟨name, rfl⟩
        · exact step (.quoted name) rest trivial ends (by simp [Token.text])
        · exact .inr ⟨[], name, .nil⟩
      cases starts : startsWord c with
      | true =>
        refine step (.word (c :: others.takeWhile continuesWord))
          (others.dropWhile continuesWord) ⟨c, _, rfl, starts, fun d member => ?_⟩
          (fun d first => ?_) ?_
        · exact List.all_eq_true.mp List.all_takeWhile d member
        · have stops := List.head?_dropWhile_not continuesWord others
          rw [first] at stops
          simpa using stops
        · simp [Token.text]
      | false => exact step (.symbol c) others ⟨single, double, starts⟩ trivial rfl

/-- No double quote is left open. -/
def QuotesClosed (chars : List Char) : Prop :=
  ¬ ∃ list name, Reads chars list ('"' :: doubled '"' name)

/-- The tokens of a text without an open quote, as the reader finds them, and no others. -/
theorem reads_iff {expression : String} (closed : QuotesClosed expression.toList) :
    Reads expression.toList list [] ↔ tokens expression = list := by
  have found {list : List Token} (reads : Reads expression.toList list []) :
      tokens expression = list := by
    rw [tokens, reads.tokensFrom_eq, tokensFrom, List.append_nil]
  refine ⟨found, fun same => ?_⟩
  rcases splitsUp expression.toList with ⟨other, reads⟩ | opened
  · rw [← same, found reads]
    exact reads
  · exact absurd opened closed

/-- Just the texts without an open quote are what their tokens say. -/
theorem quotesClosed_iff {expression : String} :
    QuotesClosed expression.toList ↔
      (tokens expression).flatMap Token.text = expression.toList := by
  constructor
  · intro closed
    simpa using ((reads_iff closed).mpr rfl).text.symm
  · rintro same ⟨list, name, reads⟩
    have found : tokens expression = list ++ [.quoted name] := by
      rw [tokens, reads.tokensFrom_eq]
      simp [Reading.begin, tokensFrom_inQuoted_open]
    -- The reader closes the quote, so its tokens have one character more.
    have sizes := congrArg List.length same
    rw [found, reads.text] at sizes
    simp [Token.text] at sizes

end ExpandContract.Sql
