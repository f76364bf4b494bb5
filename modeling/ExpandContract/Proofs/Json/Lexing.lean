import ExpandContract.Proofs.Json.Spelling

/-!
# The tokens of a text of a value

However a value is written, its text has the same tokens: those of `Json.tokens`. The lexer reads
token after token, so the proof follows the spelling from left to right, with the tokens of what
follows already known. Only a number has to know how the text goes on, since a digit, a point or an
exponent would be read as part of it; none of these follows a value (`Json.Stops`).
-/

set_option autoImplicit false

namespace ExpandContract.Json

/-! ## Steps of the lexer -/

/-- More steps find the same tokens. -/
theorem lexFrom_of_le {fuel more : Nat} (enough : fuel ≤ more) {text : List Char}
    {tokens : List Token} (lexed : lexFrom fuel text = some tokens) :
    lexFrom more text = some tokens := by
  induction fuel generalizing more text tokens with
  | zero =>
      cases text with
      | nil => simpa [lexFrom] using lexed
      | cons c rest => simp [lexFrom] at lexed
  | succ fuel ih =>
      obtain ⟨more, rfl⟩ : ∃ k, more = k + 1 := ⟨more - 1, by omega⟩
      have enough : fuel ≤ more := by omega
      cases text with
      | nil => simpa [lexFrom] using lexed
      | cons c rest =>
          rw [lexFrom] at lexed ⊢
          split at lexed
          · rename_i space
            rw [if_pos space]
            exact ih enough lexed
          · rename_i notSpace
            rw [if_neg notSpace]
            split at lexed
            · rename_i token after begins
              obtain ⟨others, lexedRest, rfl⟩ := Option.map_eq_some_iff.mp lexed
              simp only [ih enough lexedRest, Option.map_some]
            · cases lexed

/-- The text has the tokens. -/
def Lexes (text : List Char) (tokens : List Token) : Prop :=
  lexFrom text.length text = some tokens

theorem Lexes.nil : Lexes [] [] := rfl

/-- White space before a text does not count. -/
theorem Lexes.blank {space text : List Char} {tokens : List Token} (blank : Blank space)
    (lexed : Lexes text tokens) : Lexes (space ++ text) tokens := by
  induction space with
  | nil => exact lexed
  | cons c rest ih =>
      have isSpace : isSpace c = true := blank c List.mem_cons_self
      have before := ih fun later among => blank later (List.mem_cons_of_mem _ among)
      simpa only [Lexes, List.cons_append, List.length_cons, lexFrom, isSpace, if_true] using before

/-- A token before a text is its first token. -/
theorem Lexes.token {c : Char} (others : List Char) {text : List Char} {token : Token}
    {tokens : List Token} (visible : isSpace c = false)
    (begins : lexToken? c (others ++ text) = some (token, text))
    (lexed : Lexes text tokens) : Lexes (c :: others ++ text) (token :: tokens) := by
  have enough : text.length ≤ (others ++ text).length := by simp
  have rest := lexFrom_of_le enough lexed
  simp only [Lexes, List.cons_append, List.length_cons, lexFrom, visible, begins, rest,
    Bool.false_eq_true, if_false, Option.map_some]

/-! ## Strings -/

/-- One character that has been written is the first that is read. -/
theorem SpellsChar.read {c : Char} {written : List Char} (spelled : SpellsChar c written)
    {rest text : List Char} {pieces : List Piece} {after : List Char}
    (read : lexPieces rest = some (pieces, after)) (told : textOfPieces? pieces = some text) :
    ∃ more, lexPieces (written ++ rest) = some (more, after) ∧
      textOfPieces? more = some (c :: text) := by
  cases spelled with
  | itself visible notQuote notBackslash =>
      refine ⟨.char c :: pieces, ?_, by simp [textOfPieces?, told]⟩
      have seen : ¬(c.toNat < 0x20 ∨ c = '\\') := by
        rintro (control | backslash)
        · exact Nat.not_lt.mpr visible control
        · exact notBackslash backslash
      rw [List.singleton_append, lexPieces.eq_5 _ _ notQuote, if_neg seen, read]
      · intro a b c d later same
        exact absurd same notBackslash
      · intro e later same
        exact absurd same notBackslash
  | short stands =>
      rename_i e
      refine ⟨.char c :: pieces, ?_, by simp [textOfPieces?, told]⟩
      have notUnit : e ≠ 'u' := by
        rintro rfl
        cases stands
      rw [List.cons_append, List.singleton_append, lexPieces.eq_4, stands, read]
      intro a b c d later same
      exact absurd same notUnit
  | unit digits notHigh notLow =>
      rename_i a b c d n
      refine ⟨.unit n :: pieces, by simp [lexPieces, digits, read], ?_⟩
      cases pieces with
      | nil => simpa [textOfPieces?, notHigh, notLow] using told
      | cons piece others =>
          cases piece with
          | char _ => simp [textOfPieces?, notHigh, notLow] at told ⊢; exact told
          | unit _ => simp [textOfPieces?, notHigh, notLow, told]
  | pair first second isHigh isLow =>
      rename_i a b c d e f g h high low
      exact ⟨.unit high :: .unit low :: pieces, by simp [lexPieces, first, second, read],
        by simp [textOfPieces?, isHigh, isLow, told]⟩

/-- A string is read up to its closing quote. -/
theorem SpellsText.read {text written : List Char} (spelled : SpellsText text written)
    (rest : List Char) :
    ∃ pieces, lexPieces (written ++ '"' :: rest) = some (pieces, rest) ∧
      textOfPieces? pieces = some text := by
  induction spelled with
  | nil => exact ⟨[], rfl, rfl⟩
  | cons head _ ih =>
      obtain ⟨pieces, read, told⟩ := ih
      rw [List.append_assoc]
      exact head.read read told

theorem SpellsString.lexes {text : String} {written rest : List Char} {tokens : List Token}
    (spelled : SpellsString text written) (lexed : Lexes rest tokens) :
    Lexes (written ++ rest) (.string (some text) :: tokens) := by
  obtain ⟨inside, spelledInside, rfl⟩ := spelled
  obtain ⟨pieces, read, told⟩ := spelledInside.read rest
  have begins : lexToken? '"' ((inside ++ ['"']) ++ rest) = some (.string (some text), rest) := by
    rw [List.append_assoc, List.singleton_append]
    simp [lexToken?, read, told]
  exact .token _ rfl begins lexed

/-! ## Numbers -/

/-- The text goes on with nothing that could belong to a number before it. -/
def Stops (text : List Char) : Prop :=
  ∀ c ∈ text.head?, c.isDigit = false ∧ c ≠ '.' ∧ c ≠ 'e' ∧ c ≠ 'E'

theorem digitsValue_toDigits (n : Nat) : digitsValue (Nat.toDigits 10 n) = n := by
  have value : digitsValue (Nat.toDigits 10 n) = Nat.ofDigitChars 10 (Nat.toDigits 10 n) 0 := by
    simp only [digitsValue, Nat.ofDigitChars, Nat.mul_comm]
  rw [value, Nat.ofDigitChars_toDigits (by decide) (by decide)]

theorem isDigit_of_mem_toDigits {n : Nat} {c : Char} (among : c ∈ Nat.toDigits 10 n) :
    c.isDigit = true :=
  Nat.isDigit_of_mem_toDigits (by decide) (by decide) among

theorem exists_toDigits_eq_cons (n : Nat) :
    ∃ first others, Nat.toDigits 10 n = first :: others ∧ first.isDigit = true := by
  rcases written : Nat.toDigits 10 n with _ | ⟨first, others⟩
  · exact absurd written Nat.toDigits_ne_nil
  · have among : first ∈ Nat.toDigits 10 n := by simp [written]
    exact ⟨first, others, rfl, isDigit_of_mem_toDigits among⟩

/-- The digits of a number do not begin with a zero, except for zero itself. -/
theorem toDigits_eq_of_head?_eq_zero (n : Nat) (zero : (Nat.toDigits 10 n).head? = some '0') :
    Nat.toDigits 10 n = ['0'] := by
  induction n using Nat.strongRecOn with
  | ind n ih =>
      rcases Nat.lt_or_ge n 10 with small | large
      · rw [Nat.toDigits_of_lt_base small] at zero ⊢
        simpa using zero
      · have leading : (Nat.toDigits 10 (n / 10)).head? = some '0' := by
          rw [Nat.toDigits_of_base_le (by decide) large, List.head?_append] at zero
          obtain ⟨first, others, digits, -⟩ := exists_toDigits_eq_cons (n / 10)
          simpa [digits] using zero
        have nothing : n / 10 = 0 := by
          rw [← digitsValue_toDigits (n / 10), ih (n / 10) (by omega) leading]
          decide
        omega

/-- The digits that have been written are the digits that are read. -/
theorem lexDigits?_toDigits (n : Nat) {rest : List Char}
    (other : ∀ c ∈ rest.head?, c.isDigit = false) :
    lexDigits? (Nat.toDigits 10 n ++ rest) = some (Nat.toDigits 10 n, rest) := by
  have digits (c : Char) (among : c ∈ Nat.toDigits 10 n) : c.isDigit = true :=
    isDigit_of_mem_toDigits among
  have none : rest.takeWhile Char.isDigit = [] ∧ rest.dropWhile Char.isDigit = rest := by
    cases rest with
    | nil => simp
    | cons c _ => simp [other c rfl]
  rw [lexDigits?, List.takeWhile_append_of_pos digits, List.dropWhile_append_of_pos digits, none.1,
    none.2, List.append_nil]
  obtain ⟨first, others, written, -⟩ := exists_toDigits_eq_cons n
  rw [written]

/-- A number is read as its digits and what follows them say, if nothing but an exponent follows. -/
theorem lexNumber?_toDigits (negative : Bool) (n : Nat) {tail rest : List Char}
    {exponent : Option Int} (other : ∀ c ∈ tail.head?, c.isDigit = false ∧ c ≠ '.')
    (read : lexExponent? tail = some (exponent, rest)) :
    lexNumber? ((if negative then ['-'] else []) ++ Nat.toDigits 10 n ++ tail) =
      some (if exponent = none ∧ ¬(negative ∧ n = 0) then
          .int (if negative then -(n : Int) else n)
        else .decimal negative n (exponent.getD 0), rest) := by
  have digits := lexDigits?_toDigits n fun c first => (other c first).1
  have whole : ¬((Nat.toDigits 10 n).head? = some '0' ∧ Nat.toDigits 10 n ≠ ['0']) :=
    fun leading => leading.2 (toDigits_eq_of_head?_eq_zero n leading.1)
  have fraction : lexFraction? tail = some (none, tail) := by
    unfold lexFraction?
    split
    · exact absurd rfl (other '.' rfl).2
    · rfl
  -- `unsigned` decides in the first case that there is no sign to take off.
  have unsigned (later : List Char) : Nat.toDigits 10 n ++ tail ≠ '-' :: later := by
    intro same
    obtain ⟨first, others, written, digit⟩ := exists_toDigits_eq_cons n
    rw [written, List.cons_append, List.cons.injEq] at same
    rw [same.1] at digit
    cases digit
  cases negative
  · simp [lexNumber?, digits, whole, fraction, read, digitsValue_toDigits]
    split_ifs <;> rfl
  · simp [lexNumber?, digits, whole, fraction, read, digitsValue_toDigits]
    split_ifs <;> rfl

theorem lexExponent?_stops {rest : List Char} (stops : Stops rest) :
    lexExponent? rest = some (none, rest) := by
  unfold lexExponent?
  split
  · rename_i c after
    obtain ⟨-, -, small, capital⟩ := stops c rfl
    have other : ¬(c = 'e' ∨ c = 'E') := by simp [small, capital]
    rw [if_neg other]
  · rfl

/-- An exponent is read as it was written. -/
theorem lexExponent?_printInt (n : Int) {rest : List Char} (stops : Stops rest) :
    lexExponent? ('e' :: printInt n ++ rest) = some (some n, rest) := by
  have digits := lexDigits?_toDigits n.natAbs fun c first => (stops c first).1
  have value := digitsValue_toDigits n.natAbs
  unfold lexExponent? printInt
  split_ifs with negative
  · have back : -(n.natAbs : Int) = n := by omega
    simp only [List.cons_append, true_or, if_true, digits, value, Option.map_some, back]
  · obtain ⟨first, others, written, digit⟩ := exists_toDigits_eq_cons n.natAbs
    have notMinus : first ≠ '-' := by rintro rfl; cases digit
    have notPlus : first ≠ '+' := by rintro rfl; cases digit
    have back : (n.natAbs : Int) = n := by omega
    rw [written] at digits value ⊢
    rw [List.cons_append] at digits
    simp [notMinus, notPlus, digits, value, back]

/-- A number is read as it was written. -/
theorem lexNumber?_printNumber (n : JsonNumber) {rest : List Char} (stops : Stops rest) :
    lexNumber? (printNumber n ++ rest) = some (n, rest) := by
  cases n with
  | int n =>
      have read := lexNumber?_toDigits (decide (n < 0)) n.natAbs
        (fun c first => ⟨(stops c first).1, (stops c first).2.1⟩) (lexExponent?_stops stops)
      have value : (if n < 0 then -(n.natAbs : Int) else n.natAbs) = n := by omega
      have sign : printInt n = (if n < 0 then ['-'] else []) ++ Nat.toDigits 10 n.natAbs := by
        rw [printInt]
        split_ifs <;> rfl
      have notMinusZero : ¬(n < 0 ∧ n.natAbs = 0) := by omega
      simp only [decide_eq_true_eq, notMinusZero, not_false_eq_true, and_true, if_true,
        value] at read
      rw [printNumber, sign, read]
  | decimal negative digits exponent =>
      have other : ∀ c ∈ ('e' :: printInt exponent ++ rest).head?, c.isDigit = false ∧ c ≠ '.' := by
        rintro c ⟨⟩
        decide
      have read := lexNumber?_toDigits negative digits other (lexExponent?_printInt exponent stops)
      simp only [reduceCtorEq, false_and, if_false, Option.getD_some] at read
      rw [printNumber, List.append_assoc, read]

/-- A character with which a number begins. -/
def IsNumeral (c : Char) : Prop :=
  c = '-' ∨ c.isDigit = true

theorem IsNumeral.visible {c : Char} (numeral : IsNumeral c) : isSpace c = false := by
  rw [Bool.eq_false_iff]
  intro space
  simp only [isSpace, Bool.or_eq_true, beq_iff_eq] at space
  rcases space with ((rfl | rfl) | rfl) | rfl
  all_goals
    rcases numeral with same | digit
    · cases same
    · cases digit

theorem IsNumeral.lexToken? {c : Char} (numeral : IsNumeral c) (rest : List Char) :
    lexToken? c rest = (lexNumber? (c :: rest)).map fun found => (.number found.1, found.2) := by
  unfold Json.lexToken?
  split
  case h_11 => rfl
  all_goals
    rcases numeral with same | digit
    · cases same
    · cases digit

theorem exists_printNumber_eq_cons (n : JsonNumber) :
    ∃ first others, printNumber n = first :: others ∧ IsNumeral first := by
  cases n with
  | int n =>
      rw [printNumber, printInt]
      split_ifs
      · exact ⟨_, _, rfl, .inl rfl⟩
      · obtain ⟨first, others, written, digit⟩ := exists_toDigits_eq_cons n.natAbs
        exact ⟨first, others, written, .inr digit⟩
  | decimal negative digits exponent =>
      rw [printNumber]
      cases negative
      · obtain ⟨first, others, written, digit⟩ := exists_toDigits_eq_cons digits
        exact ⟨first, others ++ 'e' :: printInt exponent, by simp [written], .inr digit⟩
      · exact ⟨_, _, rfl, .inl rfl⟩

/-- A number is one token. -/
theorem lexes_printNumber (n : JsonNumber) {rest : List Char} {tokens : List Token}
    (stops : Stops rest) (lexed : Lexes rest tokens) :
    Lexes (printNumber n ++ rest) (.number n :: tokens) := by
  have read := lexNumber?_printNumber n stops
  obtain ⟨first, others, written, numeral⟩ := exists_printNumber_eq_cons n
  rw [written] at read ⊢
  refine .token others numeral.visible ?_ lexed
  rw [numeral.lexToken?, ← List.cons_append, read]
  rfl

/-! ## Values -/

mutual

/-- The tokens of a value. -/
def tokens : Json → List Token
  | .null => [.null]
  | .bool b => [.bool b]
  | .number n => [.number n]
  | .string text => [.string (some text)]
  | .array items => .openArray :: itemTokens items ++ [.closeArray]
  | .object members => .openObject :: memberTokens members ++ [.closeObject]
  | .unreadable => [.string none]

/-- The tokens of the items of an array. -/
def itemTokens : List Json → List Token
  | [] => []
  | [item] => tokens item
  | item :: rest => tokens item ++ .comma :: itemTokens rest

/-- The tokens of the members of an object. -/
def memberTokens : List (String × Json) → List Token
  | [] => []
  | [(name, value)] => .string (some name) :: .colon :: tokens value
  | (name, value) :: rest =>
      .string (some name) :: .colon :: tokens value ++ .comma :: memberTokens rest

end

/-- The texts of the given kind have the given tokens, whatever follows them. -/
def Tokenizes (body : List Char → Prop) (found : List Token) : Prop :=
  ∀ text, body text → ∀ rest more, Stops rest → Lexes rest more →
    Lexes (text ++ rest) (found ++ more)

theorem stops_of_blank {space rest : List Char} (blank : Blank space) (stops : Stops rest) :
    Stops (space ++ rest) := by
  cases space with
  | nil => exact stops
  | cons c _ =>
      rintro first ⟨⟩
      have space : isSpace c = true := blank c List.mem_cons_self
      simp only [isSpace, Bool.or_eq_true, beq_iff_eq] at space
      rcases space with ((rfl | rfl) | rfl) | rfl <;> decide

/-- White space around a text does not change its tokens. -/
theorem Tokenizes.surrounded {body : List Char → Prop} {found : List Token}
    (tokenizes : Tokenizes body found) : Tokenizes (Surrounded body) found := by
  rintro text ⟨before, inside, after, blankBefore, spelled, blankAfter, rfl⟩ rest more stops lexed
  rw [List.append_assoc, List.append_assoc]
  exact .blank blankBefore
    (tokenizes inside spelled _ _ (stops_of_blank blankAfter stops) (.blank blankAfter lexed))

theorem tokenizes_string (name : String) :
    Tokenizes (SpellsString name) [.string (some name)] :=
  fun _ spelled _ _ _ lexed => spelled.lexes lexed

/-- A bracket, a comma or a colon is one token. -/
theorem Lexes.mark {c : Char} {token : Token} {text : List Char} {tokens : List Token}
    (visible : isSpace c = false) (begins : ∀ rest, lexToken? c rest = some (token, rest))
    (lexed : Lexes text tokens) : Lexes (c :: text) (token :: tokens) :=
  .token [] visible (begins text) lexed

/-- A member of an object has the tokens of its name and its value. -/
theorem Tokenizes.member {name : String} {value : List Char → Prop} {found : List Token}
    (tokenizes : Tokenizes value found) :
    Tokenizes (SpellsMember name value) (.string (some name) :: .colon :: found) := by
  rintro text ⟨key, body, spelledKey, spelledBody, rfl⟩ rest more stops lexed
  have lexedBody := tokenizes.surrounded body spelledBody rest more stops lexed
  have lexedColon : Lexes (':' :: body ++ rest) (.colon :: found ++ more) :=
    .mark rfl (fun _ => rfl) lexedBody
  rw [List.append_assoc]
  exact (tokenizes_string name).surrounded key spelledKey _ _ (by rintro c ⟨⟩; decide) lexedColon

/-- What is followed by a comma and more has the tokens of both with a comma between them. -/
theorem Tokenizes.comma {first others : List Char → Prop} {found more : List Token}
    (tokenizesFirst : Tokenizes first found) (tokenizesOthers : Tokenizes others more) :
    Tokenizes (fun text => ∃ a b, first a ∧ others b ∧ text = a ++ ',' :: b)
      (found ++ .comma :: more) := by
  rintro text ⟨a, b, spelledFirst, spelledOthers, rfl⟩ rest tail stops lexed
  have lexedOthers := tokenizesOthers b spelledOthers rest tail stops lexed
  have lexedComma : Lexes (',' :: b ++ rest) (.comma :: more ++ tail) :=
    .mark rfl (fun _ => rfl) lexedOthers
  rw [List.append_assoc, List.append_assoc]
  exact tokenizesFirst a spelledFirst _ _ (by rintro c ⟨⟩; decide) lexedComma

/-- What stands between brackets has its tokens between those of the brackets. -/
theorem Tokenizes.enclosed {inside : List Char → Prop} {found : List Token} {opening closing : Char}
    {first last : Token} (tokenizes : Tokenizes inside found)
    (visibleOpening : isSpace opening = false) (visibleClosing : isSpace closing = false)
    (begins : ∀ rest, lexToken? opening rest = some (first, rest))
    (ends : ∀ rest, lexToken? closing rest = some (last, rest))
    (stops : ∀ rest, Stops (closing :: rest)) :
    Tokenizes (fun text => ∃ body, inside body ∧ text = opening :: body ++ [closing])
      (first :: found ++ [last]) := by
  rintro text ⟨body, spelled, rfl⟩ rest more _ lexed
  have lexedClosing : Lexes (closing :: rest) (last :: more) := .mark visibleClosing ends lexed
  have lexedBody := tokenizes body spelled _ _ (stops rest) lexedClosing
  rw [List.append_assoc, List.append_assoc]
  exact .mark visibleOpening begins lexedBody

theorem tokenizes_blank : Tokenizes Blank [] :=
  fun _ blank _ _ _ lexed => .blank blank lexed

mutual

/-- However a value is written, its text has the tokens of the value. -/
theorem tokenizes_spells : ∀ v : Json, Tokenizes v.Spells v.tokens
  | .null => by
      rintro _ rfl rest more _ lexed
      exact .token ['u', 'l', 'l'] rfl rfl lexed
  | .bool true => by
      rintro _ rfl rest more _ lexed
      exact .token ['r', 'u', 'e'] rfl rfl lexed
  | .bool false => by
      rintro _ rfl rest more _ lexed
      exact .token ['a', 'l', 's', 'e'] rfl rfl lexed
  | .number n => by
      rintro _ rfl rest more stops lexed
      exact lexes_printNumber n stops lexed
  | .string text => tokenizes_string text
  | .array items => (tokenizes_spellsItems items).enclosed rfl rfl (fun _ => rfl) (fun _ => rfl)
      (by rintro rest c ⟨⟩; decide)
  | .object members => (tokenizes_spellsMembers members).enclosed rfl rfl (fun _ => rfl)
      (fun _ => rfl) (by rintro rest c ⟨⟩; decide)
  | .unreadable => by
      rintro _ impossible
      cases impossible

theorem tokenizes_spellsItems : ∀ items : List Json,
    Tokenizes (SpellsItems items) (itemTokens items)
  | [] => tokenizes_blank
  | [item] => (tokenizes_spells item).surrounded
  | item :: next :: rest =>
      (tokenizes_spells item).surrounded.comma (tokenizes_spellsItems (next :: rest))

theorem tokenizes_spellsMembers : ∀ members : List (String × Json),
    Tokenizes (SpellsMembers members) (memberTokens members)
  | [] => tokenizes_blank
  | [(_, value)] => (tokenizes_spells value).member
  | (_, value) :: next :: rest =>
      (tokenizes_spells value).member.comma (tokenizes_spellsMembers (next :: rest))

end

/-- Every text of a value, with white space around it or not, has the tokens of the value. -/
theorem lex?_of_surrounded {v : Json} {text : String}
    (written : Surrounded v.Spells text.toList) : lex? text = some v.tokens := by
  have lexed := (tokenizes_spells v).surrounded text.toList written [] [] (by rintro c ⟨⟩) .nil
  rwa [List.append_nil, List.append_nil] at lexed

end ExpandContract.Json
