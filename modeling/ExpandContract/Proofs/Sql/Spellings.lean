import ExpandContract.Proofs.Sql.References

/-!
# Bare and quoted spellings

A column whose name consists of small letters can be written with or without double quotes. The two
spellings go through different branches of the reader: a word that directly follows a point is left
alone, a quoted identifier is not asked what it follows.

The results agree in everything else (`replaceReferences_spellings`). The column itself is replaced
in both spellings, unless it directly follows a point; there only the quoted one is.
-/

set_option autoImplicit false

namespace ExpandContract.Sql

variable {chars rest middle : List Char} {front list later : List Token} {token : Token}
variable {before column after replacement : String}

/-! ## Small letters -/

theorem isLower_iff {c : Char} : c.isLower = true ↔ 97 ≤ c.toNat ∧ c.toNat ≤ 122 := by
  change (decide (97 ≤ c.val) && decide (c.val ≤ 122)) = true ↔ _
  simp [UInt32.le_iff_toNat_le, ← Char.toNat_val]

theorem startsWord_of_isLower {c : Char} (lower : c.isLower = true) : startsWord c = true := by
  have ascii : c.toNat < 0x80 := by
    have bounds := isLower_iff.mp lower
    omega
  have letter : c.isAlpha = true := (Bool.or_eq_true ..).mpr (.inr lower)
  rw [startsWord, Text.isAlphabetic_of_ascii ascii, letter, Bool.true_or]

theorem toLower_of_isLower {c : Char} (lower : c.isLower = true) : c.toLower = c := by
  refine dif_neg fun upper => ?_
  have small := (isLower_iff.mp lower).1
  have capital : c.toNat ≤ 90 := by
    simpa [UInt32.le_iff_toNat_le, ← Char.toNat_val] using upper.2
  omega

/-- Small letters are their own lower-case form. -/
theorem lowercase_of_isLower {text : List Char} (lower : ∀ c ∈ text, c.isLower = true) :
    Text.lowercase text = text := by
  have lowerFrom_eq (read : List Char) : Text.lowerFrom read text = text := by
    induction text generalizing read with
    | nil => rfl
    | cons c rest ih =>
      obtain ⟨first, others⟩ := List.forall_mem_cons.mp lower
      have bounds := isLower_iff.mp first
      have ascii : c.toNat < 0x80 := by omega
      have notSigma : (c.toNat == 0x3a3) = false := by
        simp only [beq_eq_false_iff_ne]
        omega
      simp [Text.lowerFrom, notSigma, Text.lowerChar_of_ascii ascii, toLower_of_isLower first,
        ih others]
  exact lowerFrom_eq []

/-- A text without the quote is the same inside the quotes. -/
theorem doubled_eq_self {quote : Char} {text : List Char} (free : ∀ c ∈ text, c ≠ quote) :
    doubled quote text = text := by
  induction text with
  | nil => rfl
  | cons c rest ih =>
      obtain ⟨first, others⟩ := List.forall_mem_cons.mp free
      rw [doubled, if_neg first, ih others]

/-! ## Tokens in another place -/

theorem Reads.append (reads : Reads chars list middle) (goesOn : Reads middle later rest) :
    Reads chars (list ++ later) rest := by
  induction reads with
  | nil => exact goesOn
  | cons wellFormed ends _ ih => exact .cons wellFormed ends (ih goesOn)

/-- Where the last token is over, something else may follow. -/
theorem Reads.elsewhere (reads : Reads chars list rest) (other : List Char)
    (ends : ∀ last ∈ list.getLast?, last.EndsBefore other.head?) :
    Reads (list.flatMap Token.text ++ other) list other := by
  induction reads with
  | nil => exact .nil
  | @cons token after list rest wellFormed endsHere others ih =>
    rw [List.flatMap_cons, List.append_assoc]
    cases others with
    | nil => exact .cons wellFormed (by simpa using ends token) .nil
    | @cons next remaining list rest wellFormedNext endsNext others =>
      refine .cons wellFormed ?_ (ih (by simpa using ends))
      rw [Token.head?_text_append wellFormedNext] at endsHere
      rwa [List.flatMap_cons, List.append_assoc, Token.head?_text_append wellFormedNext]

/-- The last token is over where the rest begins. -/
theorem Reads.last (reads : Reads chars list rest) :
    ∀ last ∈ list.getLast?, last.WellFormed ∧ last.EndsBefore rest.head? := by
  induction reads with
  | nil => simp
  | @cons token after list rest wellFormed ends others ih =>
    cases others with
    | nil => simpa using ⟨wellFormed, ends⟩
    | cons _ _ _ => simpa using ih

theorem renameReferences_append (column replacement : List Char) (before front list : List Token) :
    renameReferences column replacement (followsPoint before) (front ++ list) =
      renameReferences column replacement (followsPoint before) front ++
        renameReferences column replacement (followsPoint (before ++ front)) list := by
  induction front generalizing before with
  | nil => simp [renameReferences]
  | cons token front ih =>
    rw [List.cons_append, renameReferences_cons, renameReferences_cons, ih]
    simp

/-! ## The end of a text -/

theorem getLast?_flatMap_text (wellFormed : token.WellFormed) (front : List Token) :
    ((front ++ [token]).flatMap Token.text).getLast? = token.text.getLast? := by
  cases shape : token.text.getLast? with
  | none => exact absurd (List.getLast?_eq_none_iff.mp shape) (Token.text_ne_nil wellFormed)
  | some c => simp [List.getLast?_append, shape]

/-- Tokens that something follows end with a point just if the last of them is one. -/
theorem Reads.followsPoint_iff (reads : Reads chars front rest) (goesOn : rest ≠ []) :
    followsPoint front = true ↔ (front.flatMap Token.text).getLast? = some '.' := by
  rcases List.eq_nil_or_concat front with rfl | ⟨init, last, rfl⟩
  · simp
  obtain ⟨wellFormed, ends⟩ := reads.last last (by simp)
  rw [List.concat_eq_append, followsPoint_append_singleton, getLast?_flatMap_text wellFormed]
  cases last with
  | literal inside closed =>
    cases closed with
    | true => simp [Token.text, List.getLast?_cons, List.getLast?_append]
    | false => exact absurd (List.head?_eq_none_iff.mp ends) goesOn
  | quoted name => simp [Token.text, List.getLast?_cons, List.getLast?_append]
  | word text =>
    obtain ⟨first, others, rfl, starts, letters⟩ := wellFormed
    have noPoint : (first :: others).getLast? ≠ some '.' := by
      intro point
      have goes : continuesWord '.' = true := by
        rcases List.mem_cons.mp (List.mem_of_getLast? point) with same | member
        · rw [same]
          exact continuesWord_of_startsWord starts
        · exact letters _ member
      exact absurd goes (by decide)
    simpa [Token.text] using noPoint
  | symbol c => simp [Token.text]

/-- Tokens that do not end with a double quote are over before one. -/
theorem Reads.endsBefore_quote (reads : Reads chars front rest) {c : Char}
    (starts : startsWord c = true) (begins : rest.head? = some c)
    (apart : (front.flatMap Token.text).getLast? ≠ some '"') :
    ∀ last ∈ front.getLast?, last.EndsBefore (some '"') := by
  intro last isLast
  obtain ⟨wellFormed, ends⟩ := reads.last last isLast
  obtain ⟨init, rfl⟩ := List.getLast?_eq_some_iff.mp isLast
  rw [begins] at ends
  rw [getLast?_flatMap_text wellFormed] at apart
  cases last with
  | literal inside closed =>
    cases closed with
    | true => simp [Token.EndsBefore]
    | false => cases ends
  | quoted name => simp [Token.text, List.getLast?_cons, List.getLast?_append] at apart
  | word text =>
    have stops := ends c rfl
    rw [continuesWord_of_startsWord starts] at stops
    cases stops
  | symbol c => trivial

/-! ## Two spellings of one column -/

/-- The column stands between the two texts as a word of its own: outside of literals and quoted
identifiers, and with no double quote next to it. Its name consists of small letters. -/
structure StandsBare (before column after : String) : Prop where
  named : column.toList ≠ []
  letters : ∀ c ∈ column.toList, c.isLower = true
  outside : ∃ front, Reads (before ++ column ++ after).toList front (column ++ after).toList
  whole : ∀ c ∈ after.toList.head?, continuesWord c = false
  apartBefore : before.toList.getLast? ≠ some '"'
  apartAfter : after.toList.head? ≠ some '"'

/-- The references before a token, in it and after it are replaced apart from each other. -/
theorem toList_replaceReferences_around {expression : String}
    (reads : Reads expression.toList (front ++ [token]) after.toList)
    (readsBefore : Reads before.toList front []) (noPoint : token ≠ .symbol '.') :
    (replaceReferences expression column replacement).toList =
      (replaceReferences before column replacement).toList ++
        (token.replaced column.toList replacement.toList front).text ++
        (replaceReferences after column replacement).toList := by
  have whole : tokens expression = front ++ token :: tokens after := by
    rw [tokens, reads.tokensFrom_eq, List.append_assoc, List.singleton_append, tokens]
  have first : tokens before = front := by
    rw [tokens, readsBefore.tokensFrom_eq, tokensFrom, List.append_nil]
  have apart := renameReferences_append column.toList replacement.toList [] front
    (token :: tokens after)
  have noFollower : followsPoint (front ++ [token]) = false := by
    rw [followsPoint_append_singleton]
    simpa using noPoint
  rw [List.nil_append, renameReferences_cons, noFollower, followsPoint_nil] at apart
  simp only [replaceReferences, String.toList_ofList]
  rw [whole, apart, first, List.flatMap_append, List.flatMap_cons, List.append_assoc]

namespace StandsBare

/-- The tokens before the column are those of the text before it, whatever spelling follows. -/
theorem tokens_before (stands : StandsBare before column after) :
    ∃ front, Reads before.toList front [] ∧
      Reads (before ++ column ++ after).toList front (column ++ after).toList ∧
      Reads (before ++ "\"" ++ column ++ "\"" ++ after).toList front
        ("\"" ++ column ++ "\"" ++ after).toList ∧
      (followsPoint front = true ↔ before.toList.getLast? = some '.') := by
  obtain ⟨front, reads⟩ := stands.outside
  have text : before.toList = front.flatMap Token.text := by
    have same := reads.text
    rw [String.toList_append, String.toList_append, String.toList_append, List.append_assoc] at same
    exact List.append_cancel_right same
  obtain ⟨first, others, name⟩ := List.exists_cons_of_ne_nil stands.named
  have begins : (column ++ after).toList.head? = some first := by simp [name]
  have starts : startsWord first = true :=
    startsWord_of_isLower (stands.letters first (by simp [name]))
  have quote := reads.endsBefore_quote starts begins (by rw [← text]; exact stands.apartBefore)
  refine ⟨front, ?_, reads, ?_, ?_⟩
  · have alone := reads.elsewhere [] fun last _ => last.endsBefore_none
    rwa [List.append_nil, ← text] at alone
  · have quoted := reads.elsewhere ("\"" ++ column ++ "\"" ++ after).toList
      (by simpa using quote)
    rw [← text] at quoted
    simpa [List.append_assoc] using quoted
  · rw [text]
    exact reads.followsPoint_iff (by simp [name])

theorem reads_word (stands : StandsBare before column after) :
    Reads (column ++ after).toList [.word column.toList] after.toList := by
  obtain ⟨first, others, name⟩ := List.exists_cons_of_ne_nil stands.named
  have starts (c : Char) (member : c ∈ column.toList) : startsWord c = true :=
    startsWord_of_isLower (stands.letters c member)
  have wellFormed : (Token.word column.toList).WellFormed := by
    refine ⟨first, others, name, starts first (by simp [name]), fun c member => ?_⟩
    exact continuesWord_of_startsWord (starts c (by simp [name, member]))
  rw [String.toList_append]
  exact .cons wellFormed stands.whole .nil

theorem reads_quoted (stands : StandsBare before column after) :
    Reads ("\"" ++ column ++ "\"" ++ after).toList [.quoted column.toList] after.toList := by
  have noQuote : doubled '"' column.toList = column.toList := by
    refine doubled_eq_self fun c member same => ?_
    have lower := stands.letters c member
    rw [same] at lower
    cases lower
  have split : ("\"" ++ column ++ "\"" ++ after).toList =
      (Token.quoted column.toList).text ++ after.toList := by
    simp [Token.text, noQuote]
  rw [split]
  exact .cons trivial stands.apartAfter .nil

/-- The bare column is replaced unless it directly follows a point. -/
theorem replaceReferences_bare (stands : StandsBare before column after) (replacement : String) :
    replaceReferences (before ++ column ++ after) column replacement =
      replaceReferences before column replacement ++
        (if before.toList.getLast? = some '.' then column else quotedName replacement) ++
        replaceReferences after column replacement := by
  obtain ⟨front, readsBefore, reads, _, point⟩ := stands.tokens_before
  have lower := lowercase_of_isLower stands.letters
  apply String.toList_injective
  rw [toList_replaceReferences_around (reads.append stands.reads_word) readsBefore (by simp)]
  by_cases follows : before.toList.getLast? = some '.'
  · have kept : ¬ Refers column.toList front (.word column.toList) := by
      rw [← refersTo_iff, Token.refersTo, point.mpr follows]
      simp
    rw [Token.replaced_of_not_refers kept, if_pos follows]
    simp [Token.text]
  · have refers : Refers column.toList front (.word column.toList) := by
      rw [← refersTo_iff, Token.refersTo, Bool.eq_false_iff.mpr (mt point.mp follows), lower]
      simp
    rw [Token.replaced_of_refers refers, if_neg follows]
    simp [Token.text, quotedName, toList_quoted]

/-- The quoted column is replaced, whatever it follows. -/
theorem replaceReferences_quoted (stands : StandsBare before column after) (replacement : String) :
    replaceReferences (before ++ "\"" ++ column ++ "\"" ++ after) column replacement =
      replaceReferences before column replacement ++ quotedName replacement ++
        replaceReferences after column replacement := by
  obtain ⟨front, readsBefore, _, reads, _⟩ := stands.tokens_before
  have refers : Refers column.toList front (.quoted column.toList) := rfl
  apply String.toList_injective
  rw [toList_replaceReferences_around (reads.append stands.reads_quoted) readsBefore (by simp),
    Token.replaced_of_refers refers]
  simp [Token.text, quotedName, toList_quoted]

/-- The name of the column has no double quotes, and every replacement has. -/
theorem ne_quotedName (stands : StandsBare before column after) (replacement : String) :
    column ≠ quotedName replacement := by
  intro same
  have opens : '"' ∈ column.toList := by
    rw [same, quotedName, toList_quoted]
    exact List.mem_cons_self
  cases stands.letters _ opens

end StandsBare

/-- A column of small letters that stands in an expression with or without double quotes: what is
before it and what is after it come out the same. The quoted column is always replaced, and the bare
one unless it directly follows a point, so the spellings are treated alike just if it does not. -/
theorem replaceReferences_spellings (stands : StandsBare before column after)
    (replacement : String) :
    replaceReferences (before ++ column ++ after) column replacement =
      replaceReferences before column replacement ++
        (if before.toList.getLast? = some '.' then column else quotedName replacement) ++
        replaceReferences after column replacement ∧
    replaceReferences (before ++ "\"" ++ column ++ "\"" ++ after) column replacement =
      replaceReferences before column replacement ++ quotedName replacement ++
        replaceReferences after column replacement ∧
    (replaceReferences (before ++ column ++ after) column replacement =
        replaceReferences (before ++ "\"" ++ column ++ "\"" ++ after) column replacement ↔
      before.toList.getLast? ≠ some '.') := by
  have bare := stands.replaceReferences_bare replacement
  have quoted := stands.replaceReferences_quoted replacement
  refine ⟨bare, quoted, ?_⟩
  rw [bare, quoted]
  by_cases follows : before.toList.getLast? = some '.'
  · rw [if_pos follows]
    refine ⟨fun same => ?_, fun free => absurd follows free⟩
    refine absurd (String.toList_injective ?_) (stands.ne_quotedName replacement)
    simpa [String.toList_append] using congrArg String.toList same
  · rw [if_neg follows]
    exact ⟨fun _ => follows, fun _ => rfl⟩

/-- A column beside a function's parentheses is replaced in both spellings. -/
theorem replaceReferences_spellings_parenthesis :
    StandsBare "length(" "email" ") > 3" ∧
    replaceReferences "length(email) > 3" "email" "_pgshift_new_email" =
      replaceReferences "length(\"email\") > 3" "email" "_pgshift_new_email" := by
  have stands : StandsBare "length(" "email" ") > 3" := by
    have bracket : Reads "(email) > 3".toList [.symbol '('] "email) > 3".toList :=
      @Reads.cons (.symbol '(') _ _ _ ⟨by decide, by decide, by decide⟩ trivial .nil
    have outside : Reads "length(email) > 3".toList [.word "length".toList, .symbol '(']
        "email) > 3".toList :=
      @Reads.cons (.word "length".toList) _ _ _
        ⟨'l', "ength".toList, rfl, by decide, List.all_eq_true.mp rfl⟩
        (fun c first => by cases first; decide) bracket
    exact ⟨by decide, List.all_eq_true.mp rfl, ⟨_, outside⟩, fun c first => by cases first; decide,
      by decide, by decide⟩
  obtain ⟨_, _, alike⟩ := replaceReferences_spellings stands "_pgshift_new_email"
  exact ⟨stands, alike.mpr (by decide)⟩

/-- Behind a point the quoted spelling is replaced and the bare one is not. -/
theorem replaceReferences_behind_point :
    StandsBare "t." "email" " IS NULL" ∧
    replaceReferences "t.email IS NULL" "email" "_pgshift_new_email" = "t.email IS NULL" ∧
    replaceReferences "t.\"email\" IS NULL" "email" "_pgshift_new_email" =
      "t.\"_pgshift_new_email\" IS NULL" := by
  have point : Reads ".email IS NULL".toList [.symbol '.'] "email IS NULL".toList :=
    @Reads.cons (.symbol '.') _ _ _ ⟨by decide, by decide, by decide⟩ trivial .nil
  have outside : Reads "t.email IS NULL".toList [.word ['t'], .symbol '.'] "email IS NULL".toList :=
    @Reads.cons (.word ['t']) _ _ _ ⟨'t', [], rfl, by decide, by simp⟩
      (fun c first => by cases first; decide) point
  have stands : StandsBare "t." "email" " IS NULL" :=
    ⟨by decide, List.all_eq_true.mp rfl, ⟨_, outside⟩, fun c first => by cases first; decide,
      by decide, by decide⟩
  exact ⟨stands, rfl, rfl⟩

end ExpandContract.Sql
