import ExpandContract.Sql.Name

/-!
# Names that are cut

The server keeps the longest beginning of a name that has no more bytes than it keeps and ends
between two characters. There is one such beginning (`LongestBeginning.unique`). Reading a text from
its first character on finds it (`longestBeginning_takeBytes`), and so does a search that goes back
from the last byte that might be kept (`longestBeginning_cutName`). So a name that has been cut is
the name under which the server stores it (`cutName_eq_storedName`).

The search makes three steps at most, as no character has more than four bytes
(`lt_lastBoundary_add_four`).
-/

set_option autoImplicit false

namespace ExpandContract.Sql

/-! ## What is kept of a text -/

/-- What is kept of a text that goes on, where its beginning fits. -/
theorem takeBytes_append {limit : Nat} {first : List Char} (rest : List Char)
    (fits : (String.ofList first).utf8ByteSize ≤ limit) :
    takeBytes limit (first ++ rest) =
      first ++ takeBytes (limit - (String.ofList first).utf8ByteSize) rest := by
  induction first generalizing limit with
  | nil => simp
  | cons c others ih =>
      have parts : String.ofList (c :: others) = String.singleton c ++ String.ofList others := by
        rw [String.singleton_eq_ofList, ← String.ofList_append]
        rfl
      rw [parts, String.utf8ByteSize_append, String.utf8ByteSize_singleton] at fits ⊢
      rw [List.cons_append, takeBytes, if_pos (by omega), ih (by omega), Nat.sub_sub,
        List.cons_append]

theorem storedName_append {first : String} (rest : String)
    (fits : first.utf8ByteSize ≤ maxIdentifierBytes) :
    storedName (first ++ rest) =
      first ++ String.ofList (takeBytes (maxIdentifierBytes - first.utf8ByteSize) rest.toList) := by
  have whole : String.ofList first.toList = first := String.ofList_toList
  have kept := takeBytes_append rest.toList (whole ▸ fits)
  rw [whole] at kept
  rw [storedName, String.toList_append, kept, String.ofList_append, String.ofList_toList]

/-- Of what is kept of a text, fewer bytes are the same ones as of the text. -/
theorem takeBytes_takeBytes {fewer more : Nat} (ordered : fewer ≤ more) (text : List Char) :
    takeBytes fewer (takeBytes more text) = takeBytes fewer text := by
  induction text generalizing fewer more with
  | nil => rfl
  | cons c rest ih =>
      by_cases fits : c.utf8Size ≤ more
      · rw [takeBytes, if_pos fits, takeBytes, takeBytes]
        split
        · rw [ih (by omega)]
        · rfl
      · rw [takeBytes, if_neg fits, takeBytes, takeBytes, if_neg (by omega)]

/-! ## Longest beginnings -/

/-- A part is the longest beginning of a text that has at most so many bytes and ends between two
characters. -/
structure LongestBeginning (limit : Nat) (whole part : String) : Prop where
  beginning : ∃ rest, whole = part ++ rest
  between : String.Pos.Raw.IsValid whole ⟨part.utf8ByteSize⟩
  fits : part.utf8ByteSize ≤ limit
  longest : ∀ bytes ≤ limit, String.Pos.Raw.IsValid whole ⟨bytes⟩ → bytes ≤ part.utf8ByteSize

variable {limit : Nat} {whole part other : String}

/-- A beginning of a text is the whole text if it has as many bytes. -/
theorem eq_of_prefix_of_size (beginning : part.toList <+: other.toList)
    (sizes : part.utf8ByteSize = other.utf8ByteSize) : part = other := by
  obtain ⟨rest, split⟩ := beginning
  have split : other = part ++ String.ofList rest := by
    rw [← String.ofList_toList (s := other), ← split, String.ofList_append, String.ofList_toList]
  have nothing : (String.ofList rest).utf8ByteSize = 0 := by
    rw [split, String.utf8ByteSize_append] at sizes
    omega
  rw [split, String.utf8ByteSize_eq_zero_iff.mp nothing, String.append_empty]

/-- A text has one longest beginning. -/
theorem LongestBeginning.unique (first : LongestBeginning limit whole part)
    (second : LongestBeginning limit whole other) : part = other := by
  have sizes : part.utf8ByteSize = other.utf8ByteSize :=
    Nat.le_antisymm (second.longest _ first.fits first.between)
      (first.longest _ second.fits second.between)
  obtain ⟨rest, rfl⟩ := first.beginning
  obtain ⟨later, split⟩ := second.beginning
  have begins : part.toList <+: (part ++ rest).toList := ⟨rest.toList, String.toList_append.symm⟩
  have beginsToo : other.toList <+: (part ++ rest).toList :=
    ⟨later.toList, by rw [split, String.toList_append]⟩
  rcases List.prefix_or_prefix_of_prefix begins beginsToo with shorter | longer
  · exact eq_of_prefix_of_size shorter sizes
  · exact (eq_of_prefix_of_size longer sizes.symm).symm

/-- A beginning of a text ends between two characters. -/
theorem isValid_utf8ByteSize (part rest : String) :
    String.Pos.Raw.IsValid (part ++ rest) ⟨part.utf8ByteSize⟩ :=
  String.Pos.Raw.isValid_iff_exists_append.mpr ⟨part, rest, rfl, rfl⟩

/-- A text that fits is its own longest beginning. -/
theorem longestBeginning_self (fits : whole.utf8ByteSize ≤ limit) :
    LongestBeginning limit whole whole where
  beginning := ⟨"", String.append_empty.symm⟩
  between := String.Pos.Raw.isValid_rawEndPos
  fits := fits
  longest _ _ valid := valid.le_utf8ByteSize

/-- Reading from the first character on finds the longest beginning. -/
theorem longestBeginning_takeBytes (limit : Nat) (whole : String) :
    LongestBeginning limit whole (String.ofList (takeBytes limit whole.toList)) := by
  obtain ⟨rest, split⟩ := takeBytes_prefix limit whole.toList
  have split : whole = String.ofList (takeBytes limit whole.toList) ++ String.ofList rest := by
    rw [← String.ofList_append, split, String.ofList_toList]
  have between := isValid_utf8ByteSize (String.ofList (takeBytes limit whole.toList))
    (String.ofList rest)
  rw [← split] at between
  refine ⟨⟨_, split⟩, between, utf8ByteSize_takeBytes_le limit whole.toList, ?_⟩
  intro bytes within valid
  obtain ⟨first, later, rfl, ends⟩ := String.Pos.Raw.isValid_iff_exists_append.mp valid
  have size : bytes = first.utf8ByteSize := congrArg String.Pos.Raw.byteIdx ends
  have fits : (String.ofList first.toList).utf8ByteSize ≤ limit := by
    rw [String.ofList_toList, ← size]
    exact within
  rw [String.toList_append, takeBytes_append later.toList fits, String.ofList_append,
    String.utf8ByteSize_append, String.ofList_toList, size]
  exact Nat.le_add_right _ _

/-! ## The search for the place of the cut -/

theorem lastBoundary_le (text : String) (limit : Nat) :
    (lastBoundary text limit).offset.byteIdx ≤ limit := by
  induction limit with
  | zero => exact Nat.le_refl 0
  | succ bytes ih =>
      unfold lastBoundary
      split
      · exact Nat.le_refl _
      · exact Nat.le_succ_of_le ih

/-- The search passes by no place between two characters. -/
theorem le_lastBoundary {text : String} {limit bytes : Nat} (within : bytes ≤ limit)
    (valid : String.Pos.Raw.IsValid text ⟨bytes⟩) :
    bytes ≤ (lastBoundary text limit).offset.byteIdx := by
  induction limit with
  | zero => exact within
  | succ last ih =>
      unfold lastBoundary
      split
      · exact within
      · rename_i inside
        have earlier : bytes ≠ last + 1 := fun same => inside (same ▸ valid)
        exact ih (by omega)

theorem utf8ByteSize_copy_sliceTo {text : String} (place : text.Pos) :
    (text.sliceTo place).copy.utf8ByteSize = place.offset.byteIdx :=
  (congrArg String.Pos.Raw.byteIdx place.splits.offset_eq_rawEndPos).symm

/-- The search finds where the longest beginning ends. -/
theorem longestBeginning_lastBoundary (limit : Nat) (whole : String) :
    LongestBeginning limit whole (whole.sliceTo (lastBoundary whole limit)).copy := by
  have size := utf8ByteSize_copy_sliceTo (lastBoundary whole limit)
  refine ⟨⟨_, (lastBoundary whole limit).splits.eq_append⟩, ?_, ?_, ?_⟩
  · rw [size]
    exact (lastBoundary whole limit).isValid
  · rw [size]
    exact lastBoundary_le whole limit
  · intro bytes within valid
    rw [size]
    exact le_lastBoundary within valid

/-- The search ends less than four bytes before the place where it begins. -/
theorem lt_lastBoundary_add_four {text : String} (longer : limit < text.utf8ByteSize) :
    limit < (lastBoundary text limit).offset.byteIdx + 4 := by
  have splits := (lastBoundary text limit).splits
  have size := utf8ByteSize_copy_sliceTo (lastBoundary text limit)
  have notEnd : lastBoundary text limit ≠ text.endPos := by
    intro ends
    have last := lastBoundary_le text limit
    rw [ends] at last
    exact absurd longer (Nat.not_lt.mpr last)
  obtain ⟨rest, next⟩ := splits.exists_eq_singleton_append notEnd
  have positive := ((lastBoundary text limit).get notEnd).utf8Size_pos
  have atMostFour := ((lastBoundary text limit).get notEnd).utf8Size_le_four
  -- The place behind the next character is between two characters as well.
  have behind := isValid_utf8ByteSize ((text.sliceTo (lastBoundary text limit)).copy ++
    String.singleton ((lastBoundary text limit).get notEnd)) rest
  rw [String.append_assoc, ← next, ← splits.eq_append, String.utf8ByteSize_append,
    String.utf8ByteSize_singleton, size] at behind
  refine Nat.lt_of_not_le fun early => ?_
  have within : (lastBoundary text limit).offset.byteIdx +
      ((lastBoundary text limit).get notEnd).utf8Size ≤ limit := by omega
  have passed := le_lastBoundary within behind
  omega

/-- The search goes back three bytes at most. It passes by places inside of a character only, and
the place at which it ends is in the text, between two characters. -/
theorem lastBoundary_steps {text : String} (longer : limit < text.utf8ByteSize) :
    ∃ steps ≤ 3, steps ≤ limit ∧
      (lastBoundary text limit).offset.byteIdx = limit - steps ∧
      (∀ earlier < steps, ¬String.Pos.Raw.IsValid text ⟨limit - earlier⟩) ∧
      String.Pos.Raw.IsValid text ⟨limit - steps⟩ := by
  have before := lastBoundary_le text limit
  have near := lt_lastBoundary_add_four longer
  have ends : (lastBoundary text limit).offset.byteIdx =
      limit - (limit - (lastBoundary text limit).offset.byteIdx) := by omega
  refine ⟨limit - (lastBoundary text limit).offset.byteIdx, by omega, by omega, ends, ?_, ?_⟩
  · intro earlier fewer valid
    have passed := le_lastBoundary (Nat.sub_le limit earlier) valid
    omega
  · rw [← ends]
    exact (lastBoundary text limit).isValid

/-! ## Names -/

theorem longestBeginning_cutName (name : String) :
    LongestBeginning maxIdentifierBytes name (cutName name) := by
  unfold cutName
  split
  · exact longestBeginning_lastBoundary maxIdentifierBytes name
  · rename_i short
    exact longestBeginning_self (Nat.le_of_not_lt short)

/-- A name that has been cut is the name under which the server stores it. -/
theorem cutName_eq_storedName (name : String) : cutName name = storedName name :=
  (longestBeginning_cutName name).unique (longestBeginning_takeBytes maxIdentifierBytes name)

end ExpandContract.Sql
