import ExpandContract.Ledger.Script
import Mathlib.Data.List.Chain

/-!
# Filling the places of a template

The places of a template are filled one after the other, in the text as the fillings before have
left it. A place begins with two braces, so it is found neither across lines nor in a text that
nowhere has two opening braces in a row (`Plain`). Where what is filled in is plain, a template in
pieces is therefore filled piece by piece (`foldl_fillPlaces_render`).
-/

set_option autoImplicit false

namespace ExpandContract.Ledger

open Text

/-! ## Where a pattern is found -/

section Finding

variable {pattern replacement first rest : List Char} {c : Char}

theorem replaceFrom_of_begins (begins : pattern <+: c :: rest) :
    replaceFrom pattern replacement 0 (c :: rest) =
      replacement ++ replaceFrom pattern replacement (pattern.length - 1) rest := by
  rw [replaceFrom, if_pos (List.isPrefixOf_iff_prefix.mpr begins)]

theorem replaceFrom_of_not_begins (absent : ¬pattern <+: c :: rest) :
    replaceFrom pattern replacement 0 (c :: rest) =
      c :: replaceFrom pattern replacement 0 rest := by
  rw [replaceFrom, if_neg fun begins => absent (List.isPrefixOf_iff_prefix.mp begins)]

theorem replaceFrom_skip (pattern replacement first rest : List Char) :
    replaceFrom pattern replacement first.length (first ++ rest) =
      replaceFrom pattern replacement 0 rest := by
  induction first with
  | nil => rfl
  | cons c others ih => exact ih

/-- A pattern that a text begins with is replaced. -/
theorem replaceFrom_self (solid : pattern ≠ []) :
    replaceFrom pattern replacement 0 (pattern ++ rest) =
      replacement ++ replaceFrom pattern replacement 0 rest := by
  obtain ⟨c, others, rfl⟩ := List.exists_cons_of_ne_nil solid
  rw [List.cons_append, replaceFrom_of_begins ⟨rest, rfl⟩, List.length_cons, Nat.add_sub_cancel,
    replaceFrom_skip]

/-- Where the pattern begins nowhere in a text, whatever follows it, the text is kept. -/
theorem replaceFrom_append
    (absent : ∀ later, later <:+ first → later ≠ [] → ¬pattern <+: later ++ rest) :
    replaceFrom pattern replacement 0 (first ++ rest) =
      first ++ replaceFrom pattern replacement 0 rest := by
  induction first with
  | nil => rfl
  | cons c others ih =>
      have here : ¬pattern <+: c :: (others ++ rest) :=
        absent _ List.suffix_rfl (List.cons_ne_nil _ _)
      rw [List.cons_append, replaceFrom_of_not_begins here, List.cons_append,
        ih fun later ends => absent later (ends.trans (List.suffix_cons c others))]

/-- A pattern without line breaks that begins in a line ends in it. -/
theorem prefix_line_iff (apart : '\n' ∉ pattern) :
    pattern <+: first ++ '\n' :: rest ↔ pattern <+: first := by
  constructor
  · intro begins
    rcases List.prefix_or_prefix_of_prefix begins (List.prefix_append first _) with short | long
    · exact short
    · obtain ⟨more, rfl⟩ := long
      cases more with
      | nil => simp
      | cons c more =>
          rw [List.prefix_append_right_inj, List.cons_prefix_cons] at begins
          exact absurd (begins.1 ▸ List.mem_append_right _ List.mem_cons_self) apart
  · exact fun begins => begins.trans (List.prefix_append first _)

/-- A pattern without line breaks is replaced line by line. The number counts, as in the
replacement, the characters that still belong to what has been replaced. -/
theorem replaceFrom_line (solid : pattern ≠ []) (apart : '\n' ∉ pattern) {skip : Nat}
    (within : skip ≤ first.length) :
    replaceFrom pattern replacement skip (first ++ '\n' :: rest) =
      replaceFrom pattern replacement skip first ++
        '\n' :: replaceFrom pattern replacement 0 rest := by
  induction first generalizing skip with
  | nil =>
      obtain rfl : skip = 0 := Nat.le_zero.mp within
      have here : ¬pattern <+: '\n' :: rest := fun begins =>
        solid (List.prefix_nil.mp ((prefix_line_iff apart).mp begins))
      exact replaceFrom_of_not_begins here
  | cons c others ih =>
      cases skip with
      | succ skip => exact ih (Nat.le_of_succ_le_succ within)
      | zero =>
          have alike : pattern <+: c :: (others ++ '\n' :: rest) ↔ pattern <+: c :: others := by
            rw [← List.cons_append]
            exact prefix_line_iff apart
          by_cases begins : pattern <+: c :: others
          · have short : pattern.length - 1 ≤ others.length := Nat.sub_le_of_le_add begins.length_le
            rw [List.cons_append, replaceFrom_of_begins (alike.mpr begins),
              replaceFrom_of_begins begins, ih short, List.append_assoc]
          · rw [List.cons_append, replaceFrom_of_not_begins (alike.not.mpr begins),
              replaceFrom_of_not_begins begins, ih (Nat.zero_le _), List.cons_append]

end Finding

/-! ## Places -/

/-- A place as it stands in the template. -/
def placeText (name : String) : List Char :=
  ("\x7b\x7b" ++ name ++ "\x7d\x7d").toList

/-- Nowhere in the text are two opening braces in a row. -/
def Braceless (chars : List Char) : Prop :=
  chars.IsChain fun c d => c = '\x7b' → d ≠ '\x7b'

/-- No place begins in the text, whatever follows it. -/
structure Plain (chars : List Char) : Prop where
  braceless : Braceless chars
  last : chars.getLast? ≠ some '\x7b'

/-- The name of a place has neither braces nor line breaks in it. -/
def NamesPlace (name : String) : Prop :=
  ∀ c ∈ name.toList, c ≠ '\x7b' ∧ c ≠ '\x7d' ∧ c ≠ '\n'

instance : DecidablePred NamesPlace := fun name =>
  List.decidableBAll (fun c => c ≠ '\x7b' ∧ c ≠ '\x7d' ∧ c ≠ '\n') name.toList

section Places

variable {name other : String} {chars rest : List Char} {filling : String × String}

theorem placeText_eq (name : String) :
    placeText name = '\x7b' :: '\x7b' :: (name.toList ++ ['\x7d', '\x7d']) := by
  simp [placeText]

theorem placeText_ne_nil (name : String) : placeText name ≠ [] := by
  simp [placeText_eq]

theorem NamesPlace.notMem_placeText (names : NamesPlace name) : '\n' ∉ placeText name := by
  rw [placeText_eq]
  simpa using fun member => (names _ member).2.2 rfl

theorem fillPlaces_eq (chars : List Char) (filling : String × String) :
    fillPlaces chars filling = replaceFrom (placeText filling.1) filling.2.toList 0 chars := by
  have solid : ¬(placeText filling.1).isEmpty = true := by simp [placeText_eq]
  exact if_neg solid

/-- A text without an opening brace is plain. -/
theorem plain_of_notMem (absent : '\x7b' ∉ chars) : Plain chars where
  braceless := by
    refine List.Pairwise.isChain (List.pairwise_of_forall_mem_list ?_)
    intro c member d _ same
    exact absurd (same ▸ member) absent
  last := fun last => absent (List.mem_of_getLast? last)

/-- A text behind a plain one has two braces in a row only by itself. -/
theorem Plain.append (plain : Plain chars) (braceless : Braceless rest) :
    Braceless (chars ++ rest) :=
  List.isChain_append.mpr ⟨plain.braceless, braceless,
    fun _ last _ _ same => absurd (same ▸ last) plain.last⟩

/-- One opening brace in front of a text without any begins no place. -/
theorem plain_cons (absent : '\x7b' ∉ chars) (solid : chars ≠ []) : Plain ('\x7b' :: chars) where
  braceless := List.isChain_cons.mpr
    ⟨fun _ first _ same => absent (same ▸ List.mem_of_head? first),
      (plain_of_notMem absent).braceless⟩
  last := by
    obtain ⟨c, others, rfl⟩ := List.exists_cons_of_ne_nil solid
    rw [List.getLast?_cons_cons]
    exact (plain_of_notMem absent).last

theorem Plain.suffix {later : List Char} (plain : Plain chars) (ends : later <:+ chars) :
    Plain later where
  braceless := plain.braceless.suffix ends
  last := by
    obtain ⟨front, rfl⟩ := ends
    cases later with
    | nil => simp
    | cons c others =>
        rw [← List.getLast?_append_of_ne_nil front (List.cons_ne_nil c others)]
        exact plain.last

/-- No place begins where a plain text does. -/
theorem Plain.begins_no_place (plain : Plain chars) (solid : chars ≠ []) :
    ¬placeText name <+: chars ++ rest := by
  intro begins
  obtain ⟨c, others, rfl⟩ := List.exists_cons_of_ne_nil solid
  rw [placeText_eq, List.cons_append, List.cons_prefix_cons] at begins
  obtain ⟨rfl, begins⟩ := begins
  cases others with
  | nil => exact plain.last rfl
  | cons d others =>
      rw [List.cons_append, List.cons_prefix_cons] at begins
      exact (List.isChain_cons_cons.mp plain.braceless).1 rfl begins.1.symm

/-- A plain text stays as it is. -/
theorem Plain.fill (plain : Plain chars) (name : String) (replacement rest : List Char) :
    replaceFrom (placeText name) replacement 0 (chars ++ rest) =
      chars ++ replaceFrom (placeText name) replacement 0 rest :=
  replaceFrom_append fun _ ends solid => (plain.suffix ends).begins_no_place solid

/-- Texts without some sign are the same if they begin alike up to the sign behind them. -/
theorem eq_of_prefix_of_notMem {c : Char} {first second before after : List Char}
    (absent : c ∉ first) (absentToo : c ∉ second)
    (begins : first ++ c :: before <+: second ++ c :: after) : first = second := by
  induction first generalizing second with
  | nil =>
      cases second with
      | nil => rfl
      | cons d second =>
          exact absurd (List.cons_prefix_cons.mp begins).1 (List.ne_of_not_mem_cons absentToo)
  | cons d first ih =>
      cases second with
      | nil =>
          exact absurd (List.cons_prefix_cons.mp begins).1.symm (List.ne_of_not_mem_cons absent)
      | cons e second =>
          obtain ⟨rfl, later⟩ := List.cons_prefix_cons.mp begins
          rw [ih (List.not_mem_of_not_mem_cons absent) (List.not_mem_of_not_mem_cons absentToo)
            later]

/-- A place stays as it is until it is filled itself. -/
theorem fill_other (names : NamesPlace name) (namesOther : NamesPlace other)
    (different : name ≠ other) (replacement rest : List Char) :
    replaceFrom (placeText name) replacement 0 (placeText other ++ rest) =
      placeText other ++ replaceFrom (placeText name) replacement 0 rest := by
  have here : ¬placeText name <+: placeText other ++ rest := by
    intro begins
    rw [placeText_eq, placeText_eq, List.cons_append, List.cons_append, List.cons_prefix_cons,
      List.cons_prefix_cons, List.append_assoc] at begins
    exact different (String.toList_injective (eq_of_prefix_of_notMem
      (fun member => (names _ member).2.1 rfl) (fun member => (namesOther _ member).2.1 rfl)
      begins.2.2))
  have inside : Plain ('\x7b' :: (other.toList ++ ['\x7d', '\x7d'])) :=
    plain_cons (by simpa using fun member => (namesOther _ member).1 rfl) (by simp)
  rw [placeText_eq other, List.cons_append] at here ⊢
  rw [replaceFrom_of_not_begins here, inside.fill]
  rfl

end Places

/-! ## Templates in pieces -/

/-- A piece of a template. -/
inductive Piece where
  | text (content : String)
  | place (name : String)

namespace Piece

/-- A piece as it stands in the template. -/
def shown : Piece → String
  | text content => content
  | place name => "\x7b\x7b" ++ name ++ "\x7d\x7d"

/-- The characters of a piece. -/
def chars (piece : Piece) : List Char :=
  piece.shown.toList

/-- A piece after a filling. -/
def fill (filling : String × String) : Piece → Piece
  | text content => text content
  | place name => if name = filling.1 then text filling.2 else place name

/-- A text in which no place begins, or a place. -/
def Clean : Piece → Prop
  | text content => Plain content.toList
  | place name => NamesPlace name

/-- A text without opening braces, or a place. -/
def free : Piece → Bool
  | text content => '\x7b' ∉ content.toList
  | place name => NamesPlace name

theorem clean_of_free {piece : Piece} (free : piece.free) : piece.Clean := by
  cases piece with
  | text content => exact plain_of_notMem (of_decide_eq_true free)
  | place name =>
      have names : NamesPlace name := of_decide_eq_true free
      exact names

end Piece

/-- A template that is put together of pieces. -/
def render (pieces : List Piece) : List Char :=
  pieces.flatMap Piece.chars

variable {pieces : List Piece} {filling : String × String}

theorem render_eq (pieces : List Piece) :
    render pieces = (String.join (pieces.map Piece.shown)).toList := by
  rw [String.toList_join, List.flatMap_map]
  rfl

theorem render_cons (piece : Piece) (pieces : List Piece) :
    render (piece :: pieces) = piece.chars ++ render pieces :=
  List.flatMap_cons

/-- A template in pieces is filled piece by piece. -/
theorem fillPlaces_render (names : NamesPlace filling.1)
    (clean : ∀ piece ∈ pieces, piece.Clean) :
    fillPlaces (render pieces) filling = render (pieces.map (Piece.fill filling)) := by
  rw [fillPlaces_eq]
  induction pieces with
  | nil => rfl
  | cons piece others ih =>
      obtain ⟨first, later⟩ := List.forall_mem_cons.mp clean
      rw [render_cons, List.map_cons, render_cons, ← ih later]
      cases piece with
      | text content => exact Plain.fill first ..
      | place name =>
          by_cases same : name = filling.1
          · obtain rfl := same
            rw [Piece.fill, if_pos rfl]
            exact replaceFrom_self (placeText_ne_nil _)
          · rw [Piece.fill, if_neg same]
            exact fill_other names first (Ne.symm same) ..

/-- Pieces without places begun in their texts are still so after a filling that is plain. -/
theorem Piece.Clean.fill {piece : Piece} (clean : piece.Clean) (plain : Plain filling.2.toList) :
    (piece.fill filling).Clean := by
  cases piece with
  | text content => exact clean
  | place name =>
      by_cases same : name = filling.1
      · rw [Piece.fill, if_pos same]
        exact plain
      · rw [Piece.fill, if_neg same]
        exact clean

/-- A template in pieces is filled piece by piece, with all fillings one after the other. -/
theorem foldl_fillPlaces_render {fillings : List (String × String)}
    (names : ∀ filling ∈ fillings, NamesPlace filling.1)
    (plain : ∀ filling ∈ fillings, Plain filling.2.toList)
    (clean : ∀ piece ∈ pieces, piece.Clean) :
    fillings.foldl fillPlaces (render pieces) =
      render (pieces.map fun piece =>
        fillings.foldl (fun piece filling => piece.fill filling) piece) := by
  induction fillings generalizing pieces with
  | nil => simp
  | cons filling others ih =>
      obtain ⟨name, namesLater⟩ := List.forall_mem_cons.mp names
      obtain ⟨first, later⟩ := List.forall_mem_cons.mp plain
      have cleanThen : ∀ piece ∈ pieces.map (Piece.fill filling), piece.Clean := by
        intro piece member
        obtain ⟨before, among, rfl⟩ := List.mem_map.mp member
        exact (clean before among).fill first
      rw [List.foldl_cons, fillPlaces_render name clean, ih namesLater later cleanThen,
        List.map_map]
      rfl

/-- Fillings fill a text line by line. -/
theorem foldl_fillPlaces_line {fillings : List (String × String)}
    (names : ∀ filling ∈ fillings, NamesPlace filling.1) (first rest : List Char) :
    fillings.foldl fillPlaces (first ++ '\n' :: rest) =
      fillings.foldl fillPlaces first ++ '\n' :: fillings.foldl fillPlaces rest := by
  induction fillings generalizing first rest with
  | nil => rfl
  | cons filling others ih =>
      obtain ⟨name, namesLater⟩ := List.forall_mem_cons.mp names
      rw [List.foldl_cons, fillPlaces_eq, replaceFrom_line (placeText_ne_nil _)
        name.notMem_placeText (Nat.zero_le _), ← fillPlaces_eq, ← fillPlaces_eq, ih namesLater]
      rfl

end ExpandContract.Ledger
