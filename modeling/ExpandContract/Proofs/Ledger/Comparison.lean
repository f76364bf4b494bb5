import ExpandContract.Ledger.Entry
import Mathlib.Data.List.Infix

/-!
# Where local migrations and the history part

Local migrations are compared with the issued entries of a history name by name. The comparison
succeeds if the names of one are the beginning of the names of the other, and it then splits both
lists behind what they have in common. Otherwise it fails with the first two names that differ.
Entries that were not issued have no part in this, wherever in the history they stand
(`compare_splits_lists`).
-/

set_option autoImplicit false

namespace ExpandContract.Ledger

/-- The migrations and the entries have the same names, one by one. -/
def SameNames (migrations : List Migration) (entries : List Entry) : Prop :=
  migrations.map Migration.name = entries.map Entry.name

/-- The names of one are the beginning of the names of the other. -/
def Compatible (migrations : List Migration) (entries : List Entry) : Prop :=
  migrations.map Migration.name <+: entries.map Entry.name ∨
    entries.map Entry.name <+: migrations.map Migration.name

/-- The lists agree until one of them ends; these are what is left over of each. -/
structure AgreeUpTo (migrations : List Migration) (entries : List Entry)
    (unapplied : List Migration) (missing : List Entry) : Prop where
  common : ∃ first shared, migrations = first ++ unapplied ∧ entries = shared ++ missing ∧
    SameNames first shared
  ends : unapplied = [] ∨ missing = []

/-- The lists agree up to a place where they have entries of these different names. -/
def DifferFirstAt (migrations : List Migration) (entries : List Entry)
    (localName remoteName : String) : Prop :=
  ∃ first shared m others entry rest, migrations = first ++ m :: others ∧
    entries = shared ++ entry :: rest ∧ SameNames first shared ∧
    m.name = localName ∧ entry.name = remoteName ∧ localName ≠ remoteName

variable {migrations others : List Migration} {entries rest : List Entry} {m : Migration}
  {entry : Entry} {localName remoteName : String}

/-! ## The first difference -/

theorem mismatch?_cons_of_eq (same : m.name = entry.name) :
    mismatch? (m :: others) (entry :: rest) = mismatch? others rest := by
  rw [mismatch?, if_pos same]

theorem mismatch?_cons_of_ne (differs : m.name ≠ entry.name) :
    mismatch? (m :: others) (entry :: rest) = some (m.name, entry.name) := by
  rw [mismatch?, if_neg differs]

theorem compatible_cons_iff :
    Compatible (m :: others) (entry :: rest) ↔ m.name = entry.name ∧ Compatible others rest := by
  unfold Compatible
  rw [List.map_cons, List.map_cons, List.cons_prefix_cons, List.cons_prefix_cons,
    eq_comm (a := entry.name), ← and_or_left]

/-- There is no difference if one list of names is the beginning of the other. -/
theorem mismatch?_eq_none_iff (migrations : List Migration) (entries : List Entry) :
    mismatch? migrations entries = none ↔ Compatible migrations entries := by
  induction migrations generalizing entries with
  | nil => simp [mismatch?, Compatible]
  | cons m others ih =>
      cases entries with
      | nil => simp [mismatch?, Compatible]
      | cons entry rest =>
          rw [compatible_cons_iff]
          by_cases same : m.name = entry.name
          · rw [mismatch?_cons_of_eq same, ih rest, and_iff_right same]
          · simp [mismatch?_cons_of_ne same, same]

theorem DifferFirstAt.cons (same : m.name = entry.name)
    (later : DifferFirstAt others rest localName remoteName) :
    DifferFirstAt (m :: others) (entry :: rest) localName remoteName := by
  obtain ⟨first, shared, other, behind, found, after, rfl, rfl, names, differ⟩ := later
  have extended : SameNames (m :: first) (entry :: shared) := by
    unfold SameNames at names ⊢
    rw [List.map_cons, List.map_cons, same, names]
  exact ⟨m :: first, entry :: shared, other, behind, found, after, rfl, rfl, extended, differ⟩

/-- A difference that is found is the first one. -/
theorem differFirstAt_of_mismatch? (migrations : List Migration) (entries : List Entry)
    (found : mismatch? migrations entries = some (localName, remoteName)) :
    DifferFirstAt migrations entries localName remoteName := by
  induction migrations generalizing entries with
  | nil => cases found
  | cons m others ih =>
      cases entries with
      | nil => cases found
      | cons entry rest =>
          by_cases same : m.name = entry.name
          · rw [mismatch?_cons_of_eq same] at found
            exact (ih rest found).cons same
          · rw [mismatch?_cons_of_ne same] at found
            cases found
            exact ⟨[], [], m, others, entry, rest, rfl, rfl, rfl, rfl, rfl, same⟩

/-! ## What is left over -/

theorem sameNames_take (compatible : Compatible migrations entries) :
    SameNames (migrations.take (min migrations.length entries.length))
      (entries.take (min migrations.length entries.length)) := by
  unfold SameNames
  rw [List.map_take, List.map_take]
  rcases compatible with shorter | shorter
  · have fewer : migrations.length ≤ entries.length := by simpa using shorter.length_le
    have whole := List.prefix_iff_eq_take.mp shorter
    rw [List.length_map] at whole
    rw [Nat.min_eq_left fewer, ← whole, List.take_of_length_le (List.length_map _).le]
  · have fewer : entries.length ≤ migrations.length := by simpa using shorter.length_le
    have whole := List.prefix_iff_eq_take.mp shorter
    rw [List.length_map] at whole
    rw [Nat.min_eq_right fewer, ← whole, List.take_of_length_le (List.length_map _).le]

/-- Compatible lists agree up to where the shorter one ends. -/
theorem agreeUpTo_drop (compatible : Compatible migrations entries) :
    AgreeUpTo migrations entries (migrations.drop (min migrations.length entries.length))
      (entries.drop (min migrations.length entries.length)) where
  common := ⟨_, _, (List.take_append_drop _ _).symm, (List.take_append_drop _ _).symm,
    sameNames_take compatible⟩
  ends := by
    rcases Nat.le_total migrations.length entries.length with fewer | fewer
    · exact .inl (List.drop_of_length_le (by omega))
    · exact .inr (List.drop_of_length_le (by omega))

/-! ## Entries without a local counterpart -/

/-- The longer history is the other one with entries inserted that were not issued. -/
inductive Interspersed : List Entry → List Entry → Prop where
  | nil : Interspersed [] []
  | keep {history longer : List Entry} (entry : Entry) (rest : Interspersed history longer) :
      Interspersed (entry :: history) (entry :: longer)
  | insert {history longer : List Entry} {entry : Entry} (foreign : entry.kind ≠ .issued)
      (rest : Interspersed history longer) : Interspersed history (entry :: longer)

theorem issuedEntries_of_interspersed {history longer : List Entry}
    (interspersed : Interspersed history longer) :
    issuedEntries longer = issuedEntries history := by
  unfold issuedEntries
  induction interspersed with
  | nil => rfl
  | keep entry _ ih => rw [List.filter_cons, List.filter_cons, ih]
  | insert foreign _ ih => rw [List.filter_cons_of_neg (by simpa using foreign), ih]

/-! ## The comparison -/

theorem compare_of_mismatch? {localMigrations : List Migration} {history : List Entry}
    (found : mismatch? localMigrations (issuedEntries history) = some (localName, remoteName)) :
    compare localMigrations history = .error (.mismatchedMigration localName remoteName) := by
  unfold compare
  dsimp only
  rw [found]

theorem compare_of_compatible {localMigrations : List Migration} {history : List Entry}
    (compatible : Compatible localMigrations (issuedEntries history)) :
    compare localMigrations history = .ok
      (localMigrations.drop (min localMigrations.length (issuedEntries history).length),
        (issuedEntries history).drop
          (min localMigrations.length (issuedEntries history).length)) := by
  unfold compare
  dsimp only
  rw [(mismatch?_eq_none_iff _ _).mpr compatible]

/-- A comparison succeeds just where one list of names is the beginning of the other. Both lists are
then split behind what they have in common, and one of them has nothing left over. A comparison that
fails tells the names at the first place where the lists differ. Where entries that were not issued
are inserted in the history, nothing changes. -/
theorem compare_splits_lists (localMigrations : List Migration) (history : List Entry) :
    ((∃ result, compare localMigrations history = .ok result) ↔
      Compatible localMigrations (issuedEntries history)) ∧
    (match compare localMigrations history with
      | .ok (unapplied, missing) =>
          AgreeUpTo localMigrations (issuedEntries history) unapplied missing
      | .error error => ∃ localName remoteName, error = .mismatchedMigration localName remoteName ∧
          DifferFirstAt localMigrations (issuedEntries history) localName remoteName) ∧
    ∀ longer, Interspersed history longer →
      compare localMigrations longer = compare localMigrations history := by
  have unchanged (longer : List Entry) (interspersed : Interspersed history longer) :
      compare localMigrations longer = compare localMigrations history := by
    unfold compare
    rw [issuedEntries_of_interspersed interspersed]
  cases found : mismatch? localMigrations (issuedEntries history) with
  | none =>
      have compatible := (mismatch?_eq_none_iff _ _).mp found
      refine ⟨⟨fun _ => compatible, fun _ => ⟨_, compare_of_compatible compatible⟩⟩, ?_, unchanged⟩
      rw [compare_of_compatible compatible]
      exact agreeUpTo_drop compatible
  | some names =>
      have incompatible : ¬Compatible localMigrations (issuedEntries history) := by
        rw [← mismatch?_eq_none_iff, found]
        exact Option.some_ne_none _
      have failed := compare_of_mismatch? found
      refine ⟨⟨?_, fun compatible => absurd compatible incompatible⟩, ?_, unchanged⟩
      · rintro ⟨result, succeeded⟩
        cases failed.symm.trans succeeded
      · rw [failed]
        exact ⟨_, _, rfl, differFirstAt_of_mismatch? _ _ found⟩

/-- An entry of this name and kind. -/
def entryNamed (name : String) (kind : EntryKind) : Entry :=
  { schema := "public", name, migration := .ofName name, parent := none, done := true, kind
    createdAt := 0, updatedAt := 0 }

/-- The second of two migrations was applied, and something else was changed between them. -/
theorem compare_splits_numbered :
    Interspersed [entryNamed "01" .issued, entryNamed "02" .issued]
      [entryNamed "01" .issued, entryNamed "sql_0123456789ab" .inferred,
        entryNamed "02" .issued] ∧
    (∃ result, compare [.ofName "01"] [entryNamed "01" .issued, entryNamed "02" .issued] =
      .ok result) ∧
    compare [.ofName "01"] [entryNamed "01" .issued, entryNamed "sql_0123456789ab" .inferred,
      entryNamed "02" .issued] =
      compare [.ofName "01"] [entryNamed "01" .issued, entryNamed "02" .issued] := by
  have between : Interspersed [entryNamed "01" .issued, entryNamed "02" .issued]
      [entryNamed "01" .issued, entryNamed "sql_0123456789ab" .inferred,
        entryNamed "02" .issued] :=
    .keep _ (.insert nofun (.keep _ .nil))
  obtain ⟨succeeds, _, unchanged⟩ :=
    compare_splits_lists [.ofName "01"] [entryNamed "01" .issued, entryNamed "02" .issued]
  exact ⟨between, succeeds.mpr (.inl (by decide)), unchanged _ between⟩

end ExpandContract.Ledger
