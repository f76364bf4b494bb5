import ExpandContract.Proofs.Lifecycle.Versions

/-!
# Versions that share a name

A version schema is named by the schema and a label, the name of the migration or a text that the
migration gives instead, with an underscore in between. A validation looks at this name alone, and
at nothing that is recorded. So two accepted migrations may share a version schema, and then one of
them takes away what the other one serves.

`versionSchemaName_eq_iff` says which names are shared: those of the same schema and label, and
those where one label holds what the other schema is longer by (`app` with `eu_01`, `app_eu` with
`01`). Just in these cases a start makes its version schema in the place of another one, and just
where the labels are the same a completion drops the version schema of its own migration
(`rivals_spared_iff`, `dropped_by_own_completion`).
-/

set_option autoImplicit false

namespace ExpandContract

open Session Procedure Sql

/-! ## Names that are the same -/

/-- Schemas and labels that give the same text when they are joined by an underscore. -/
def JoinAlike (schema label other otherLabel : String) : Prop :=
  (schema = other ∧ label = otherLabel) ∨
    (∃ between, other = schema ++ "_" ++ between ∧ label = between ++ "_" ++ otherLabel) ∨
    ∃ between, schema = other ++ "_" ++ between ∧ otherLabel = between ++ "_" ++ label

/-- Where one schema begins with the other one, the schemas are the same, or the label of the
shorter one holds what it lacks. -/
theorem joinAlike_of_longer {schema label other otherLabel : String} {longer : List Char}
    (split : other.toList = schema.toList ++ longer)
    (rest : '_' :: label.toList = longer ++ '_' :: otherLabel.toList) :
    (schema = other ∧ label = otherLabel) ∨
      ∃ between, other = schema ++ "_" ++ between ∧ label = between ++ "_" ++ otherLabel := by
  cases longer with
  | nil =>
      rw [List.append_nil] at split
      exact .inl ⟨(String.toList_inj.mp split).symm, String.toList_inj.mp (List.cons.inj rest).2⟩
  | cons c between =>
      obtain ⟨rfl, later⟩ := List.cons.inj rest
      refine .inr ⟨.ofList between, ?_, ?_⟩
      · rw [← String.toList_inj, split]
        simp
      · rw [← String.toList_inj, later]
        simp

/-- Names of version schemas are the same just if schemas and labels join alike. -/
theorem versionSchemaName_eq_iff {schema label other otherLabel : String} :
    versionSchemaName schema label = versionSchemaName other otherLabel ↔
      JoinAlike schema label other otherLabel := by
  have chars (schema label : String) :
      (versionSchemaName schema label).toList = schema.toList ++ '_' :: label.toList := by
    simp [versionSchemaName]
  constructor
  · intro same
    rw [← String.toList_inj, chars, chars] at same
    rcases List.append_eq_append_iff.mp same with ⟨_, split, rest⟩ | ⟨_, split, rest⟩
    · rcases joinAlike_of_longer split rest with alike | within
      · exact .inl alike
      · exact .inr (.inl within)
    · rcases joinAlike_of_longer split rest with ⟨rfl, rfl⟩ | within
      · exact .inl ⟨rfl, rfl⟩
      · exact .inr (.inr within)
  · rintro (⟨rfl, rfl⟩ | ⟨between, rfl, rfl⟩ | ⟨between, rfl, rfl⟩)
    · rfl
    · simp [versionSchemaName, String.append_assoc]
    · simp [versionSchemaName, String.append_assoc]

/-- Within one schema only the same labels give the same name. -/
theorem joinAlike_same_schema {schema label otherLabel : String} :
    JoinAlike schema label schema otherLabel ↔ label = otherLabel := by
  rw [← versionSchemaName_eq_iff]
  constructor
  · intro same
    exact String.append_right_inj _ |>.mp same
  · rintro rfl
    rfl

/-- Two schemas, one of which begins with the other one, can share a name. -/
example : JoinAlike "app" "eu_01" "app_eu" "01" :=
  .inr (.inl ⟨"eu", by decide⟩)

/-! ## Names of migrations -/

/-- What tells the version schema of a migration from those of the same schema. -/
def Migration.label (m : Migration) : String :=
  m.versionSchema.getD m.name

/-- The server stores the name of an accepted migration's version schema as it is. -/
theorem Migration.storedName_of_validate {m : Migration} {snapshot : Schema}
    (valid : m.validate snapshot = .ok ()) :
    storedName (m.versionSchemaName snapshot.name) = m.versionSchemaName snapshot.name := by
  refine storedName_eq_self ?_
  cases validated : m.validated snapshot with
  | error cause =>
      rw [validate, validated] at valid
      cases valid
  | ok played => exact (validated_eq_ok.mp validated).2.1

namespace Ledger

/-- The name under which the server stores the version schema of a recorded migration. -/
def Entry.versionName (e : Entry) : String :=
  storedName (e.migration.versionSchemaName e.schema)

/-- The migration of an entry was accepted for the schema of the entry. -/
def Entry.Accepted (e : Entry) : Prop :=
  ∃ snapshot : Schema, snapshot.name = e.schema ∧ e.migration.validate snapshot = .ok ()

/-- The last version of a schema in a history. -/
def lastVersion? (schema : String) (history : List Entry) : Option Entry :=
  (history.filter fun e => e.schema == schema && e.kind == .issued).getLast?

theorem lastVersion?_eq_some {schema : String} {history : List Entry} {e : Entry}
    (isLast : lastVersion? schema history = some e) :
    e ∈ history ∧ e.schema = schema ∧ e.kind = .issued := by
  have member := List.mem_filter.mp (List.mem_of_getLast? isLast)
  simpa using member

/-- The versions that are served while a migration of a schema is in progress: the last one of this
schema, and those of other schemas. -/
inductive Rival (schema : String) (history : List Entry) : Entry → Prop where
  | previous {e : Entry} (isLast : lastVersion? schema history = some e) : Rival schema history e
  | elsewhere {e : Entry} (recorded : e ∈ history) (issued : e.kind = .issued)
      (other : e.schema ≠ schema) : Rival schema history e

/-- A rival is recorded, as a migration of this library. -/
theorem Rival.recorded {schema : String} {history : List Entry} {e : Entry}
    (rival : Rival schema history e) : e ∈ history ∧ e.kind = .issued := by
  cases rival with
  | previous isLast =>
      obtain ⟨recorded, _, issued⟩ := lastVersion?_eq_some isLast
      exact ⟨recorded, issued⟩
  | elsewhere recorded issued _ => exact ⟨recorded, issued⟩

end Ledger

namespace MigrationSession

open Ledger (Entry Rival lastVersion?)

variable {s : MigrationSession} {m : Migration} {snapshot : Schema} {history : List Entry}

/-- Of two accepted migrations, the stored names are the same just if schemas and labels join
alike. -/
theorem versionName_eq_iff {e : Entry} (here : s.schema = snapshot.name)
    (valid : m.validate snapshot = .ok ()) (accepted : e.Accepted) :
    e.versionName = s.versionName m ↔
      JoinAlike e.schema e.migration.label s.schema m.label := by
  obtain ⟨seen, named, validThen⟩ := accepted
  have own : s.versionName m = versionSchemaName s.schema m.label := by
    rw [versionName, here]
    exact Migration.storedName_of_validate valid
  have others : e.versionName = versionSchemaName e.schema e.migration.label := by
    rw [Entry.versionName, ← named]
    exact Migration.storedName_of_validate validThen
  rw [own, others, versionSchemaName_eq_iff]

/-- In a history of accepted migrations, a version that is served while an accepted migration is in
progress has the same version schema as this migration if and only if schemas and labels join alike.

In just this case a version schema that a start touches while it expands the schema, whatever
becomes of it, is one that is served; a start that succeeds does touch it, where the session keeps a
version schema for the migration. And the version schema that a completion drops is that of the
migration itself if and only if the version before has the same label. -/
theorem rivals_spared_iff (here : s.schema = snapshot.name) (valid : m.validate snapshot = .ok ())
    (accepted : ∀ e ∈ history, e.kind = .issued → e.Accepted) :
    (∀ e, Rival s.schema history e →
      (e.versionName = s.versionName m ↔ JoinAlike e.schema e.migration.label s.schema m.label)) ∧
    (∀ before notes result, (s.expand m before).Shows notes result →
      ∀ step ∈ versionSteps notes, ∀ e, Rival s.schema history e →
        (step.name = e.versionName ↔
          JoinAlike e.schema e.migration.label s.schema m.label)) ∧
    (∀ notes progress, (s.start m).Shows notes (.ok progress) → ∀ e, Rival s.schema history e →
      ((∃ step ∈ versionSteps notes, step.name = e.versionName) ↔
        s.config.keepsVersionSchema m = true ∧
          JoinAlike e.schema e.migration.label s.schema m.label)) ∧
    ∀ notes e, s.complete.Shows notes (.ok ()) → lastVersion? s.schema history = some e →
      (∀ name other, s.ledger.Told (.migrationNamed s.schema name) other notes →
        other = e.migration) →
      ∀ name, .dropped name ∈ versionSteps notes →
        (name = s.versionName m ↔ e.migration.label = m.label) := by
  have names (e : Entry) (rival : Rival s.schema history e) : e.versionName = s.versionName m ↔
      JoinAlike e.schema e.migration.label s.schema m.label :=
    versionName_eq_iff here valid (accepted e rival.recorded.1 rival.recorded.2)
  refine ⟨names, ?_, ?_, ?_⟩
  · intro before notes result shown step taken e rival
    have among := (stepsThrough_expand.prefixed notes result shown.dialogue).subset taken
    rw [name_of_mem_startSteps among, ← names e rival, eq_comm]
  · intro notes progress shown e rival
    rw [versionSteps_of_start shown.dialogue, ← names e rival, startSteps]
    cases s.config.keepsVersionSchema m with
    | true => simp [VersionStep.name, eq_comm]
    | false => simp
  · intro notes e shown isLast told name drops
    obtain ⟨_, previous, _, steps, among⟩ := dialogue_complete shown.dialogue
    obtain ⟨other, isPrevious, rfl⟩ := (dropped_mem_iff steps).mp drops
    obtain ⟨_, asked, tells⟩ := among other isPrevious
    cases told asked other tells
    obtain ⟨_, same, _⟩ := Ledger.lastVersion?_eq_some isLast
    have shared := names e (.previous isLast)
    rw [Entry.versionName, same, joinAlike_same_schema] at shared
    exact shared

/-- The entry of a migration that is complete. -/
def entryOf (schema : String) (m : Migration) : Entry :=
  { schema, name := m.name, migration := m, parent := none, done := true, kind := .issued,
    createdAt := 0, updatedAt := 0 }

/-- The history of two schemas that have one version each. -/
def twoHistories : List Entry :=
  [entryOf "public" (initialVersion none), entryOf "sales" (initialVersion none)]

theorem mem_twoHistories {e : Entry} (recorded : e ∈ twoHistories) :
    e = entryOf "public" (initialVersion none) ∨ e = entryOf "sales" (initialVersion none) := by
  simpa [twoHistories] using recorded

/-- A migration with a label of its own shares its version schema with neither of two others, and
its completion drops another one. -/
theorem creation_spares_rivals :
    Migration.createsUsers.validate (.ofName "public") = .ok () ∧
    (∀ e ∈ twoHistories, e.kind = .issued → e.Accepted) ∧
    (∀ e, Rival "public" twoHistories e → e.versionName ≠ "public_create_users") ∧
    usual.complete.Shows (usual.successionEnd (initialVersion none) .createsUsers) (.ok ()) ∧
    ∀ name, .dropped name ∈
        versionSteps (usual.successionEnd (initialVersion none) .createsUsers) →
      name ≠ "public_create_users" := by
  have accepted (e : Entry) (recorded : e ∈ twoHistories) (_ : e.kind = .issued) : e.Accepted := by
    rcases mem_twoHistories recorded with rfl | rfl
    · exact ⟨.ofName "public", rfl, rfl⟩
    · exact ⟨.ofName "sales", rfl, rfl⟩
  have isLast : lastVersion? usual.schema twoHistories =
      some (entryOf "public" (initialVersion none)) := rfl
  have completed : usual.complete.Shows
      (usual.successionEnd (initialVersion none) .createsUsers) (.ok ()) :=
    shows_of_outcomeWith rfl
  have here : usual.schema = (Schema.ofName "public").name := rfl
  have valid : Migration.createsUsers.validate (.ofName "public") = .ok () := rfl
  obtain ⟨shared, _, _, retired⟩ := rivals_spared_iff here valid accepted
  refine ⟨valid, accepted, ?_, completed, ?_⟩
  · intro e rival same
    have alike := versionSchemaName_eq_iff.mpr ((shared e rival).mp same)
    rcases mem_twoHistories rival.recorded.1 with rfl | rfl
    · exact absurd alike (by decide)
    · exact absurd alike (by decide)
  · intro name drops
    have differs := retired _ _ completed isLast (fun _ _ => eq_of_told_succeeding) name drops
    exact fun same => absurd (differs.mp same) (by decide)

/-- A migration that creates a table of orders, under the label of the version before. -/
def createsOrders : Migration :=
  { name := "02_orders"
    versionSchema := some "v1"
    operations := [.createTable { name := "orders", columns := [.ofType "id" "int"],
                                  comment := none }] }

/-- Two migrations of one schema with the same label are both accepted. The start of the second one
makes its version schema in the place of the one that is served, and its completion drops it again:
no version schema is left. -/
theorem dropped_by_own_completion :
    (initialVersion (some "v1")).validate (.ofName "public") = .ok () ∧
    createsOrders.validate .withUsers = .ok () ∧
    lastVersion? "public" [entryOf "public" (initialVersion (some "v1"))] =
      some (entryOf "public" (initialVersion (some "v1"))) ∧
    (entryOf "public" (initialVersion (some "v1"))).versionName = "public_v1" ∧
    usual.versionName createsOrders = "public_v1" ∧
    (usual.start createsOrders).Shows
      (usual.successionStart (initialVersion (some "v1")) createsOrders) (.ok []) ∧
    .made "public_v1" ∈
      versionSteps (usual.successionStart (initialVersion (some "v1")) createsOrders) ∧
    usual.complete.Shows
      (usual.successionEnd (initialVersion (some "v1")) createsOrders) (.ok ()) ∧
    .dropped "public_v1" ∈
      versionSteps (usual.successionEnd (initialVersion (some "v1")) createsOrders) ∧
    ∀ name, thereAfter name (name == "public_v1")
      (versionSteps (usual.successionStart (initialVersion (some "v1")) createsOrders) ++
        versionSteps (usual.successionEnd (initialVersion (some "v1")) createsOrders)) = false := by
  have made : versionSteps (usual.successionStart (initialVersion (some "v1")) createsOrders) =
      [.made "public_v1"] := rfl
  have dropped : versionSteps (usual.successionEnd (initialVersion (some "v1")) createsOrders) =
      [.dropped "public_v1"] := rfl
  refine ⟨rfl, rfl, rfl, by decide, by decide, shows_of_outcomeWith rfl,
    made ▸ List.mem_singleton_self _, shows_of_outcomeWith rfl,
    dropped ▸ List.mem_singleton_self _, fun name => ?_⟩
  rw [made, dropped]
  by_cases same : name = "public_v1" <;> simp [VersionStep.leaves, same, Ne.symm]

end MigrationSession

end ExpandContract
