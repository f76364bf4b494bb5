import ExpandContract.Proofs.Lifecycle.Starting
import Mathlib.Data.List.Nodup

/-!
# The names that the phases share

The start of an operation makes things that are not to stay: triggers with their functions, checks
that are not validated yet, and a place where a dropped table waits. It has the snapshot to say what
there is at this moment. The later phases have the operation alone, and have to come to the same
names.

What an operation has of its own is said once, by `Operation.triggers`, `Operation.constraints` and
`Operation.places`. Each phase is then compared with these lists: the start makes what is in them,
`prepare` validates the constraints, the completion and the rollback remove the rest. So the phases
agree with one another (`Operation.phases_agree`), whatever snapshot the start was given, and a
migration that has been completed has nothing left (`MigrationSession.nothing_left`).
-/

set_option autoImplicit false

namespace ExpandContract

open Session Procedure Sql

/-- Something that belongs to a table by name as long as a migration is in progress: a trigger,
whose function has the same name, a constraint, or the place where the table itself waits. -/
structure Provisional where
  schema : String
  table : String
  name : String
deriving DecidableEq, Repr

/-! ## What changes do to names -/

namespace Sql.Change

/-- The trigger that the change installs. -/
def installs : Change → List Provisional
  | .createSyncTrigger t => [⟨t.schema, t.table, syncTriggerName t.table t.key⟩]
  | _ => []

/-- The trigger that the change removes. -/
def uninstalls : Change → List Provisional
  | .dropSyncTrigger schema table key => [⟨schema, table, syncTriggerName table key⟩]
  | _ => []

/-- The constraints that the change adds without validating them. -/
def constrains : Change → List Provisional
  | .addColumn schema table _ checks => checks.map fun check => ⟨schema, table, check.name⟩
  | _ => []

/-- The constraint that the change validates. -/
def validates : Change → List Provisional
  | .validateConstraint schema table constraint => [⟨schema, table, constraint⟩]
  | _ => []

/-- The constraint that the change drops, or gives another name. -/
def settles : Change → List Provisional
  | .setNotNull schema table _ constraint => [⟨schema, table, constraint⟩]
  | .renameConstraint schema table source _ => [⟨schema, table, source⟩]
  | _ => []

/-- The place that the change puts a table in. -/
def parks : Change → List Provisional
  | .renameTable schema table place false => [⟨schema, table, place⟩]
  | _ => []

/-- The schema and the name of the table that the change drops. -/
def discards : Change → List (String × String)
  | .dropTable schema table => [(schema, table)]
  | _ => []

/-- The place that the change takes a table back from, if it is there. -/
def restores : Change → List Provisional
  | .renameTable schema place table true => [⟨schema, table, place⟩]
  | _ => []

/-- A view shows nothing of the changes that are not about tables if it shows nothing
of three kinds. -/
theorem eq_nil_of_neutral {γ : Type} {view : Change → List γ} (raw : ∀ sql, view (.raw sql) = [])
    (made : ∀ version, view (.makeVersionSchema version) = [])
    (dropped : ∀ name, view (.dropVersionSchema name) = []) (statement : Change)
    (neutral : statement.Neutral) : view statement = [] := by
  cases statement with
  | raw => exact raw _
  | makeVersionSchema => exact made _
  | dropVersionSchema => exact dropped _
  | _ => exact neutral.elim

/-- The text of the change names what is seen of it. -/
structure Spelled (statement : Change) : Prop where
  /-- The function and the trigger are made under the same name, the trigger on the table and with
  this function. -/
  installs : ∀ p ∈ statement.installs, ∃ body, statement.text =
    "CREATE OR REPLACE FUNCTION " ++ qualifiedName p.schema p.name ++
      "() RETURNS TRIGGER LANGUAGE plpgsql AS $pgshift$\n" ++ body ++ "$pgshift$;\n" ++
    "DROP TRIGGER IF EXISTS " ++ quotedName p.name ++ " ON " ++
      qualifiedName p.schema p.table ++ ";\n" ++
    "CREATE TRIGGER " ++ quotedName p.name ++ " BEFORE UPDATE OR INSERT ON " ++
      qualifiedName p.schema p.table ++ "\n" ++
    "  FOR EACH ROW EXECUTE PROCEDURE " ++ qualifiedName p.schema p.name ++ "();"
  uninstalls : ∀ p ∈ statement.uninstalls, statement.text =
    "DROP TRIGGER IF EXISTS " ++ quotedName p.name ++ " ON " ++ qualifiedName p.schema p.table ++
      "; DROP FUNCTION IF EXISTS " ++ qualifiedName p.schema p.name ++ "();"
  constrains : ∀ p ∈ statement.constrains, ∃ clauses expression,
    statement.text = alterTable p.schema p.table ++ joined ", " clauses ∧
      "ADD CONSTRAINT " ++ quotedName p.name ++ " CHECK (" ++ expression ++ ") NOT VALID" ∈ clauses
  validates : ∀ p ∈ statement.validates, statement.text =
    alterTable p.schema p.table ++ "VALIDATE CONSTRAINT " ++ quotedName p.name
  settles : ∀ p ∈ statement.settles,
    (∃ column, statement.text = alterTable p.schema p.table ++ "ALTER COLUMN " ++
      quotedName column ++ " SET NOT NULL, DROP CONSTRAINT IF EXISTS " ++ quotedName p.name) ∨
    ∃ target, statement.text = alterTable p.schema p.table ++ "RENAME CONSTRAINT " ++
      quotedName p.name ++ " TO " ++ quotedName target
  parks : ∀ p ∈ statement.parks, statement.text =
    alterTable p.schema p.table ++ "RENAME TO " ++ quotedName p.name
  discards : ∀ p ∈ statement.discards, statement.text =
    "DROP TABLE IF EXISTS " ++ qualifiedName p.1 p.2
  restores : ∀ p ∈ statement.restores, statement.text =
    alterTableIfExists p.schema p.name ++ "RENAME TO " ++ quotedName p.table

/-- What stands in the text of a trigger between the head of its function and the end of it. -/
def triggerBody (t : SyncTrigger) : String :=
  "DECLARE\n" ++ "  search_path text;\n" ++ "BEGIN\n" ++
    "  SELECT current_setting INTO search_path FROM current_setting('search_path');\n" ++
    "  IF search_path " ++ (if t.fromNewVersion then "=" else "<>") ++ " " ++
      quotedText t.versionSchema ++ " THEN\n" ++
    "    NEW." ++ quotedName t.target ++ " := (SELECT " ++ t.expression ++
      " FROM (SELECT NEW.*) AS n);\n" ++
    "  END IF;\n" ++ "  RETURN NEW;\n" ++ "END;\n"

theorem spelled (statement : Change) : statement.Spelled where
  installs p member := by
    cases statement with
    | createSyncTrigger t =>
        cases List.mem_singleton.mp member
        refine ⟨triggerBody t, ?_⟩
        unfold text SyncTrigger.createText triggerBody
        simp only [String.append_assoc]
    | _ => cases member
  uninstalls p member := by
    cases statement with
    | dropSyncTrigger =>
        cases List.mem_singleton.mp member
        rfl
    | _ => cases member
  constrains p member := by
    cases statement with
    | addColumn schema table column checks =>
        obtain ⟨check, among, rfl⟩ := List.mem_map.mp member
        exact ⟨_, check.expression, rfl, List.mem_cons_of_mem _ (List.mem_map_of_mem among)⟩
    | _ => cases member
  validates p member := by
    cases statement with
    | validateConstraint =>
        cases List.mem_singleton.mp member
        rfl
    | _ => cases member
  settles p member := by
    cases statement with
    | setNotNull schema table column =>
        cases List.mem_singleton.mp member
        exact .inl ⟨column, rfl⟩
    | renameConstraint schema table source target =>
        cases List.mem_singleton.mp member
        exact .inr ⟨target, rfl⟩
    | _ => cases member
  parks p member := by
    cases statement with
    | renameTable schema table place ifExists =>
        cases ifExists with
        | false =>
            cases List.mem_singleton.mp member
            rfl
        | true => cases member
    | _ => cases member
  discards p member := by
    cases statement with
    | dropTable =>
        cases List.mem_singleton.mp member
        rfl
    | _ => cases member
  restores p member := by
    cases statement with
    | renameTable schema table place ifExists =>
        cases ifExists with
        | false => cases member
        | true =>
            cases List.mem_singleton.mp member
            rfl
    | _ => cases member

end Sql.Change

/-! ## What an operation has of its own -/

namespace Operation

/-- The trigger that the operation needs while it is in progress. -/
def triggers (schema : String) : Operation → List Provisional
  | .addColumn op =>
      if op.up.isSome then [⟨schema, op.table, syncTriggerName op.table op.shadow⟩] else []
  | .dropColumn op =>
      if op.down.isSome then [⟨schema, op.table, syncTriggerName op.table op.column⟩] else []
  | _ => []

/-- The constraints that stand in for those of a new column. -/
def constraints (schema : String) : Operation → List Provisional
  | .addColumn op => op.pendingNames.map fun name => ⟨schema, op.table, name⟩
  | _ => []

/-- The place where a dropped table waits. -/
def places (schema : String) : Operation → List Provisional
  | .dropTable op => [⟨schema, op.name, parkedName op.name⟩]
  | _ => []

/-- A table waits in one place only. -/
theorem eq_of_mem_places {schema : String} {op : Operation} {place : Provisional}
    (member : place ∈ op.places schema) : op.places schema = [place] := by
  cases op with
  | dropTable op =>
      cases List.mem_singleton.mp member
      rfl
  | _ => cases member

/-- A column has its two constraints under different names. -/
theorem nodup_constraints (schema : String) (op : Operation) : (op.constraints schema).Nodup := by
  cases op with
  | addColumn op =>
      have apart : pendingNotNullName op.column.name ≠ pendingCheckName op.column.name := by
        intro same
        exact absurd ((String.append_left_inj _).mp same) (by decide)
      refine List.Nodup.map (fun _ _ same => (Provisional.mk.inj same).2.2) ?_
      unfold AddColumn.pendingNames
      cases op.column.nullable <;> cases op.column.check.isSome <;> simp [apart]
  | _ => exact List.nodup_nil

/-! ## The start -/

section Phases

variable {ctx : PhaseContext} {accumulator : Schema}

/-- A start installs the trigger of its operation. -/
theorem realizes_installs (op : Operation) :
    (op.start ctx accumulator).Realizes Change.installs (op.triggers ctx.schema) := by
  cases op with
  | addColumn op =>
      have column : ∀ spec checks, spec.name = op.shadow → checks.map (·.name) = op.pendingNames →
          (Change.addColumn ctx.schema op.table spec checks).installs = [] :=
        fun _ _ _ _ => rfl
      have starts : (op.start ctx accumulator).Realizes Change.installs
          ([] ++ (addColumn op).triggers ctx.schema) := by
        refine AddColumn.realizes_start column (fun plain => ?_) fun computed _ => ?_
        · simp only [triggers, plain]
          rfl
        · simp only [triggers, Option.isSome_iff_ne_none.mpr computed]
          rfl
      exact starts
  | dropColumn op =>
      unfold start DropColumn.start
      cases computed : op.down with
      | none =>
          simp only [triggers, computed]
          exact .done _
      | some down =>
          simp only [triggers, computed]
          refine .after (.silent PhaseContext.asksOnly_transform) fun sent => ?_
          exact .before (.change _) fun _ => .done _
  | _ =>
      refine realizes_nothing fun statement starts => ?_
      cases starts <;> rfl

/-- A start adds the constraints of its operation. -/
theorem realizes_constrains (op : Operation) :
    (op.start ctx accumulator).Realizes Change.constrains (op.constraints ctx.schema) := by
  cases op with
  | addColumn op =>
      have column : ∀ spec checks, spec.name = op.shadow → checks.map (·.name) = op.pendingNames →
          (Change.addColumn ctx.schema op.table spec checks).constrains =
            (addColumn op).constraints ctx.schema := by
        intro spec checks _ named
        simp only [constraints, ← named, List.map_map]
        rfl
      have starts : (op.start ctx accumulator).Realizes Change.constrains
          ((addColumn op).constraints ctx.schema ++ []) :=
        AddColumn.realizes_start column (fun _ => rfl) fun _ _ => rfl
      rwa [List.append_nil] at starts
  | _ =>
      refine realizes_nothing fun statement starts => ?_
      cases starts <;> rfl

/-- A start puts the table of its operation aside. -/
theorem realizes_parks (op : Operation) :
    (op.start ctx accumulator).Realizes Change.parks (op.places ctx.schema) := by
  cases op with
  | dropTable op => exact .before (.change _) fun _ => .done _
  | _ =>
      refine realizes_nothing fun statement starts => ?_
      cases starts <;> rfl

/-- The request makes nothing provisional but what the operation has of its own. -/
def MakesOwn (schema : String) (op : Operation) (request : Request) : Prop :=
  ∀ statement, request = .change statement →
    statement.installs ⊆ op.triggers schema ∧ statement.constrains ⊆ op.constraints schema ∧
      statement.parks ⊆ op.places schema

theorem makesOwn_addColumn {op : AddColumn} {column : ColumnSpec} {checks : List PendingCheck}
    (named : checks.map (·.name) = op.pendingNames) :
    (addColumn op).MakesOwn ctx.schema
      (.change (.addColumn ctx.schema op.table column checks)) := by
  rintro _ ⟨⟩
  refine ⟨List.nil_subset _, ?_, List.nil_subset _⟩
  simp only [constraints, ← named, List.map_map]
  exact List.Subset.refl _

/-- Whatever the server says, a start asks for nothing else of the kind. -/
theorem asksOnly_makesOwn (op : Operation) :
    (op.start ctx accumulator).AsksOnly (op.MakesOwn ctx.schema) := by
  cases op with
  | addColumn op =>
      have shaped : (op.column.shadowSpec ctx op.shadow).AsksOnly
          ((addColumn op).MakesOwn ctx.schema) :=
        .bind PhaseContext.asksOnly_transformOption fun _ => .done _
      refine .bind shaped fun column => ?_
      refine .bind_of AddColumn.asksOnly_pendingChecks fun _ checks pending => ?_
      refine .bind (.change (makesOwn_addColumn (AddColumn.names_of_pendingChecks pending)))
        fun _ => ?_
      cases computed : op.up with
      | none => cases accumulator.table? op.table <;> exact .done _
      | some up =>
          refine .bind PhaseContext.asksOnly_transform fun sent => .bind (.change ?_) fun _ => ?_
          · rintro _ ⟨⟩
            refine ⟨?_, List.nil_subset _, List.nil_subset _⟩
            simp only [triggers, computed]
            exact List.Subset.refl _
          · cases accumulator.table? op.table <;> exact .done _
  | dropColumn op =>
      change (DropColumn.start op ctx accumulator).AsksOnly _
      unfold DropColumn.start
      cases computed : op.down with
      | none => exact .done _
      | some down =>
          refine .bind PhaseContext.asksOnly_transform fun sent =>
            .bind (.change ?_) fun _ => .done _
          rintro _ ⟨⟩
          refine ⟨?_, List.nil_subset _, List.nil_subset _⟩
          simp only [triggers, computed]
          exact List.Subset.refl _
  | _ =>
      refine (asksOnly_start _).mono ?_
      rintro _ ⟨statement, starts, rfl⟩ _ ⟨⟩
      cases starts <;> exact ⟨List.Subset.refl _, List.Subset.refl _, List.Subset.refl _⟩

end Phases

/-! ## The later phases -/

section Later

variable {γ : Type} {ctx : PhaseContext}

/-- The preparation validates the constraints of the operation. -/
theorem validates_preparation (op : Operation) :
    (op.preparation ctx).flatMap Change.validates = op.constraints ctx.schema := by
  cases op with
  | addColumn op =>
      simp only [preparation, AddColumn.preparation, constraints, List.flatMap_map,
        Change.validates]
      exact (List.map_eq_flatMap ..).symm
  | _ => rfl

/-- The preparation does nothing else. -/
theorem flatMap_preparation {view : Change → List γ} (op : Operation)
    (blind : ∀ schema table name, view (.validateConstraint schema table name) = []) :
    (op.preparation ctx).flatMap view = [] := by
  cases op with
  | addColumn op =>
      refine List.flatMap_eq_nil_iff.mpr fun statement member => ?_
      obtain ⟨name, _, rfl⟩ := List.mem_map.mp member
      exact blind ctx.schema op.table name
  | _ => rfl

theorem flatMap_contraction_rawSql {view : Change → List γ} (op : RawSql)
    (blind : ∀ sql, view (.raw sql) = []) : (op.contraction ctx).flatMap view = [] := by
  refine List.flatMap_eq_nil_iff.mpr fun statement member => ?_
  obtain ⟨sql, rfl⟩ := op.eq_of_mem_contraction member
  exact blind sql

/-- The completion removes the trigger of the operation. -/
theorem uninstalls_contraction (op : Operation) :
    (op.contraction ctx).flatMap Change.uninstalls = op.triggers ctx.schema := by
  cases op with
  | addColumn op =>
      simp only [contraction, AddColumn.contraction, triggers]
      cases op.up.isSome <;> cases op.column.nullable <;> cases op.column.check.isSome <;> rfl
  | dropColumn op =>
      simp only [contraction, DropColumn.contraction, triggers]
      cases op.down.isSome <;> rfl
  | rawSql op => exact flatMap_contraction_rawSql op fun _ => rfl
  | _ => rfl

/-- The completion drops or renames the constraints of the operation. -/
theorem settles_contraction (op : Operation) :
    (op.contraction ctx).flatMap Change.settles = op.constraints ctx.schema := by
  cases op with
  | addColumn op =>
      simp only [contraction, AddColumn.contraction, constraints, AddColumn.pendingNames]
      cases op.up.isSome <;> cases op.column.nullable <;> cases op.column.check.isSome <;> rfl
  | dropColumn op =>
      simp only [contraction, DropColumn.contraction, constraints]
      cases op.down.isSome <;> rfl
  | rawSql op => exact flatMap_contraction_rawSql op fun _ => rfl
  | _ => rfl

/-- The completion drops the table of the operation where it was put. -/
theorem discards_contraction (op : Operation) :
    (op.contraction ctx).flatMap Change.discards =
      (op.places ctx.schema).map fun place => (place.schema, place.name) := by
  cases op with
  | addColumn op =>
      simp only [contraction, AddColumn.contraction, places]
      cases op.up.isSome <;> cases op.column.nullable <;> cases op.column.check.isSome <;> rfl
  | dropColumn op =>
      simp only [contraction, DropColumn.contraction, places]
      cases op.down.isSome <;> rfl
  | rawSql op => exact flatMap_contraction_rawSql op fun _ => rfl
  | _ => rfl

/-- The completion validates nothing. -/
theorem validates_contraction (op : Operation) :
    (op.contraction ctx).flatMap Change.validates = [] := by
  cases op with
  | addColumn op =>
      simp only [contraction, AddColumn.contraction]
      cases op.up.isSome <;> cases op.column.nullable <;> cases op.column.check.isSome <;> rfl
  | dropColumn op =>
      simp only [contraction, DropColumn.contraction]
      cases op.down.isSome <;> rfl
  | rawSql op => exact flatMap_contraction_rawSql op fun _ => rfl
  | _ => rfl

/-- The rollback removes the trigger of the operation, even where there is none. -/
theorem uninstalls_undo (op : Operation) :
    op.triggers ctx.schema ⊆ (op.undo ctx).flatMap Change.uninstalls := by
  cases op with
  | addColumn op =>
      simp only [triggers, undo]
      cases op.up.isSome
      · exact List.nil_subset _
      · exact List.Subset.refl _
  | dropColumn op =>
      simp only [triggers, undo, DropColumn.undo]
      cases op.down.isSome <;> exact List.Subset.refl _
  | _ => exact List.nil_subset _

/-- The rollback takes the table of the operation back. -/
theorem restores_undo (op : Operation) :
    (op.undo ctx).flatMap Change.restores = op.places ctx.schema := by
  cases op with
  | dropColumn op =>
      simp only [undo, DropColumn.undo]
      cases op.down.isSome <;> rfl
  | rawSql op =>
      refine List.flatMap_eq_nil_iff.mpr fun statement member => ?_
      obtain ⟨sql, rfl⟩ := op.eq_of_mem_undo member
      rfl
  | _ => rfl

end Later

end Operation

/-! ## All phases -/

/-- The change is asked for somewhere, whether or not it is accepted, and this is seen of it. -/
def Session.IsAsked {γ : Type} (view : Change → List γ) (notes : List Note) (shown : γ) : Prop :=
  ∃ statement reply, Note.asked (.change statement) reply ∈ notes ∧ shown ∈ view statement

/-- The later phases of an operation find what its start has asked for. -/
structure PhasesAgree (op : Operation) (later : PhaseContext) (begun : List Note) : Prop where
  /-- A trigger goes at completion as well as at rollback, with its function. -/
  triggers : ∀ trigger, IsAsked Change.installs begun trigger →
    (op.complete later).Ensures Change.uninstalls (trigger ∈ ·) ∧
      (op.rollback later).Ensures Change.uninstalls (trigger ∈ ·)
  /-- A constraint is validated once, and then dropped or renamed once. -/
  constraints : ∀ constraint, IsAsked Change.constrains begun constraint →
    (op.prepare later).Ensures Change.validates (·.count constraint = 1) ∧
      (op.complete later).Ensures Change.settles (·.count constraint = 1)
  /-- The place of a table is where it is dropped, or where it is taken back from. -/
  places : ∀ place, IsAsked Change.parks begun place →
    (op.complete later).Ensures Change.discards (· = [(place.schema, place.name)]) ∧
      (op.rollback later).Ensures Change.restores (· = [place])

/-- They find nothing else, however they end. -/
structure PhasesExact (op : Operation) (later : PhaseContext) (begun : List Note) : Prop where
  triggers : (op.complete later).Realizes Change.uninstalls (viewed Change.installs begun)
  validated : (op.prepare later).Realizes Change.validates (viewed Change.constrains begun)
  settled : (op.complete later).Realizes Change.settles (viewed Change.constrains begun)
  discarded : (op.complete later).Realizes Change.discards
    ((viewed Change.parks begun).map fun place => (place.schema, place.name))
  restored : (op.rollback later).Realizes Change.restores (viewed Change.parks begun)

/-- The phases of an operation agree on names. Whatever snapshot the start sees, whatever the
server answers and however the start ends, each trigger that it asks for is removed, with its
function, from the same table and under the same names, by a completion of the operation that
succeeds and by a rollback that succeeds; each constraint that it adds is validated once, and
dropped or renamed once; and a dropped table is dropped or taken back from the place where it was
put. Where the start has succeeded, nothing else is validated, dropped or renamed. The later
phases need to know of the migration no more than the name of the schema. These are the names in
the texts that are sent. -/
theorem Operation.phases_agree (op : Operation) {ctx later : PhaseContext} {accumulator : Schema}
    {begun : List Note} {outcome : Except Error Started} (same : later.schema = ctx.schema)
    (starts : (op.start ctx accumulator).Dialogue begun outcome) :
    PhasesAgree op later begun ∧
      ((∃ started, outcome = .ok started) → PhasesExact op later begun) ∧
        ∀ statement : Change, statement.Spelled := by
  have validated : (op.prepare later).Realizes Change.validates (op.constraints ctx.schema) := by
    rw [← same, ← op.validates_preparation]
    exact .of_follows op.follows_prepare
  have uninstalled : (op.complete later).Realizes Change.uninstalls (op.triggers ctx.schema) := by
    rw [← same, ← op.uninstalls_contraction]
    exact .of_follows op.follows_complete
  have settled : (op.complete later).Realizes Change.settles (op.constraints ctx.schema) := by
    rw [← same, ← op.settles_contraction]
    exact .of_follows op.follows_complete
  have discarded : (op.complete later).Realizes Change.discards
      ((op.places ctx.schema).map fun place => (place.schema, place.name)) := by
    rw [← same, ← op.discards_contraction]
    exact .of_follows op.follows_complete
  have removed : op.triggers ctx.schema ⊆ (op.undo later).flatMap Change.uninstalls :=
    same ▸ op.uninstalls_undo
  have restored : (op.rollback later).Realizes Change.restores (op.places ctx.schema) := by
    rw [← same, ← op.restores_undo]
    exact .of_follows op.follows_rollback
  have own := op.asksOnly_makesOwn begun outcome starts
  refine ⟨⟨?_, ?_, ?_⟩, ?_, Change.spelled⟩
  · rintro trigger ⟨statement, reply, asked, shown⟩
    have ours := (own _ _ asked statement rfl).1 shown
    exact ⟨uninstalled.ensures ours,
      Procedure.Realizes.ensures (.of_follows op.follows_rollback) (removed ours)⟩
  · rintro constraint ⟨statement, reply, asked, shown⟩
    have ours := (own _ _ asked statement rfl).2.1 shown
    have once := List.count_eq_one_of_mem (op.nodup_constraints ctx.schema) ours
    exact ⟨validated.ensures once, settled.ensures once⟩
  · rintro place ⟨statement, reply, asked, shown⟩
    have only := eq_of_mem_places ((own _ _ asked statement rfl).2.2 shown)
    rw [only] at discarded restored
    exact ⟨discarded.ensures rfl, restored.ensures rfl⟩
  · rintro ⟨started, rfl⟩
    have installed := op.realizes_installs.whole begun started starts
    have constrained := op.realizes_constrains.whole begun started starts
    have parked := op.realizes_parks.whole begun started starts
    rw [← installed] at uninstalled
    rw [← constrained] at validated settled
    rw [← parked] at discarded restored
    exact ⟨uninstalled, validated, settled, discarded, restored⟩

/-- A score that is computed, never null and positive. -/
def addingScore : Operation :=
  .addColumn
    { table := "users"
      column := { ColumnDefinition.ofType "score" "int" with check := some "score > 0" }
      up := some "id" }

/-- What is noted of a phase if the server accepts everything. -/
def acceptedNotes {α : Type} (phase : Procedure α) : List Note :=
  phase.notesWith fun _ => .ok .none

theorem dialogue_acceptedNotes {α : Type} {phase : Procedure α} {outcome : Except Error α}
    (ended : (phase.outcomeWith fun _ => .ok .none) = some outcome) :
    phase.Dialogue (acceptedNotes phase) outcome :=
  (shows_of_outcomeWith ended).dialogue

/-- The phases of this operation agree, in a migration of the users that can be completed. -/
theorem phases_agree_addingScore :
    let ctx := MigrationSession.usual.phaseContext (.ofName "add_score")
    let begun := acceptedNotes (addingScore.start ctx .withUsers)
    PhasesAgree addingScore ctx begun ∧ PhasesExact addingScore ctx begun ∧
      viewed Change.installs begun =
        [⟨"public", "users", "_pgshift_trigger_users__pgshift_new_score"⟩] ∧
      viewed Change.constrains begun =
        [⟨"public", "users", "_pgshift_not_null_score"⟩,
          ⟨"public", "users", "_pgshift_check_score"⟩] ∧
      (addingScore.complete ctx).Dialogue (acceptedNotes (addingScore.complete ctx)) (.ok ()) := by
  intro ctx begun
  have started : (addingScore.start ctx .withUsers).Dialogue begun (.ok ⟨_, _⟩) :=
    dialogue_acceptedNotes rfl
  have ⟨agree, precise, _⟩ := addingScore.phases_agree (rfl : ctx.schema = ctx.schema) started
  exact ⟨agree, precise ⟨_, rfl⟩, rfl, rfl, dialogue_acceptedNotes rfl⟩

namespace MigrationSession

variable {s : MigrationSession} {m : Migration} {first second : List Note}
  {progress : List Backfill.Progress}

/-- A completion shows what its preparations show, and then what its contractions show. -/
theorem viewed_of_completed {γ : Type} {view : Change → List γ} {early late : Operation → List γ}
    (blind : ∀ statement : Change, statement.Neutral → view statement = [])
    (prepares : ∀ op : Operation, (op.preparation (s.phaseContext m)).flatMap view = early op)
    (contracts : ∀ op : Operation, (op.contraction (s.phaseContext m)).flatMap view = late op)
    (completed : s.complete.Dialogue second (.ok ()))
    (told : ∀ active, s.ledger.Tells s.schema active second → active = m) :
    viewed view second = m.operations.flatMap early ++ m.operations.flatMap late := by
  rw [(viewed_of_complete blind completed told).2 rfl, completionPlan, List.flatMap_append,
    List.flatMap_assoc, List.flatMap_assoc]
  exact congr (congrArg _ (List.flatMap_congr fun op _ => prepares op))
    (List.flatMap_congr fun op _ => contracts op)

/-- A migration that has been started and completed has nothing left of what its start made
for the time being: every trigger is removed, every constraint is validated and settled, and
every table that was put aside is dropped, in the order in which the start made them and
nothing else. -/
theorem nothing_left (started : (s.start m).Dialogue first (.ok progress))
    (completed : s.complete.Dialogue second (.ok ()))
    (told : ∀ active, s.ledger.Tells s.schema active second → active = m) :
    viewed Change.uninstalls second = viewed Change.installs first ∧
      viewed Change.validates second = viewed Change.constrains first ∧
      viewed Change.settles second = viewed Change.constrains first ∧
      viewed Change.discards second =
        (viewed Change.parks first).map fun place => (place.schema, place.name) := by
  have installed := viewed_of_start
    (Change.eq_nil_of_neutral (fun _ => rfl) (fun _ => rfl) fun _ => rfl)
    (fun op _ _ => op.realizes_installs) started
  have constrained := viewed_of_start
    (Change.eq_nil_of_neutral (fun _ => rfl) (fun _ => rfl) fun _ => rfl)
    (fun op _ _ => op.realizes_constrains) started
  have parked := viewed_of_start
    (Change.eq_nil_of_neutral (fun _ => rfl) (fun _ => rfl) fun _ => rfl)
    (fun op _ _ => op.realizes_parks) started
  refine ⟨?_, ?_, ?_, ?_⟩
  · rw [installed, viewed_of_completed
      (Change.eq_nil_of_neutral (fun _ => rfl) (fun _ => rfl) fun _ => rfl)
      (fun op => op.flatMap_preparation fun _ _ _ => rfl) (fun op => op.uninstalls_contraction)
      completed told]
    simp
  · rw [constrained, viewed_of_completed
      (Change.eq_nil_of_neutral (fun _ => rfl) (fun _ => rfl) fun _ => rfl)
      (fun op => op.validates_preparation) (fun op => op.validates_contraction) completed told]
    simp
  · rw [constrained, viewed_of_completed
      (Change.eq_nil_of_neutral (fun _ => rfl) (fun _ => rfl) fun _ => rfl)
      (fun op => op.flatMap_preparation fun _ _ _ => rfl) (fun op => op.settles_contraction)
      completed told]
    simp
  · rw [parked, viewed_of_completed
      (Change.eq_nil_of_neutral (fun _ => rfl) (fun _ => rfl) fun _ => rfl)
      (fun op => op.flatMap_preparation fun _ _ _ => rfl) (fun op => op.discards_contraction)
      completed told]
    simp [List.map_flatMap]

end MigrationSession

end ExpandContract
