import ExpandContract.Proofs.Catalogue.Additions
import ExpandContract.Proofs.Lifecycle.Convergence
import ExpandContract.Proofs.Lifecycle.Starting

/-!
# Columns that share a shadow

A column that is added waits under its shadow name until the migration is completed. The check of an
operation looks for the name of the column itself among those that the tables expose. That name may
have been freed before, by an operation that renames or drops the column, but its shadow is still in
the table. So a valid migration can come to add a column twice under the same shadow, and the server
refuses the second time.

A start adds a column that its table has if and only if an operation before has made one of that
name there (`Migration.ShadowsApart`, `MigrationSession.columns_new_iff`). With a server that
accepts nothing of the kind, no other start of the migration succeeds.
-/

set_option autoImplicit false

namespace ExpandContract

open Session Procedure Sql

/-! ## The columns that operations make -/

/-- What the start of the operation does to the names of tables and columns. -/
def Operation.columnStep? : Operation → Option ColumnStep
  | .createTable op => some (.created op.name (op.columns.map (·.name)))
  | .dropTable op => some (.renamed op.name (parkedName op.name))
  | .addColumn op => some (.added op.table op.shadow)
  | _ => none

/-- The columns that the starts of the operations make in each table. -/
def columnsMadeBy (operations : List Operation) : String → List String :=
  madeColumns (operations.filterMap Operation.columnStep?)

/-- No operation adds a column under a shadow that one before has made in the table. -/
def Migration.ShadowsApart (m : Migration) : Prop :=
  ∀ earlier op later, m.operations = earlier ++ .addColumn op :: later →
    op.shadow ∉ columnsMadeBy earlier op.table

/-- Where something among the images of a list is known, so is what it is the image of. -/
theorem exists_split_of_filterMap {α β : Type} {f : α → Option β} {list : List α}
    {first rest : List β} {image : β} (same : list.filterMap f = first ++ image :: rest) :
    ∃ early entry late, list = early ++ entry :: late ∧ early.filterMap f = first ∧
      f entry = some image := by
  obtain ⟨early, others, rfl, images, follows⟩ := List.filterMap_eq_append_iff.mp same
  obtain ⟨silent, entry, late, rfl, none, isImage, _⟩ := List.filterMap_eq_cons_iff.mp follows
  refine ⟨early ++ silent, entry, late, (List.append_assoc ..).symm, ?_, isImage⟩
  rw [List.filterMap_append, images, List.filterMap_eq_nil_iff.mpr none, List.append_nil]

namespace Operation

variable {op : Operation} {operations : List Operation} {table column : String}

theorem eq_of_added (step : op.columnStep? = some (.added table column)) :
    ∃ added, op = .addColumn added ∧ table = added.table ∧ column = added.shadow := by
  cases op with
  | addColumn op =>
      cases step
      exact ⟨op, rfl, rfl, rfl⟩
  | _ => cases step

theorem not_other_of_columnSteps : .other ∉ operations.filterMap columnStep? := by
  intro member
  obtain ⟨op, _, step⟩ := List.mem_filterMap.mp member
  cases op <;> cases step

end Operation

/-! ## The starts of operations -/

section Starts

variable {ctx : PhaseContext} {schema : Schema}

/-- What is seen of a change. -/
def Sql.Change.columnView (statement : Change) : List ColumnStep :=
  statement.columnStep?.toList

/-- The change adds a column. -/
def Sql.Change.AddsColumn : Change → Prop
  | .addColumn _ _ _ _ => True
  | _ => False

theorem ColumnDefinition.dialogue_specs {columns : List ColumnDefinition} {notes : List Note}
    {specs : List ColumnSpec}
    (dialogue :
      (columns.mapM fun (c : ColumnDefinition) => c.spec ctx).Dialogue notes (.ok specs)) :
    specs.map (·.name) = columns.map (·.name) := by
  induction columns generalizing notes specs with
  | nil =>
      obtain ⟨_, same⟩ := dialogue
      cases same
      rfl
  | cons c rest ih =>
      rw [List.mapM_cons] at dialogue
      obtain ⟨_, _, spec, rfl, shaped, follows⟩ := dialogue_bind_ok.mp dialogue
      obtain ⟨_, _, others, rfl, shapedOthers, _, same⟩ := dialogue_bind_ok.mp follows
      cases same
      have named : spec.name = c.name := by
        obtain ⟨_, _, _, _, _, follows⟩ := dialogue_bind_ok.mp shaped
        obtain ⟨_, _, _, _, _, _, same⟩ := dialogue_bind_ok.mp follows
        cases same
        rfl
      rw [List.map_cons, List.map_cons, named, ih shapedOthers]

theorem CreateTable.realizes_columns (op : CreateTable) :
    (op.start ctx schema).Realizes Change.columnView
      [.created op.name (op.columns.map (·.name))] := by
  refine (Realizes.silent ColumnDefinition.asksOnly_specs).bind_of fun notes columns shaped => ?_
  rw [← ColumnDefinition.dialogue_specs shaped]
  exact .before (.change _) fun _ => .done _

/-- The start of an operation makes its columns, or puts its table aside, and does no more. -/
theorem Operation.realizes_columns (op : Operation) :
    (op.start ctx schema).Realizes Change.columnView op.columnStep?.toList := by
  cases op with
  | createTable op => exact op.realizes_columns
  | dropTable op => exact .before (.change _) fun _ => .done _
  | addColumn op =>
      have column : ∀ spec checks, spec.name = op.shadow → checks.map (·.name) = op.pendingNames →
          (Change.addColumn ctx.schema op.table spec checks).columnView =
            [.added op.table op.shadow] := by
        rintro spec checks named _
        rw [← named]
        rfl
      exact AddColumn.realizes_start column (fun _ => rfl) fun _ _ => rfl
  | _ =>
      refine Operation.realizes_nothing fun statement starts => ?_
      cases starts <;> rfl

theorem AddColumn.asksNext_columns (op : AddColumn) :
    (op.start ctx schema).AsksNext Change.columnView Change.AddsColumn
      [.added op.table op.shadow] := by
  have shaped : (op.column.shadowSpec ctx op.shadow).AsksOnly fun _ => False :=
    .bind PhaseContext.asksOnly_transformOption fun _ => .done _
  refine AsksNext.bind_of (.spares (shaped.mono fun _ => False.elim)) (.silent shaped)
    fun notes column found => .after asksOnly_pendingChecks (.silent asksOnly_pendingChecks)
      fun checks => ?_
  rw [← ColumnDefinition.dialogue_shadowSpec found]
  refine .before (.change _) fun _ => ?_
  cases op.up with
  | none => cases schema.table? op.table <;> exact .done _
  | some up =>
      refine .bind PhaseContext.asksOnly_transform fun sent => .bind (.change ?_) fun _ => ?_
      · rintro _ ⟨⟩
        exact id
      · cases schema.table? op.table <;> exact .done _

/-- An operation asks for its column before it does anything else. -/
theorem Operation.asksNext_columns (op : Operation) :
    (op.start ctx schema).AsksNext Change.columnView Change.AddsColumn op.columnStep?.toList := by
  have others (spares : ∀ statement, op.Starts ctx statement → ¬statement.AddsColumn) :
      (op.start ctx schema).AsksNext Change.columnView Change.AddsColumn op.columnStep?.toList := by
    refine .spares (op.asksOnly_start.mono ?_)
    rintro _ ⟨statement, starts, rfl⟩ _ ⟨⟩
    exact spares statement starts
  cases op with
  | addColumn op => exact op.asksNext_columns
  | _ =>
      refine others fun statement starts => ?_
      cases starts <;> exact id

theorem Operation.not_addsColumn_of_undo {op : Operation} {statement : Change}
    (undoes : statement ∈ op.undo ctx) : ¬statement.AddsColumn := by
  cases op with
  | createTable op | dropTable op | createIndex op =>
      cases List.mem_singleton.mp undoes
      exact id
  | addColumn op => rcases List.mem_pair.mp undoes with rfl | rfl <;> exact id
  | dropColumn op =>
      cases op.eq_of_mem_undo undoes
      exact id
  | renameColumn op | dropIndex op => cases undoes
  | rawSql op =>
      obtain ⟨_, rfl⟩ := op.eq_of_mem_undo undoes
      exact id

end Starts

namespace MigrationSession

variable {s : MigrationSession} {m : Migration} {snapshot : Schema} {notes : List Note}
  {outcome : Except Error (List Backfill.Progress)} {table column : String}

/-! ## The columns that a start asks for -/

/-- Every column that is asked for is new in its table, as the changes that have been accepted
by then have left the tables. Nothing is said about a server that has accepted what its tables
do not allow. -/
def AddsNew (snapshot : Schema) (notes : List Note) : Prop :=
  ∀ before schema table column checks reply after,
    notes = before ++ .asked (.change (.addColumn schema table column checks)) reply :: after →
      (Catalogue.ofSchema snapshot).Allowed (acceptedChanges before) →
        ¬(tablesAfter snapshot before).HasColumn table column.name

theorem columnPlan_eq (m : Migration) :
    m.operations.flatMap (fun op => op.columnStep?.toList) =
      m.operations.filterMap Operation.columnStep? :=
  (List.filterMap_eq_flatMap_toList ..).symm

theorem viewed_columnView (notes : List Note) :
    viewed Change.columnView notes = (acceptedChanges notes).filterMap Change.columnStep? :=
  (List.filterMap_eq_flatMap_toList ..).symm

/-- A column that is asked for is that of an operation, and the accepted changes are those of the
operations before. -/
theorem operation_of_asked (dialogue : (s.start m).Dialogue notes outcome)
    {before after : List Note} {schema table : String} {column : ColumnSpec}
    {checks : List PendingCheck} {reply : Except ServerError Answer}
    (split :
      notes = before ++ .asked (.change (.addColumn schema table column checks)) reply :: after) :
    ∃ earlier op later, m.operations = earlier ++ .addColumn op :: later ∧ table = op.table ∧
      column.name = op.shadow ∧
        earlier.filterMap Operation.columnStep? =
          (acceptedChanges before).filterMap Change.columnStep? := by
  have blind (statement : Change) (neutral : statement.Neutral) :
      statement.columnView = [] ∧ ¬statement.AddsColumn := by
    cases statement with
    | makeVersionSchema | dropVersionSchema | raw => exact ⟨rfl, id⟩
    | _ => exact neutral.elim
  obtain ⟨rest, same⟩ := asksNext_start blind (fun _ _ _ => Operation.not_addsColumn_of_undo)
    (fun op _ _ => op.realizes_columns) (fun op _ _ => op.asksNext_columns) notes outcome dialogue
    before _ reply after split trivial
  rw [columnPlan_eq, viewed_columnView, List.append_assoc] at same
  obtain ⟨earlier, op, later, operations, steps, step⟩ := exists_split_of_filterMap same.symm
  obtain ⟨added, rfl, inTable, named⟩ := Operation.eq_of_added step
  exact ⟨earlier, added, later, operations, inTable, named, steps⟩

/-- As long as the server accepts only what its tables allow, the columns whose names no table had
in the beginning are those that the operations have made. -/
theorem hasColumn_of_steps {changes : List Change} {earlier : List Operation}
    (none : ∀ name t, snapshot.table? name = some t → column ∉ t.columns.names)
    (allowed : (Catalogue.ofSchema snapshot).Allowed changes)
    (steps : earlier.filterMap Operation.columnStep? = changes.filterMap Change.columnStep?) :
    ((Catalogue.ofSchema snapshot).after changes).HasColumn table column ↔
      column ∈ columnsMadeBy earlier table := by
  have starts : .other ∉ changes.filterMap Change.columnStep? :=
    steps ▸ Operation.not_other_of_columnSteps
  rw [columnsMadeBy, steps]
  exact (Catalogue.Accounts.ofSchema none).after allowed starts table

theorem shadow_not_mem_names {t : Table} (settled : t.Settled) (op : AddColumn) :
    op.shadow ∉ t.columns.names := by
  intro member
  obtain ⟨entry, among, same⟩ := List.mem_map.mp member
  exact (settled entry among).2 ⟨op.column.name, same⟩

section Settled

variable (settled : ∀ name t, snapshot.table? name = some t → t.Settled)
include settled

/-- The table has the column that is asked for just if an operation before has made one of that name
there. -/
theorem hasColumn_of_asked (dialogue : (s.start m).Dialogue notes outcome)
    {before after : List Note} {schema table : String} {column : ColumnSpec}
    {checks : List PendingCheck} {reply : Except ServerError Answer}
    (split :
      notes = before ++ .asked (.change (.addColumn schema table column checks)) reply :: after) :
    ∃ earlier op later, m.operations = earlier ++ .addColumn op :: later ∧ table = op.table ∧
      column.name = op.shadow ∧
        ((Catalogue.ofSchema snapshot).Allowed (acceptedChanges before) →
          ((tablesAfter snapshot before).HasColumn table column.name ↔
            op.shadow ∈ columnsMadeBy earlier op.table)) := by
  obtain ⟨earlier, op, later, operations, rfl, named, steps⟩ := operation_of_asked dialogue split
  refine ⟨earlier, op, later, operations, rfl, named, fun allowed => ?_⟩
  rw [named]
  exact hasColumn_of_steps (fun name t found => shadow_not_mem_names (settled name t found) op)
    allowed steps

/-- For a start that succeeds with a server that accepts only what its tables allow, the shadows are
apart. -/
theorem shadowsApart_of_success {progress : List Backfill.Progress}
    (dialogue : (s.start m).Dialogue notes (.ok progress))
    (allowed : (Catalogue.ofSchema snapshot).Allowed (acceptedChanges notes)) : m.ShadowsApart := by
  intro earlier op later operations
  have whole := viewed_of_start (fun _ neutral => by
    rw [Change.columnView, Change.columnStep?_of_neutral neutral]; rfl)
    (fun op _ _ => op.realizes_columns) dialogue
  rw [columnPlan_eq, viewed_columnView, operations, List.filterMap_append,
    List.filterMap_cons] at whole
  obtain ⟨early, statement, late, changes, steps, step⟩ := exists_split_of_filterMap whole
  obtain ⟨schema, spec, checks, rfl, named⟩ := Change.eq_of_added step
  rw [changes, Catalogue.allowed_append] at allowed
  obtain ⟨before, ⟨_, free⟩, _⟩ := allowed
  rw [named, hasColumn_of_steps (fun name t found => shadow_not_mem_names (settled name t found) op)
    before steps.symm] at free
  exact free

/-- The snapshot exposes all columns under their own names, none of which is like that of a
shadow. Whatever server there is, and whether or not the start of a migration succeeds: each
column that it asks for is that of an operation, and its table has it by then if and only if an
operation before has made one of that name there, as long as the server has accepted only what its
tables allow. So no column is asked for twice if the shadows of the migration are apart, and with
such a server the start of no other migration succeeds. -/
theorem columns_new_iff (shown : (s.start m).Shows notes outcome) :
    (∀ before schema table column checks reply after,
      notes = before ++ .asked (.change (.addColumn schema table column checks)) reply :: after →
        ∃ earlier op later, m.operations = earlier ++ .addColumn op :: later ∧ table = op.table ∧
          column.name = op.shadow ∧
            ((Catalogue.ofSchema snapshot).Allowed (acceptedChanges before) →
              ((tablesAfter snapshot before).HasColumn table column.name ↔
                op.shadow ∈ columnsMadeBy earlier op.table))) ∧
    (m.ShadowsApart → AddsNew snapshot notes) ∧
    ((∃ progress, outcome = .ok progress) →
      (Catalogue.ofSchema snapshot).Allowed (acceptedChanges notes) → m.ShadowsApart) := by
  refine ⟨fun _ _ _ _ _ _ _ => hasColumn_of_asked settled shown.dialogue, fun apart => ?_, ?_⟩
  · intro before schema table column checks reply after split allowed has
    obtain ⟨earlier, op, later, operations, _, _, made⟩ :=
      hasColumn_of_asked settled shown.dialogue split
    exact apart earlier op later operations ((made allowed).mp has)
  · rintro ⟨progress, rfl⟩ allowed
    exact shadowsApart_of_success settled shown.dialogue allowed

end Settled

/-! ## A name that is freed and a shadow that is not -/

/-- Every column of the users is exposed under its own name. -/
theorem settled_namedUsers :
    ∀ name t, namedUsers.table? name = some t → t.Settled := by
  have all : ∀ entry ∈ namedUsers.tables.entries, entry.2.Settled := by decide
  exact fun name t found => all (name, t) (NameMap.mem_entries_iff.mpr found)

/-- A server that refuses to add columns of type `varchar`, because of a name that is taken. It
accepts any other change. -/
def refusingVarchar (m : Migration) : Request → Except ServerError Answer :=
  reporting namedUsers m fun
    | .addColumn _ _ column _ =>
        if column.dataType = "varchar" then
          .error ⟨"42701", "column \"_pgshift_new_phone\" of relation \"users\" already exists"⟩
        else .ok .none
    | _ => .ok .none

/-- A migration that adds a column, renames it and adds another one under its name. -/
def addsPhoneTwice : Migration :=
  { name := "add_phones"
    versionSchema := none
    operations := [
      .addColumn
        { table := "users"
          column := { ColumnDefinition.ofType "phone" "text" with nullable := true }
          up := none },
      .renameColumn { table := "users", source := "phone", target := "home_phone" },
      .addColumn
        { table := "users"
          column := { ColumnDefinition.ofType "phone" "varchar" with nullable := true }
          up := none }] }

/-- What is noted of a start with that server. -/
def startingNotes (m : Migration) : List Note :=
  (usual.start m).notesWith (refusingVarchar m)

/-- A column of the users is renamed and another one added under its name: the shadow is new. -/
theorem columns_new_of_swapsNames :
    swapsNames.validate namedUsers = .ok () ∧
    (usual.start swapsNames).Shows (startingNotes swapsNames) (.ok []) ∧
    (Catalogue.ofSchema namedUsers).Allowed (acceptedChanges (startingNotes swapsNames)) ∧
    swapsNames.ShadowsApart ∧ AddsNew namedUsers (startingNotes swapsNames) := by
  have shown : (usual.start swapsNames).Shows (startingNotes swapsNames) (.ok []) :=
    shows_of_outcomeWith rfl
  have allowed : (Catalogue.ofSchema namedUsers).Allowed
      (acceptedChanges (startingNotes swapsNames)) :=
    ⟨⟨by decide, by decide⟩, trivial, trivial⟩
  obtain ⟨_, new, succeeds⟩ := columns_new_iff settled_namedUsers shown
  have apart := succeeds ⟨_, rfl⟩ allowed
  exact ⟨rfl, shown, allowed, apart, new apart⟩

/-- A column that the migration itself has added is renamed and another one added under its name:
the migration is valid, but the table has the shadow by then, the server refuses to add it, and
the start fails. -/
theorem column_refused_of_addsPhoneTwice :
    addsPhoneTwice.validate namedUsers = .ok () ∧
    (∀ name t, namedUsers.table? name = some t → t.Settled) ∧
    ∃ before column after cause,
      startingNotes addsPhoneTwice =
        before ++ .asked (.change (.addColumn "public" "users" column [])) (.error cause) :: after ∧
      (Catalogue.ofSchema namedUsers).Allowed (acceptedChanges before) ∧
      column.name = "_pgshift_new_phone" ∧
      (tablesAfter namedUsers before).HasColumn "users" "_pgshift_new_phone" ∧
      (usual.start addsPhoneTwice).Shows (startingNotes addsPhoneTwice)
        (.error (.startFailed (.database (.server cause)))) := by
  refine ⟨rfl, settled_namedUsers, (startingNotes addsPhoneTwice).take 4, _, _, _, rfl, ?_, rfl, ?_,
    shows_of_outcomeWith rfl⟩
  · exact ⟨⟨by decide, by decide⟩, trivial⟩
  · decide

end MigrationSession

end ExpandContract
