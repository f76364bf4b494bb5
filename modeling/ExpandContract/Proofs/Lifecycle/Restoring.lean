import ExpandContract.Proofs.Catalogue.Columns
import ExpandContract.Proofs.Lifecycle.Closing
import ExpandContract.Proofs.Lifecycle.Preservation

/-!
# Rolling back a completion that failed

A completion may fail behind any of its changes, and the migration can then still be rolled back.
The rollback of an added column allows for that: it drops the column under both of its names. The
rollback of a renamed column does nothing, though the completion may have renamed it by then. This
module says for which migrations that add and rename columns a rollback brings the column names of
all tables back, wherever the completion has failed (`column_names_restored`): those that rename
only columns of their own, to names that their rollback drops.
-/

set_option autoImplicit false

namespace ExpandContract

open Session Procedure Sql

/-! ## Which migrations bring the names back -/

namespace Migration

variable {m : Migration} {schema : Schema}

/-- The names of columns of a table that the rollback of the migration drops. -/
def takenBack (m : Migration) (table : String) : List String :=
  m.operations.flatMap (Operation.takenBack table)

/-- Of the tables of the schema, the migration renames only columns that the table does not have
there, and only to names that its rollback drops. -/
def RenamesOwnColumns (m : Migration) (schema : Schema) : Prop :=
  ∀ op, .renameColumn op ∈ m.operations → ∀ table, schema.table? op.table = some table →
    op.source ∉ table.columns.names ∧ op.target ∈ m.takenBack op.table

theorem mem_takenBack {table column : String} :
    column ∈ m.takenBack table ↔
      ∃ op, .addColumn op ∈ m.operations ∧ op.table = table ∧
        (column = op.shadow ∨ column = op.column.name) := by
  unfold takenBack
  rw [List.mem_flatMap]
  constructor
  · rintro ⟨op, member, taken⟩
    cases op with
    | addColumn op =>
        by_cases same : op.table = table
        · rw [Operation.takenBack, if_pos same] at taken
          exact ⟨op, member, same, by simpa using taken⟩
        · rw [Operation.takenBack, if_neg same] at taken
          cases taken
    | _ => cases taken
  · rintro ⟨op, member, same, taken⟩
    exact ⟨.addColumn op, member, by simpa [Operation.takenBack, same] using taken⟩

end Migration

/-! ## What checks say about the columns -/

/-- The schema has a table of that name, with these columns among others. -/
def Schema.ShowsColumns (schema : Schema) (name : String) (own : List String) : Prop :=
  ∃ table, schema.table? name = some table ∧ own ⊆ table.columns.names

/-- The operation gives a new table another name, and gives no column of the table a name out of
these. -/
def Operation.LeavesNames (name : String) (own : List String) : Operation → Prop
  | .createTable op => op.name ≠ name
  | .addColumn op => op.table = name → op.column.name ∉ own
  | .renameColumn op => op.table = name → op.target ∉ own
  | _ => True

section Checks

variable {before after : Schema} {name : String} {own : List String}

/-- A table that is exposed in place of another one still shows columns, if it has them. -/
theorem Schema.ShowsColumns.expose {other : String} {table : Table}
    (shown : before.ShowsColumns name own) (has : other = name → own ⊆ table.columns.names) :
    (before.exposeTable other table).ShowsColumns name own := by
  by_cases same : name = other
  · subst same
    exact ⟨table, NameMap.find?_insert_self _ _ _, has rfl⟩
  · obtain ⟨held, found, lower⟩ := shown
    exact ⟨held, (NameMap.find?_insert_of_ne _ same _).trans found, lower⟩

/-- A name that a table does not have is none of those that it shows. -/
theorem Schema.ShowsColumns.free {column : String} {table : Table}
    (shown : before.ShowsColumns name own) (found : before.table? name = some table)
    (free : table.column? column = none) : column ∉ own := by
  obtain ⟨held, there, lower⟩ := shown
  cases there.symm.trans found
  intro member
  have taken := NameMap.mem_names.mp (lower member)
  rw [Table.column?] at free
  rw [free] at taken
  cases taken

/-- A check of an operation that adds or renames keeps the columns of a table, as long as it renames
none of them. -/
theorem Operation.shows_after_check {op : Operation} (additive : op.isAdditive = true)
    (renames : ∀ rename, op = .renameColumn rename → rename.table = name → rename.source ∉ own)
    (passes : op.check.Passes before () after) (shown : before.ShowsColumns name own) :
    op.LeavesNames name own ∧ after.ShowsColumns name own := by
  cases op with
  | createTable op =>
      obtain ⟨_, free, _, _, _, rfl⟩ := op.passes_check.mp passes
      have other : op.name ≠ name := by
        rintro rfl
        obtain ⟨table, found, _⟩ := shown
        rw [free] at found
        cases found
      exact ⟨other, shown.expose fun same => absurd same other⟩
  | addColumn op =>
      obtain ⟨_, _, table, found, free, _, _, _, rfl⟩ := op.passes_check.mp passes
      refine ⟨?_, shown.expose ?_⟩
      · rintro rfl
        exact shown.free found free
      · rintro rfl column member
        obtain ⟨held, there, lower⟩ := shown
        cases there.symm.trans found
        have taken := NameMap.mem_names.mp (lower member)
        rw [NameMap.mem_names, AddColumn.extend, Table.exposeColumn]
        by_cases same : column = op.column.name
        · subst same
          simp
        · rwa [NameMap.find?_insert_of_ne _ same]
  | renameColumn op =>
      obtain ⟨_, renamed⟩ := op.passes_check.mp passes
      obtain ⟨table, column, found, free, _, rfl⟩ := op.rename_eq_ok.mp renamed
      refine ⟨?_, shown.expose ?_⟩
      · rintro rfl
        exact shown.free found free
      · rintro rfl other member
        obtain ⟨held, there, lower⟩ := shown
        cases there.symm.trans found
        have taken := NameMap.mem_names.mp (lower member)
        have kept : other ≠ op.source := by
          rintro rfl
          exact renames op rfl rfl member
        rw [NameMap.mem_names]
        by_cases same : other = op.target
        · subst same
          simp
        · rwa [NameMap.find?_insert_of_ne _ same, NameMap.find?_erase_of_ne _ kept]
  | createIndex op =>
      obtain ⟨_, _, _, table, columns, found, _, rfl⟩ := op.passes_check.mp passes
      refine ⟨trivial, shown.expose ?_⟩
      rintro rfl
      obtain ⟨held, there, lower⟩ := shown
      cases there.symm.trans found
      exact lower
  | dropTable op => cases additive
  | dropColumn op => cases additive
  | dropIndex op => cases additive
  | rawSql op => cases additive

/-- Operations that pass their checks leave the names of the columns of a table alone, as long as
they rename none of them. -/
theorem leavesNames_of_checks {alone : Bool} {operations : List Operation}
    (additive : ∀ op ∈ operations, op.isAdditive = true)
    (renames : ∀ op, .renameColumn op ∈ operations → op.table = name → op.source ∉ own)
    (passes : (checkOperations alone operations).Passes before () after)
    (shown : before.ShowsColumns name own) : ∀ op ∈ operations, op.LeavesNames name own := by
  induction operations generalizing before with
  | nil => rintro _ ⟨⟩
  | cons op rest ih =>
      obtain ⟨_, between, checked, others⟩ := passes_checkOperations_cons.mp passes
      obtain ⟨now, shown⟩ := Operation.shows_after_check (additive op List.mem_cons_self)
        (fun rename same => renames rename (same ▸ List.mem_cons_self)) checked shown
      intro other member
      rcases List.mem_cons.mp member with rfl | member
      · exact now
      · exact ih (fun op member => additive op (List.mem_cons_of_mem _ member))
          (fun op member => renames op (List.mem_cons_of_mem _ member)) others shown other member

end Checks

/-! ## What the calls change -/

section Changes

variable {s : MigrationSession} {m : Migration} {name : String} {own : List String}
  {statement : Change} {notes : List Note}

/-- A start adds columns under their shadow names only. -/
theorem Operation.within_of_starts {ctx : PhaseContext} {op : Operation}
    (member : op ∈ m.operations)
    (additive : op.isAdditive = true) (starts : op.Starts ctx statement) :
    statement.Within name own (m.takenBack name) := by
  cases starts with
  | createTable => trivial
  | addColumn named =>
      intro same
      rw [named]
      exact Migration.mem_takenBack.mpr ⟨_, member, same, .inl rfl⟩
  | fillColumn => trivial
  | createIndex => trivial
  | dropTable => cases additive
  | dropColumn => cases additive
  | rawSql _ _ => cases additive

/-- A completion renames shadows into place, and renames the columns that it is asked to rename. -/
theorem Operation.within_of_contraction {ctx : PhaseContext} {op : Operation}
    (member : op ∈ m.operations) (additive : op.isAdditive = true)
    (shadows : ∀ added, op = .addColumn added → added.table = name → added.shadow ∉ own)
    (renames : ∀ rename, op = .renameColumn rename → rename.table = name →
      rename.source ∉ own ∧ rename.target ∈ m.takenBack name)
    (contracts : statement ∈ op.contraction ctx) :
    statement.Within name own (m.takenBack name) := by
  cases op with
  | createTable op => cases contracts
  | createIndex op => cases contracts
  | renameColumn op =>
      cases List.mem_singleton.mp contracts
      exact renames op rfl
  | addColumn op =>
      rcases AddColumn.eq_of_mem_contraction contracts with rfl | rfl | rfl | rfl
      · trivial
      · intro same
        exact ⟨shadows op rfl same, Migration.mem_takenBack.mpr ⟨op, member, same, .inr rfl⟩⟩
      · trivial
      · trivial
  | dropTable op => cases additive
  | dropColumn op => cases additive
  | dropIndex op => cases additive
  | rawSql op => cases additive

namespace MigrationSession

/-- The changes of a start that succeeds stay within the bounds. -/
theorem within_of_expand (additive : ∀ op ∈ m.operations, op.isAdditive = true)
    (asked : AskedOnly (s.ExpandRequest m) notes) {reply : Except ServerError Answer}
    (member : Note.asked (.change statement) reply ∈ notes) :
    statement.Within name own (m.takenBack name) := by
  have expands := asked _ reply member
  generalize same : Request.change statement = request at expands
  cases expands with
  | starts among starts =>
      cases same
      exact Operation.within_of_starts among (additive _ among) starts
  | snapshot reads => exact absurd (same ▸ reads.reads) (not_reads_change statement)
  | hook hook =>
      obtain ⟨_, _, _, _, isRaw⟩ := hook
      cases same.trans isRaw
      trivial
  | version =>
      cases same
      trivial
  | backfill fills =>
      subst same
      cases fills

/-- The changes of a completion stay within the bounds of a table, if they rename none of its
columns and give only names that the rollback drops. -/
theorem within_of_completion (additive : ∀ op ∈ m.operations, op.isAdditive = true)
    (shadows : ∀ op, .addColumn op ∈ m.operations → op.table = name → op.shadow ∉ own)
    (renames : ∀ op, .renameColumn op ∈ m.operations → op.table = name →
      op.source ∉ own ∧ op.target ∈ m.takenBack name)
    (asks : s.CompletionRequest m (.change statement)) :
    statement.Within name own (m.takenBack name) := by
  generalize same : Request.change statement = request at asks
  cases asks with
  | reads reads => exact absurd (same ▸ reads) (not_reads_change statement)
  | @prepares op prepared among prepares =>
      cases same
      cases op with
      | addColumn op =>
          obtain ⟨_, _, rfl⟩ := List.mem_map.mp prepares
          trivial
      | _ => cases prepares
  | retires =>
      cases same
      trivial
  | hook hook =>
      obtain ⟨_, _, _, _, isRaw⟩ := hook
      cases same.trans isRaw
      trivial
  | contracts among contracts =>
      cases same
      refine Operation.within_of_contraction among (additive _ among) ?_ ?_ contracts
      · rintro added rfl
        exact shadows added among
      · rintro rename rfl
        exact renames rename among
  | shows =>
      cases same
      trivial

end MigrationSession

end Changes

/-! ## Rolling back -/

namespace MigrationSession

variable {s : MigrationSession} {m : Migration} {snapshot played : Schema} {name : String}
  {c : Catalogue} {t : StoredTable} {notes first second third : List Note}

/-- A rollback that succeeds makes the changes of its plan, and behind them at most a version
schema. -/
theorem accepted_of_rollback (dialogue : s.rollback.Dialogue notes (.ok ()))
    (told : ∀ active, s.ledger.Tells s.schema active notes → active = m) :
    ∃ restored, acceptedChanges notes = s.undoPlan m ++ restored ∧
      ∀ statement ∈ restored, ∃ version, statement = .makeVersionSchema version := by
  rcases undoes_of_dialogue dialogue with ⟨_, _, impossible⟩ | ⟨active, undoes⟩
  · cases impossible
  · cases told active undoes.tells
    rcases undoes.accepts with part | whole
    · refine ⟨[], ?_, by rintro _ ⟨⟩⟩
      rw [List.append_nil]
      exact part.eq_of_length_le (undoes.whole rfl).length_le
    · exact whole

/-- A rollback that succeeds takes from a table the names of the added columns, and nothing else. -/
theorem names_after_rollback (additive : ∀ op ∈ m.operations, op.isAdditive = true)
    (other : ∀ op, .createTable op ∈ m.operations → op.name ≠ name)
    (dialogue : s.rollback.Dialogue notes (.ok ()))
    (told : ∀ active, s.ledger.Tells s.schema active notes → active = m)
    (found : c.tables.find? name = some t) :
    ∃ held, (c.after (acceptedChanges notes)).tables.find? name = some held ∧
      ∀ column, column ∈ held.columns.names ↔
        column ∈ t.columns.names ∧ column ∉ m.takenBack name := by
  obtain ⟨restored, accepted, versions⟩ := accepted_of_rollback dialogue told
  obtain ⟨held, there, names⟩ := names_after_undo (s.phaseContext m) additive other found
  refine ⟨held, ?_, names⟩
  have still : ∀ d : Catalogue, d.after restored = d := by
    intro d
    refine Catalogue.after_induction (· = d) rfl fun e statement member same => ?_
    obtain ⟨version, rfl⟩ := versions statement member
    exact same
  rw [accepted, Catalogue.after_append, still, undoPlan, Catalogue.after_append]
  split
  · exact there
  · exact there

/-- A start that succeeds, a completion that fails and a rollback that succeeds. The servers reply
what they like, as long as the completion and the rollback are told this migration. -/
structure Retreats (s : MigrationSession) (m : Migration) (snapshot : Schema)
    (first second third : List Note) : Prop where
  started : ∃ progress, (s.startWith m snapshot).Shows first (.ok progress)
  failed : ∃ error, s.complete.Shows second (.error error)
  rolledBack : s.rollback.Shows third (.ok ())
  told : ∀ active, s.ledger.Tells s.schema active (second ++ third) → active = m

/-- Every table of the schema has the columns it had, by their names. -/
def RestoresColumns (snapshot : Schema) (notes : List Note) : Prop :=
  ∀ name table, snapshot.table? name = some table →
    ((Catalogue.ofSchema snapshot).after (acceptedChanges notes)).columnNames? name =
      some table.columns.names

/-- The bounds of a table hold until the rollback. -/
theorem hasColumns_of_retreats {table : Table} (found : snapshot.table? name = some table)
    (additive : ∀ op ∈ m.operations, op.isAdditive = true) (leaves : m.LeavesShadows snapshot)
    (renames : m.RenamesOwnColumns snapshot) (retreats : s.Retreats m snapshot first second third) :
    ((Catalogue.ofSchema snapshot).after (acceptedChanges (first ++ second))).HasColumns name
      table.columns.names (m.takenBack name) := by
  obtain ⟨progress, started⟩ := retreats.started
  obtain ⟨error, failed⟩ := retreats.failed
  refine Catalogue.after_induction
    (fun c => c.HasColumns name table.columns.names (m.takenBack name))
    ⟨_, Catalogue.columnNames?_ofSchema found, fun _ member => member, by simp⟩ ?_
  intro c statement accepted has
  refine has.apply ?_
  obtain ⟨answer, asked⟩ := mem_acceptedChanges.mp accepted
  rcases List.mem_append.mp asked with early | late
  · cases dialogue_startWith .nil started.dialogue with
    | succeeds asks => exact within_of_expand additive asks early
  · have asked := asked_of_complete failed.dialogue fun active tells =>
      retreats.told active (tells.mono (List.subset_append_left ..))
    refine within_of_completion additive ?_ ?_ ((asked _ _ late).resolve_right nofun)
    · rintro op member rfl
      exact leaves op member table found
    · rintro op member rfl
      exact renames op member table found

section Valid

variable (validated : m.validated snapshot = .ok played)
  (additive : ∀ op ∈ m.operations, op.isAdditive = true)
include validated additive

/-- A table of the schema is none that the migration creates. -/
theorem name_ne_of_createTable {table : Table} {op : CreateTable}
    (found : snapshot.table? name = some table) (member : .createTable op ∈ m.operations) :
    op.name ≠ name := by
  obtain ⟨_, _, passes⟩ := Migration.validated_eq_ok.mp validated
  have shown : snapshot.ShowsColumns name [] := ⟨table, found, List.nil_subset _⟩
  exact leavesNames_of_checks additive (by simp) passes shown _ member

/-- What is left of the columns of a table is what the start and the completion have left, without
the names of the added columns. -/
theorem names_after_retreat {table : Table} (found : snapshot.table? name = some table)
    (retreats : s.Retreats m snapshot first second third)
    (there : ((Catalogue.ofSchema snapshot).after
      (acceptedChanges (first ++ second))).tables.find? name = some t) :
    ∃ held, ((Catalogue.ofSchema snapshot).after
      (acceptedChanges (first ++ second ++ third))).tables.find? name = some held ∧
        ∀ column, column ∈ held.columns.names ↔
          column ∈ t.columns.names ∧ column ∉ m.takenBack name := by
  rw [acceptedChanges_append, Catalogue.after_append]
  refine names_after_rollback additive ?_ retreats.rolledBack.dialogue ?_ there
  · exact fun op member => name_ne_of_createTable validated additive found member
  · exact fun active tells => retreats.told active (tells.mono (List.subset_append_right ..))

theorem restores_of_renamesOwnColumns (leaves : m.LeavesShadows snapshot)
    (renames : m.RenamesOwnColumns snapshot) (retreats : s.Retreats m snapshot first second third) :
    RestoresColumns snapshot (first ++ second ++ third) := by
  intro name table found
  obtain ⟨_, _, passes⟩ := Migration.validated_eq_ok.mp validated
  obtain ⟨names, known, lower, upper⟩ :=
    hasColumns_of_retreats found additive leaves renames retreats
  obtain ⟨t, there, rfl⟩ := Option.map_eq_some_iff.mp known
  obtain ⟨held, ended, after⟩ := names_after_retreat validated additive found retreats there
  have untaken : ∀ column ∈ table.columns.names, column ∉ m.takenBack name := by
    intro column own taken
    obtain ⟨op, member, same, rfl | rfl⟩ := Migration.mem_takenBack.mp taken
    · exact leaves op member table (same ▸ found) own
    · refine leavesNames_of_checks additive ?_ passes ⟨table, found, fun _ member => member⟩ _
        member same own
      rintro rename among rfl
      exact (renames rename among table found).1
  rw [Catalogue.columnNames?, ended]
  refine congrArg some (NameMap.names_eq_of_mem_iff fun column => ?_)
  rw [after]
  constructor
  · rintro ⟨held, kept⟩
    exact (List.mem_append.mp (upper held)).resolve_right kept
  · exact fun own => ⟨lower own, untaken column own⟩

/-- Where a migration renames other columns as well, one of them loses a name that its table had, or
gets a name that the table did not have and that no rollback drops. -/
theorem exists_lasting_rename (renames : ¬m.RenamesOwnColumns snapshot) :
    ∃ op, .renameColumn op ∈ m.operations ∧ ∃ table, snapshot.table? op.table = some table ∧
      (op.source ∈ table.columns.names ∨
        op.target ∉ table.columns.names ∧ op.target ∉ m.takenBack op.table) := by
  obtain ⟨_, _, passes⟩ := Migration.validated_eq_ok.mp validated
  by_cases lost : ∃ op, .renameColumn op ∈ m.operations ∧
      ∃ table, snapshot.table? op.table = some table ∧ op.source ∈ table.columns.names
  · obtain ⟨op, member, table, found, own⟩ := lost
    exact ⟨op, member, table, found, .inl own⟩
  · have kept : ∀ op, .renameColumn op ∈ m.operations → ∀ table,
        snapshot.table? op.table = some table → op.source ∉ table.columns.names :=
      fun op member table found own => lost ⟨op, member, table, found, own⟩
    obtain ⟨op, member, table, found, taken⟩ : ∃ op, .renameColumn op ∈ m.operations ∧
        ∃ table, snapshot.table? op.table = some table ∧ op.target ∉ m.takenBack op.table := by
      by_contra none
      refine renames fun op member table found => ⟨kept op member table found, ?_⟩
      by_contra taken
      exact none ⟨op, member, table, found, taken⟩
    refine ⟨op, member, table, found, .inr ⟨?_, taken⟩⟩
    refine leavesNames_of_checks additive ?_ passes ⟨table, found, fun _ member => member⟩
      _ member rfl
    intro rename among same
    exact kept rename among table (same ▸ found)

/-- A rollback that follows a failed completion brings the column names of all tables back, if the
migration renames only columns of its own, to names that its rollback drops. Otherwise it renames
some column for good: once the column has its new name, the names of its table do not come back. -/
theorem column_names_restored (leaves : m.LeavesShadows snapshot) :
    (m.RenamesOwnColumns snapshot → ∀ first second third,
      s.Retreats m snapshot first second third →
        RestoresColumns snapshot (first ++ second ++ third)) ∧
    (¬m.RenamesOwnColumns snapshot → ∃ op, .renameColumn op ∈ m.operations ∧
      (∃ table, snapshot.table? op.table = some table) ∧
        ∀ first second third names, s.Retreats m snapshot first second third →
          ((Catalogue.ofSchema snapshot).after (acceptedChanges (first ++ second))).columnNames?
            op.table = some names → op.target ∈ names → op.source ∉ names →
              ¬RestoresColumns snapshot (first ++ second ++ third)) := by
  constructor
  · exact fun renames first second third retreats =>
      restores_of_renamesOwnColumns validated additive leaves renames retreats
  · intro renames
    obtain ⟨op, member, table, found, lasts⟩ := exists_lasting_rename validated additive renames
    refine ⟨op, member, ⟨table, found⟩, ?_⟩
    intro first second third names retreats known renamed gone restores
    obtain ⟨t, there, rfl⟩ := Option.map_eq_some_iff.mp known
    obtain ⟨held, ended, after⟩ := names_after_retreat validated additive found retreats there
    have same : held.columns.names = table.columns.names := by
      have restored := restores op.table table found
      rw [Catalogue.columnNames?, ended] at restored
      exact Option.some.inj restored
    rcases lasts with own | ⟨foreign, untaken⟩
    · exact gone ((after op.source).mp (same ▸ own)).1
    · exact foreign (same ▸ (after op.target).mpr ⟨renamed, untaken⟩)

end Valid

/-! ## A table of users -/

/-- A server that accepts all changes to the table of users, but cancels the record of the
completion. -/
def unrecorded (m : Migration) : Request → Except ServerError Answer :=
  interrupting (reporting .withUsers m fun _ => .ok .none)

/-- What is noted of the three calls with this server. -/
def unrecordedNotes (m : Migration) : List Note × List Note × List Note :=
  ((usual.startWith m .withUsers).notesWith (unrecorded m),
    usual.complete.notesWith (unrecorded m), usual.rollback.notesWith (unrecorded m))

theorem eq_of_tells_unrecorded {active : Migration} (tells : usual.ledger.Tells usual.schema active
    ((unrecordedNotes m).2.1 ++ (unrecordedNotes m).2.2)) : active = m := by
  obtain ⟨answer, row, rest, rows, read, asked⟩ := tells
  rcases List.mem_append.mp asked with early | late
  · exact Ledger.eq_of_told_answering rfl ⟨answer, row, rest, rows, read, early⟩
  · exact Ledger.eq_of_told_answering rfl ⟨answer, row, rest, rows, read, late⟩

theorem retreats_addsEmail :
    usual.Retreats addsEmail .withUsers (unrecordedNotes addsEmail).1
      (unrecordedNotes addsEmail).2.1 (unrecordedNotes addsEmail).2.2 where
  started := ⟨_, shows_of_outcomeWith rfl⟩
  failed := ⟨_, shows_of_outcomeWith rfl⟩
  rolledBack := shows_of_outcomeWith rfl
  told _ tells := eq_of_tells_unrecorded tells

/-- A column that is added is gone again when a completion that was not recorded is rolled back. -/
theorem restored_of_addsEmail :
    (∃ played, addsEmail.validated .withUsers = .ok played) ∧
      (∀ op ∈ addsEmail.operations, op.isAdditive = true) ∧
      addsEmail.LeavesShadows .withUsers ∧ addsEmail.RenamesOwnColumns .withUsers ∧
      RestoresColumns .withUsers
        ((unrecordedNotes addsEmail).1 ++ (unrecordedNotes addsEmail).2.1 ++
        (unrecordedNotes addsEmail).2.2) := by
  have additive : ∀ op ∈ addsEmail.operations, op.isAdditive = true := by decide
  have leaves : addsEmail.LeavesShadows .withUsers := by
    intro op member table found
    cases List.mem_singleton.mp member
    cases found
    decide
  have renames : addsEmail.RenamesOwnColumns .withUsers := by
    intro op member
    cases List.mem_singleton.mp member
  obtain ⟨played, validated⟩ : ∃ played, addsEmail.validated .withUsers = .ok played := ⟨_, rfl⟩
  exact ⟨⟨played, validated⟩, additive, leaves, renames,
    (column_names_restored (s := usual) validated additive leaves).1 renames _ _ _
      retreats_addsEmail⟩

/-- A migration that renames the key of the users. -/
def renamesId : Migration :=
  { name := "rename_id"
    versionSchema := none
    operations := [.renameColumn { table := "users", source := "id", target := "number" }] }

/-- A column that is renamed keeps its new name when a completion that was not recorded is rolled
back, though the migration is valid and only renames. -/
theorem not_restored_of_renamesId :
    (∃ played, renamesId.validated .withUsers = .ok played) ∧
      (∀ op ∈ renamesId.operations, op.isAdditive = true) ∧
      usual.Retreats renamesId .withUsers (unrecordedNotes renamesId).1
        (unrecordedNotes renamesId).2.1 (unrecordedNotes renamesId).2.2 ∧
      ¬RestoresColumns .withUsers ((unrecordedNotes renamesId).1 ++
        (unrecordedNotes renamesId).2.1 ++ (unrecordedNotes renamesId).2.2) := by
  refine ⟨⟨_, rfl⟩, by decide, ⟨⟨_, shows_of_outcomeWith rfl⟩, ⟨_, shows_of_outcomeWith rfl⟩,
    shows_of_outcomeWith rfl, fun _ tells => eq_of_tells_unrecorded tells⟩, fun restores => ?_⟩
  -- The rollback has nothing in its plan that gives the column its old name back.
  have names : some ["number"] = some ["id"] := restores "users" _ rfl
  exact absurd names (by decide)

end MigrationSession

end ExpandContract
