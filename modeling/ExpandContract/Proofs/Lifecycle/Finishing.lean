import ExpandContract.Proofs.Lifecycle.Completion
import ExpandContract.Proofs.Lifecycle.Unfolding

/-!
# Whether a migration can be finished

Backfills and completions change the columns of tables, and look for each table under the name that
the operation has for it. By then all operations have been started, so a table that some operation
drops is aside under another name, and the operations before the drop do not find it any more.

All requests find their tables if the tables whose columns a migration changes are still exposed in
the end (`Migration.KeepsReshaped`), and a completion that goes through has looked for a table in
vain otherwise, as long as the server would not refuse the start (`finds_tables_iff_keepsReshaped`).
-/

set_option autoImplicit false

namespace ExpandContract

open Session Procedure Sql

/-! ## Tables that requests rely on -/

/-- The table that the change relies on: the change is about this table, and does not allow for its
being missing. -/
def Sql.Change.reliesOn : Change → Option String
  | .renameTable _ table _ ifExists => if ifExists then none else some table
  | .addColumn _ table _ _ => some table
  | .dropColumns _ table _ ifExists => if ifExists then none else some table
  | .renameColumn _ table _ _ => some table
  | .validateConstraint _ table _ => some table
  | .setNotNull _ table _ _ => some table
  | .renameConstraint _ table _ _ => some table
  | .createSyncTrigger trigger => some trigger.table
  | .dropSyncTrigger _ table _ => some table
  | .createIndex _ table _ _ _ => some table
  | _ => none

/-- The table that the request relies on. -/
def Session.Request.reliesOn : Request → Option String
  | .change statement => statement.reliesOn
  | .countRows _ table => some table
  | .updateBatch batch _ _ => some batch.table
  | _ => none

/-- Every request finds the table that it relies on, under that name, where the changes that have
been accepted by then have left the tables. -/
def FindsTables (c : Catalogue) (notes : List Note) : Prop :=
  ∀ before request reply after, notes = before ++ .asked request reply :: after →
    ∀ table, request.reliesOn = some table → (c.after (acceptedChanges before)).Has table

/-- Tables are found if they are there in the beginning and none of the changes takes them away. -/
theorem findsTables_of_asked {c : Catalogue} {notes : List Note} {allowed : Request → Prop}
    (asked : AskedOnly allowed notes)
    (there : ∀ request table, allowed request → request.reliesOn = some table → c.Has table ∧
      ∀ statement, allowed (.change statement) →
        ∀ d : Catalogue, d.Has table → (d.apply statement).Has table) :
    FindsTables c notes := by
  rintro before request reply after rfl table relies
  have own : allowed request := asked request reply (by simp)
  obtain ⟨first, stays⟩ := there request table own relies
  refine Catalogue.after_induction (·.Has table) first fun d statement accepted has => ?_
  obtain ⟨answer, member⟩ := mem_acceptedChanges.mp accepted
  exact stays statement (asked _ _ (List.mem_append_left _ member)) d has

/-! ## Which tables an operation changes in the end -/

/-- Whether the change creates, drops or renames a table. -/
def Sql.Change.changesTables : Change → Bool
  | .createTable _ _ _ _ _ _ => true
  | .dropTable _ _ => true
  | .renameTable _ _ _ _ => true
  | _ => false

theorem Catalogue.has_apply_of_not_changesTables {c : Catalogue} {name : String}
    {statement : Change} (still : statement.changesTables = false) :
    (c.apply statement).Has name ↔ c.Has name := by
  have inert : ¬statement.Gives name .table ∧ ¬statement.Takes name .table ∧
      (∀ source, ¬statement.Moves source name) ∧ ∀ target, ¬statement.Moves name target := by
    cases statement <;> simp_all [Change.changesTables, Change.Gives, Change.Takes, Change.Moves]
  obtain ⟨uncreated, stays, comes, goes⟩ := inert
  exact ⟨fun has => of_has_apply has uncreated comes, fun has => has_apply has stays goes⟩

namespace Operation

variable {ctx : PhaseContext} {op : Operation} {statement : Change} {table : String}

/-- The table of which the completion of the operation changes a column. -/
def reshapes : Operation → Option String
  | .addColumn op => some op.table
  | .dropColumn op => some op.table
  | .renameColumn op => some op.table
  | _ => none

theorem about_of_reshapes (reshapes : op.reshapes = some table) : op.about = some table := by
  cases op with
  | addColumn op | dropColumn op | renameColumn op => exact reshapes
  | _ => cases reshapes

theorem reliesOn_of_preparation (member : statement ∈ op.preparation ctx) :
    statement.changesTables = false ∧ statement.reliesOn = op.reshapes := by
  cases op with
  | addColumn op =>
      obtain ⟨_, _, rfl⟩ := List.mem_map.mp member
      exact ⟨rfl, rfl⟩
  | _ => cases member

/-- A completion drops a table that is aside, or an index, or it changes a column. -/
theorem reliesOn_of_contraction (member : statement ∈ op.contraction ctx) :
    (statement.changesTables = false ∧ ∀ table, statement.reliesOn = some table →
      op.reshapes = some table) ∨
    ∃ dropped, op = .dropTable dropped ∧
      statement = .dropTable ctx.schema (parkedName dropped.name) := by
  cases op with
  | dropTable op => exact .inr ⟨op, rfl, List.mem_singleton.mp member⟩
  | addColumn op =>
      rcases AddColumn.eq_of_mem_contraction member with rfl | rfl | rfl | rfl <;>
        exact .inl ⟨rfl, fun _ => id⟩
  | dropColumn op =>
      rcases List.mem_append.mp member with trigger | last
      · cases mem_guarded trigger
        exact .inl ⟨rfl, fun _ => id⟩
      · cases List.mem_singleton.mp last
        exact .inl ⟨rfl, fun _ => id⟩
  | renameColumn op =>
      cases List.mem_singleton.mp member
      exact .inl ⟨rfl, fun _ => id⟩
  | dropIndex op =>
      cases List.mem_singleton.mp member
      exact .inl ⟨rfl, nofun⟩
  | rawSql op =>
      obtain ⟨sql, rfl⟩ := RawSql.eq_of_mem_contraction member
      exact .inl ⟨rfl, nofun⟩
  | createTable op | createIndex op => cases member

/-- The completion of an operation that changes a column relies on the table of the column. -/
theorem exists_reliesOn (ctx : PhaseContext) (reshapes : op.reshapes = some table) :
    ∃ statement ∈ op.contraction ctx, statement.reliesOn = some table := by
  cases op with
  | addColumn op =>
      exact ⟨_, List.mem_append_right _ List.mem_cons_self, reshapes⟩
  | dropColumn op =>
      exact ⟨_, List.mem_append_right _ (List.mem_singleton_self _), reshapes⟩
  | renameColumn op => exact ⟨_, List.mem_singleton_self _, reshapes⟩
  | _ => cases reshapes

end Operation

namespace Migration

/-- The migration puts a table aside under this name. -/
def Parks (m : Migration) (name : String) : Prop :=
  ∃ op, .dropTable op ∈ m.operations ∧ name = parkedName op.name

/-- The tables whose columns the migration changes are exposed in the end, and have no names under
which it puts others aside. -/
def KeepsReshaped (m : Migration) (played : Schema) : Prop :=
  ∀ op ∈ m.operations, ∀ table, op.reshapes = some table →
    played.Exposes table ∧ ¬m.Parks table

end Migration

namespace MigrationSession

variable {s : MigrationSession} {m : Migration} {snapshot played : Schema} {c : Catalogue}
  {request : Request} {statement : Change} {table name : String} {notes first second : List Note}

/-! ## What completions rely on -/

theorem reliesOn_of_reads {l : Ledger} (reads : l.Reads request) : request.reliesOn = none := by
  obtain ⟨query, _, rfl⟩ := reads
  rfl

/-- A completion relies only on tables whose columns the migration changes. -/
theorem CompletionRequest.reshapes (asks : s.CompletionRequest m request)
    (relies : request.reliesOn = some table) : ∃ op ∈ m.operations, op.reshapes = some table := by
  cases asks with
  | reads reads => cases (reliesOn_of_reads reads).symm.trans relies
  | @prepares op _ member prepares =>
      exact ⟨op, member, (Operation.reliesOn_of_preparation prepares).2.symm.trans relies⟩
  | retires => cases relies
  | hook hook =>
      obtain ⟨_, _, _, _, rfl⟩ := hook
      cases relies
  | @contracts op _ member contracts =>
      rcases Operation.reliesOn_of_contraction contracts with ⟨_, own⟩ | ⟨_, _, rfl⟩
      · exact ⟨op, member, own table relies⟩
      · cases relies
  | shows => cases relies

/-- A completion creates no table, and drops none but those that are aside. -/
theorem CompletionRequest.has_apply (asks : s.CompletionRequest m (.change statement))
    (unparked : ¬m.Parks name) : (c.apply statement).Has name ↔ c.Has name := by
  -- A completion asks for more than changes, so the change is told from its other requests first.
  generalize same : Request.change statement = request at asks
  cases asks with
  | reads reads => exact absurd (same ▸ reads) (not_reads_change statement)
  | prepares _ prepares =>
      cases same
      exact Catalogue.has_apply_of_not_changesTables (Operation.reliesOn_of_preparation prepares).1
  | retires =>
      cases same
      exact .rfl
  | hook hook =>
      obtain ⟨_, _, _, _, isRaw⟩ := hook
      cases same.trans isRaw
      exact .rfl
  | contracts member contracts =>
      cases same
      rcases Operation.reliesOn_of_contraction contracts with ⟨still, _⟩ | ⟨dropped, rfl, rfl⟩
      · exact Catalogue.has_apply_of_not_changesTables still
      · have other : name ≠ parkedName dropped.name := fun same => unparked ⟨dropped, member, same⟩
        change (∃ t, (c.remove _).tables.find? name = some t) ↔ _
        rw [Catalogue.find?_remove_of_ne other]
        exact .rfl
  | shows =>
      cases same
      exact .rfl

/-! ## Starts and completions -/

/-- The tables that are there when these notes have been taken. -/
def tablesAfter (snapshot : Schema) (notes : List Note) : Catalogue :=
  (Catalogue.ofSchema snapshot).after (acceptedChanges notes)

/-- A start has expanded the schema and comes to fill a table. The server replies what it likes, and
the table need not be filled in the end. -/
structure Fills (s : MigrationSession) (m : Migration) (snapshot : Schema) (table : Table)
    (first second : List Note) : Prop where
  expanded : ∃ tables, table ∈ tables ∧ (s.expandOrUndo m snapshot).Dialogue first (.ok tables)
  filled : ∃ outcome, (Backfill.run s.config.backfill s.schema table).Dialogue second outcome

/-- A start that succeeds, and a completion. The servers reply what they like, as long as the
completion is told this migration. -/
structure Finishes (s : MigrationSession) (m : Migration) (snapshot : Schema)
    (first second : List Note) (outcome : Except Error Unit) : Prop where
  started : ∃ progress, (s.startWith m snapshot).Shows first (.ok progress)
  completed : s.complete.Shows second outcome
  told : ∀ active, s.ledger.Tells s.schema active second → active = m

section Valid

variable (known : ∀ op ∈ m.operations, op.isRawSql = false)
  (validated : m.validated snapshot = .ok played)

/-- What is left of the tables is what the operations have left. -/
theorem Unfolded.tablesAfter_eq (unfolded : s.Unfolded m snapshot played (acceptedChanges notes)) :
    ∃ made, Unfolds (s.phaseContext m) snapshot m.operations made played ∧
      tablesAfter snapshot notes = (Catalogue.ofSchema snapshot).after made := by
  obtain ⟨made, unfolds, same⟩ := unfolded.after_eq
  refine ⟨made, unfolds, ?_⟩
  have catalogue := congrArg Holdings.catalogue (same (.ofSchema snapshot))
  rwa [Holdings.catalogue_after, Holdings.catalogue_after] at catalogue

/-- The tables that are exposed in the end are there when the operations have been started. -/
theorem Unfolded.has_of_exposes (unfolded : s.Unfolded m snapshot played (acceptedChanges notes))
    (exposes : played.Exposes name) : (tablesAfter snapshot notes).Has name := by
  obtain ⟨made, unfolds, same⟩ := unfolded.tablesAfter_eq
  rw [same]
  exact unfolds.has_of_exposes (fun _ => Catalogue.has_ofSchema.mpr) exposes

/-- Where the server would not refuse the start, a table whose columns the migration changes is
exposed in the end if it is there by then, and is none that has been put aside. -/
theorem Unfolded.exposes_of_has (leaves : LeavesParking (.ofSchema snapshot) m)
    (recreates : m.RecreatesNone) (unfolded : s.Unfolded m snapshot played (acceptedChanges notes))
    {op : Operation} (member : op ∈ m.operations) (reshapes : op.reshapes = some name) :
    ¬m.Parks name ∧ ((tablesAfter snapshot notes).Has name → played.Exposes name) := by
  obtain ⟨made, unfolds, same⟩ := unfolded.tablesAfter_eq
  have unparked := unparked_of_about leaves recreates unfolds member
    (Operation.about_of_reshapes reshapes)
  have mirrors := mirrors_of_unfolds leaves recreates unfolds
  refine ⟨fun ⟨dropped, _, parked⟩ => unparked dropped.name parked, fun has => ?_⟩
  rcases mirrors.known name (same ▸ has) with exposes | ⟨dropped, _, parked⟩
  · exact exposes
  · exact absurd parked (unparked dropped.name)

/-- A completion finds the tables whose columns the migration changes, if they are exposed in the
end. -/
theorem findsTables_of_complete {outcome : Except Error Unit}
    (unfolded : s.Unfolded m snapshot played (acceptedChanges first))
    (keeps : m.KeepsReshaped played)
    (dialogue : s.complete.Dialogue second outcome)
    (told : ∀ active, s.ledger.Tells s.schema active second → active = m) :
    FindsTables (tablesAfter snapshot first) second := by
  refine findsTables_of_asked (asked_of_complete dialogue told) fun request table asks relies => ?_
  rcases asks with asks | rfl
  · obtain ⟨op, member, reshapes⟩ := asks.reshapes relies
    obtain ⟨exposes, unparked⟩ := keeps op member table reshapes
    refine ⟨unfolded.has_of_exposes exposes, fun statement asks d has => ?_⟩
    exact ((asks.resolve_right nofun).has_apply unparked).mpr has
  · cases relies

/-- Where a completion succeeds and has found its tables, those whose columns the migration changes
have been there in the beginning. -/
theorem has_of_findsTables (dialogue : s.complete.Dialogue second (.ok ()))
    (told : ∀ active, s.ledger.Tells s.schema active second → active = m)
    (finds : FindsTables c second) {op : Operation} (member : op ∈ m.operations)
    (reshapes : op.reshapes = some name) (unparked : ¬m.Parks name) : c.Has name := by
  obtain ⟨statement, contracts, relies⟩ := Operation.exists_reliesOn (s.phaseContext m) reshapes
  obtain ⟨answer, asked⟩ := mem_acceptedChanges.mp
    (contracted_of_complete dialogue told member contracts)
  obtain ⟨before, after, rfl⟩ := List.append_of_mem asked
  -- Nothing that the completion has done before brings the table.
  refine (Catalogue.after_induction (fun d => d.Has name ↔ c.Has name) .rfl ?_).mp
    (finds before _ _ after rfl name relies)
  intro d statement accepted same
  obtain ⟨_, earlier⟩ := mem_acceptedChanges.mp accepted
  have asks := asked_of_complete dialogue told _ _ (List.mem_append_left _ earlier)
  exact ((asks.resolve_right nofun).has_apply unparked).trans same

include known validated

/-- A valid migration without SQL of the user finds the tables that it fills and completes under
their names, if the tables whose columns it changes are exposed in the end. If the names of parked
tables are left alone and no table is created again that was dropped, then no other migration does:
a completion that succeeds has asked for a change of a table that was not there. -/
theorem finds_tables_iff_keepsReshaped (own : snapshot.OwnNames) :
    (m.KeepsReshaped played →
      (∀ table first second, s.Fills m snapshot table first second →
        FindsTables (tablesAfter snapshot first) second) ∧
      ∀ first second outcome, s.Finishes m snapshot first second outcome →
        FindsTables (tablesAfter snapshot first) second) ∧
    (LeavesParking (.ofSchema snapshot) m → m.RecreatesNone →
      ∀ first second, s.Finishes m snapshot first second (.ok ()) →
        (FindsTables (tablesAfter snapshot first) second ↔ m.KeepsReshaped played)) := by
  have unfolds {first : List Note} {progress : List Backfill.Progress}
      (started : (s.startWith m snapshot).Shows first (.ok progress)) :
      s.Unfolded m snapshot played (acceptedChanges first) :=
    achieves_startWith validated known first progress started.dialogue
  have finished {first second : List Note} {outcome : Except Error Unit}
      (keeps : m.KeepsReshaped played) (finishes : s.Finishes m snapshot first second outcome) :
      FindsTables (tablesAfter snapshot first) second := by
    obtain ⟨_, started⟩ := finishes.started
    exact findsTables_of_complete (unfolds started) keeps finishes.completed.dialogue finishes.told
  refine ⟨fun keeps => ⟨fun table first second fills => ?_, fun _ _ _ => finished keeps⟩, ?_⟩
  · obtain ⟨tables, among, expanded⟩ := fills.expanded
    obtain ⟨outcome, filled⟩ := fills.filled
    obtain ⟨unfolded, fillsFor⟩ := achieves_expandOrUndo validated known first tables expanded
    obtain ⟨added, member, _, named⟩ := fillsFor own table among
    have has := unfolded.has_of_exposes (keeps _ member added.table rfl).1
    refine findsTables_of_asked (Backfill.asksOnly_run _ _ _ second outcome filled) ?_
    intro request name asks relies
    refine ⟨?_, fun _ changes => nomatch changes⟩
    cases asks with
    | count =>
        cases relies
        exact named ▸ has
    | update same =>
        cases relies
        exact same ▸ named ▸ has
    | _ => cases relies
  · intro leaves recreates first second finishes
    refine ⟨fun finds op member table reshapes => ?_, fun keeps => finished keeps finishes⟩
    obtain ⟨_, started⟩ := finishes.started
    obtain ⟨unparked, exposes⟩ := (unfolds started).exposes_of_has leaves recreates member reshapes
    have has := has_of_findsTables finishes.completed.dialogue finishes.told finds member reshapes
      unparked
    exact ⟨exposes has, unparked⟩

end Valid

/-! ## Tables that are dropped beside a change and behind it -/

/-- A server that fills one row, and otherwise answers in a given way. -/
def filling (answer : Request → Except ServerError Answer) : Request → Except ServerError Answer
  | .updateBatch _ _ _ => .ok (.ofRow [some (.number (.int 1)), none])
  | request => answer request

/-- A table with nothing but its key. -/
def keyedTable (name : String) : Table :=
  { Table.ofName name with
    columns := .ofList [("id", { Column.ofType "id" "int" with nullable := false, position := 1 })]
    primaryKey := ["id"] }

/-- A schema with tables of users and of orders. -/
def withOrders : Schema :=
  ((Schema.ofName "public").exposeTable "users" (keyedTable "users")).exposeTable "orders"
    (keyedTable "orders")

theorem ownNames_withOrders : withOrders.OwnNames := by
  have named (name : String) : (keyedTable name).name = name := rfl
  exact (Schema.OwnNames.ofName.exposeTable (named "users")).exposeTable (named "orders")

/-- A migration that adds a computed column to one table and drops the other one. -/
def addsAndDrops : Migration :=
  { name := "add_and_drop"
    versionSchema := none
    operations := [
      .addColumn
        { table := "users"
          column := { ColumnDefinition.ofType "email" "text" with nullable := true }
          up := some "lower(name)" },
      .dropTable { name := "orders" }] }

theorem leavesParking_addsAndDrops : LeavesParking (.ofSchema withOrders) addsAndDrops where
  tables name := by
    refine Catalogue.not_has.mp fun has => ?_
    rcases Schema.exposes_exposeTable.mp (Catalogue.has_ofSchema.mp has) with same | exposes
    · exact absurd (congrArg String.toList same) (by simp [parkedName])
    · rcases Schema.exposes_exposeTable.mp exposes with same | ⟨_, found⟩
      · exact absurd (congrArg String.toList same) (by simp [parkedName])
      · cases found
  created op member := by simp [addsAndDrops] at member
  extended op member name same := by
    simp only [addsAndDrops, List.mem_cons, Operation.addColumn.injEq, reduceCtorEq,
      List.not_mem_nil, or_false] at member
    subst member
    exact absurd (congrArg String.toList same) (by simp [parkedName])

theorem recreatesNone_addsAndDrops : addsAndDrops.RecreatesNone := by
  simp [Migration.RecreatesNone, addsAndDrops]

/-- A server that accepts all changes of a migration and fills one row. -/
def finishing (m : Migration) : Request → Except ServerError Answer :=
  filling (succeeding (initialVersion none) m)

/-- What is noted of a start, and of a completion, with this server. -/
def finishingNotes (m : Migration) (snapshot : Schema) : List Note × List Note :=
  ((usual.startWith m snapshot).notesWith (finishing m), usual.complete.notesWith (finishing m))

theorem eq_of_tells_finishing {active : Migration} (tells : usual.ledger.Tells usual.schema active
    (finishingNotes m snapshot).2) : active = m :=
  Ledger.eq_of_told_answering rfl tells

theorem finishes_addsAndDrops :
    usual.Finishes addsAndDrops withOrders (finishingNotes addsAndDrops withOrders).1
      (finishingNotes addsAndDrops withOrders).2 (.ok ()) where
  started := ⟨_, shows_of_outcomeWith rfl⟩
  completed := shows_of_outcomeWith rfl
  told _ tells := eq_of_tells_finishing tells

/-- The users with the new column, as they are when they are filled. -/
def usersToFill : Table :=
  AddColumn.extend
    { table := "users"
      column := { ColumnDefinition.ofType "email" "text" with nullable := true }
      up := some "lower(name)" }
    (keyedTable "users")

/-- What is noted of the expansion, and of the filling of the users. -/
def fillingNotes : List Note × List Note :=
  ((usual.expandOrUndo addsAndDrops withOrders).notesWith (finishing addsAndDrops),
    (Backfill.run usual.config.backfill usual.schema usersToFill).notesWith
      (finishing addsAndDrops))

theorem fills_addsAndDrops :
    usual.Fills addsAndDrops withOrders usersToFill fillingNotes.1 fillingNotes.2 where
  expanded := ⟨[usersToFill], by simp, (shows_of_outcomeWith rfl).dialogue⟩
  filled := ⟨_, (shows_of_outcomeWith rfl).dialogue⟩

/-- The users are found when they are filled and when their new column is put into its place, while
the orders are aside. -/
theorem finds_tables_of_addsAndDrops :
    (∀ op ∈ addsAndDrops.operations, op.isRawSql = false) ∧
      (∃ played, addsAndDrops.validated withOrders = .ok played ∧
        addsAndDrops.KeepsReshaped played) ∧ withOrders.OwnNames ∧
      FindsTables (tablesAfter withOrders fillingNotes.1) fillingNotes.2 ∧
      FindsTables (tablesAfter withOrders (finishingNotes addsAndDrops withOrders).1)
        (finishingNotes addsAndDrops withOrders).2 := by
  have known : ∀ op ∈ addsAndDrops.operations, op.isRawSql = false := by decide
  obtain ⟨played, validated, exposes⟩ : ∃ played, addsAndDrops.validated withOrders = .ok played ∧
      played.Exposes "users" := ⟨_, rfl, _, rfl⟩
  have keeps : addsAndDrops.KeepsReshaped played := by
    intro op member table reshapes
    rcases List.mem_cons.mp member with rfl | member
    · cases reshapes
      refine ⟨exposes, fun ⟨dropped, among, parked⟩ => ?_⟩
      rcases List.mem_cons.mp among with impossible | among
      · cases impossible
      · cases List.mem_singleton.mp among
        exact absurd parked (by decide)
    · cases List.mem_singleton.mp member
      cases reshapes
  obtain ⟨enough, needed⟩ :=
    finds_tables_iff_keepsReshaped (s := usual) known validated ownNames_withOrders
  have finishes := needed leavesParking_addsAndDrops recreatesNone_addsAndDrops _ _
    finishes_addsAndDrops
  exact ⟨known, ⟨played, validated, keeps⟩, ownNames_withOrders,
    (enough keeps).1 _ _ _ fills_addsAndDrops, finishes.mpr keeps⟩

/-- A migration that adds a column to a table and drops the table. -/
def addsToDropped : Migration :=
  { name := "add_to_dropped"
    versionSchema := none
    operations := [
      .addColumn
        { table := "users"
          column := { ColumnDefinition.ofType "email" "text" with nullable := true }, up := none },
      .dropTable { name := "users" }] }

theorem acceptedChanges_addsToDropped :
    acceptedChanges (finishingNotes addsToDropped .withUsers).1 =
      [.addColumn "public" "users"
          { name := "_pgshift_new_email", dataType := "text", notNull := false, default := none,
            unique := false, check := none } [],
        .renameTable "public" "users" "_pgshift_del_users" false,
        .makeVersionSchema
          { name := "public_add_to_dropped", source := "public", views := [],
            securityInvoker := true }] := rfl

/-- The completion looks in vain for the users, though the migration is valid and all that it asked
for was accepted. -/
theorem not_finds_tables_of_addsToDropped :
    (∀ op ∈ addsToDropped.operations, op.isRawSql = false) ∧
      (∃ played, addsToDropped.validated .withUsers = .ok played) ∧ Schema.withUsers.OwnNames ∧
      usual.Finishes addsToDropped .withUsers (finishingNotes addsToDropped .withUsers).1
        (finishingNotes addsToDropped .withUsers).2 (.ok ()) ∧
      ¬FindsTables (tablesAfter .withUsers (finishingNotes addsToDropped .withUsers).1)
        (finishingNotes addsToDropped .withUsers).2 := by
  have own : Schema.withUsers.OwnNames := Schema.OwnNames.ofName.exposeTable rfl
  have finishes : usual.Finishes addsToDropped .withUsers
      (finishingNotes addsToDropped .withUsers).1 (finishingNotes addsToDropped .withUsers).2
        (.ok ()) :=
    ⟨⟨_, shows_of_outcomeWith rfl⟩, shows_of_outcomeWith rfl, fun _ => eq_of_tells_finishing⟩
  refine ⟨by decide, ⟨_, rfl⟩, own, finishes, fun finds => ?_⟩
  have unparked : ¬addsToDropped.Parks "users" := by
    rintro ⟨dropped, member, parked⟩
    rcases List.mem_cons.mp member with impossible | member
    · cases impossible
    · cases List.mem_singleton.mp member
      exact absurd parked (by decide)
  obtain ⟨table, found⟩ := has_of_findsTables finishes.completed.dialogue finishes.told finds
    List.mem_cons_self rfl unparked
  rw [tablesAfter, acceptedChanges_addsToDropped] at found
  cases found

end MigrationSession

end ExpandContract
