import ExpandContract.Proofs.Catalogue.Mirroring
import ExpandContract.Proofs.Schema.Ordering

/-!
# What checks leave alone

A check writes on the snapshot while it runs, and a rejection does not take back what has been
written. Yet a check that rejects leaves the snapshot as it was (`Check.Atomic`). Most checks write
as their last act, behind everything that may reject; the drop of a column writes first, and when it
rejects there was nothing to take out.

A check that passes changes one table at most, the one that its operation is about
(`Operation.checkedTable?`). Both are said together in `Operation.check_atomic_and_local`. In a
table that stays, the columns that stay keep their order (`Operation.keepsOrder_of_passes`).
-/

set_option autoImplicit false

namespace ExpandContract

variable {α β : Type}

namespace Check

/-- The check rejects the schema for a cause, and leaves another schema. -/
def Rejects (c : Check α) (before : Schema) (cause : ValidationError) (after : Schema) : Prop :=
  c.run.run before = (.error cause, after)

/-- The check leaves the schema as it is, whether it passes or rejects. -/
def ReadsOnly (c : Check α) : Prop :=
  ∀ schema, (c.run.run schema).2 = schema

/-- Where the check rejects, it leaves the schema as it was. -/
def Atomic (c : Check α) : Prop :=
  ∀ before cause after, c.Rejects before cause after → after = before

variable {c : Check α} {f : α → Check β} {before after : Schema} {cause : ValidationError}

/-! ## Rejections -/

theorem rejects_bind :
    (c >>= f).Rejects before cause after ↔
      c.Rejects before cause after ∨
        ∃ given between, c.Passes before given between ∧ (f given).Rejects between cause after := by
  unfold Rejects Passes
  rw [run_bind]
  rcases c.run.run before with ⟨e | given, between⟩
  · constructor
    · rintro ⟨⟩
      exact .inl rfl
    · rintro (⟨⟨⟩⟩ | ⟨_, _, ⟨⟩, _⟩)
      rfl
  · constructor
    · intro rejects
      exact .inr ⟨given, between, rfl, rejects⟩
    · rintro (⟨⟨⟩⟩ | ⟨_, _, ⟨⟩, rejects⟩)
      exact rejects

/-! ## Checks that only read -/

namespace ReadsOnly

theorem eq_of_passes {value : α} (reads : c.ReadsOnly) (passes : c.Passes before value after) :
    after = before := by
  rw [← reads before, passes]

theorem eq_of_rejects (reads : c.ReadsOnly) (rejects : c.Rejects before cause after) :
    after = before := by
  rw [← reads before, rejects]

theorem bind (first : c.ReadsOnly) (rest : ∀ value, (f value).ReadsOnly) : (c >>= f).ReadsOnly := by
  intro schema
  have kept := first schema
  rw [run_bind]
  rcases ran : c.run.run schema with ⟨e | given, between⟩
  · rwa [ran] at kept
  · rw [ran] at kept
    exact (rest given between).trans kept

/-- What only reads may go first. -/
theorem followed_by (reads : c.ReadsOnly) (rest : ∀ value, (f value).Atomic) :
    (c >>= f).Atomic := by
  intro before cause after rejects
  rcases rejects_bind.mp rejects with early | ⟨given, between, passes, late⟩
  · exact reads.eq_of_rejects early
  · rw [rest given between cause after late, reads.eq_of_passes passes]

end ReadsOnly

theorem readsOnly_pure (value : α) : (pure value : Check α).ReadsOnly :=
  fun _ => rfl

theorem readsOnly_throw (cause : ValidationError) : (throw cause : Check α).ReadsOnly :=
  fun _ => rfl

theorem readsOnly_get : (get : Check Schema).ReadsOnly :=
  fun _ => rfl

theorem readsOnly_refuseBlank (operation field text : String) :
    (refuseBlank operation field text).ReadsOnly := by
  unfold refuseBlank
  split
  · exact readsOnly_throw _
  · exact readsOnly_pure ()

theorem readsOnly_exposedTable (name : String) : (exposedTable name).ReadsOnly := by
  refine readsOnly_get.bind fun schema => ?_
  split
  · exact readsOnly_pure _
  · exact readsOnly_throw _

theorem readsOnly_refusal {c : Prop} [Decidable c] {given : β → Check α} {rest : Check α}
    (follows : rest.ReadsOnly) :
    (if c then (throw cause : Check β) >>= given else rest).ReadsOnly := by
  split
  · exact fun _ => rfl
  · exact follows

/-! ## Checks that write -/

/-- Writing does not reject. -/
theorem atomic_modify (change : Schema → Schema) : (modify change : Check Unit).Atomic := by
  rintro before cause after ⟨⟩

theorem atomic_set (schema : Schema) : (set schema : Check Unit).Atomic := by
  rintro before cause after ⟨⟩

theorem ReadsOnly.atomic (reads : c.ReadsOnly) : c.Atomic :=
  fun _ _ _ => reads.eq_of_rejects

theorem atomic_refusal {c : Prop} [Decidable c] {given : β → Check α} {rest : Check α}
    (follows : rest.Atomic) :
    (if c then (throw cause : Check β) >>= given else rest).Atomic := by
  split
  · have refused : ((throw cause : Check β) >>= given).ReadsOnly := fun _ => rfl
    exact refused.atomic
  · exact follows

end Check

open Check

/-! ## Rejected operations -/

section Rejected

variable {before : Schema}

/-- Writing back what is exposed changes nothing. -/
theorem Schema.exposeTable_eq_self {name : String} {table : Table}
    (found : before.table? name = some table) : before.exposeTable name table = before := by
  rw [exposeTable, NameMap.insert_eq_self found]

/-- Taking out a column that is not there changes nothing. -/
theorem Table.hideColumn_eq_self {table : Table} {name : String}
    (missing : table.column? name = none) : table.hideColumn name = table := by
  rw [hideColumn, NameMap.erase_eq_self missing]

theorem CreateTable.readsOnly_checkColumns (op : CreateTable) (seen : List String)
    (columns : List ColumnDefinition) : (op.checkColumns seen columns).ReadsOnly := by
  induction columns generalizing seen with
  | nil => exact readsOnly_pure ()
  | cons c rest ih =>
      refine (readsOnly_refuseBlank _ _ _).bind fun _ => ?_
      refine (readsOnly_refuseBlank _ _ _).bind fun _ => ?_
      exact readsOnly_refusal (ih _)

theorem CreateTable.atomic_check (op : CreateTable) : op.check.Atomic := by
  refine (readsOnly_refuseBlank _ _ _).followed_by fun _ => ?_
  refine readsOnly_get.followed_by fun schema => atomic_refusal (atomic_refusal ?_)
  exact (op.readsOnly_checkColumns _ _).followed_by fun _ => atomic_modify _

theorem DropTable.atomic_check (op : DropTable) : op.check.Atomic :=
  (readsOnly_exposedTable _).followed_by fun _ => atomic_modify _

theorem AddColumn.atomic_check (op : AddColumn) : op.check.Atomic := by
  refine (readsOnly_refuseBlank _ _ _).followed_by fun _ => ?_
  refine (readsOnly_refuseBlank _ _ _).followed_by fun _ => ?_
  refine (readsOnly_exposedTable _).followed_by fun table => ?_
  refine atomic_refusal (atomic_refusal (atomic_refusal (atomic_refusal ?_)))
  exact atomic_modify _

/-- The column is taken out before it is known whether there is one. A rejection means that there
was none, so the table that has been written back is the one that was read. -/
theorem DropColumn.atomic_check (op : DropColumn) : op.check.Atomic := by
  intro before cause after rejects
  rcases rejects_bind.mp rejects with early | ⟨table, read, passes, late⟩
  · exact (readsOnly_exposedTable _).eq_of_rejects early
  · obtain ⟨found, kept⟩ := passes_exposedTable.mp passes
    rw [kept] at late
    rcases rejects_bind.mp late with impossible | ⟨_, written, wrote, refused⟩
    · cases impossible
    · have same : written = before.exposeTable op.table (table.hideColumn op.column) :=
        passes_putTable.mp wrote
      split at refused
      · rename_i missing
        have absent : table.column? op.column = none := by simpa using missing
        rw [(readsOnly_throw _).eq_of_rejects refused, same, Table.hideColumn_eq_self absent,
          Schema.exposeTable_eq_self found]
      · cases refused

theorem RenameColumn.atomic_check (op : RenameColumn) : op.check.Atomic := by
  refine (readsOnly_refuseBlank _ _ _).followed_by fun _ => ?_
  refine readsOnly_get.followed_by fun schema => ?_
  split
  · exact atomic_set _
  · exact (readsOnly_throw _).atomic

theorem CreateIndex.atomic_check (op : CreateIndex) : op.check.Atomic := by
  refine (readsOnly_refuseBlank _ _ _).followed_by fun _ => ?_
  refine atomic_refusal (readsOnly_get.followed_by fun schema => atomic_refusal ?_)
  refine (readsOnly_exposedTable _).followed_by fun table => ?_
  split
  · exact atomic_modify _
  · exact (readsOnly_throw _).atomic

theorem DropIndex.atomic_check (op : DropIndex) : op.check.Atomic := by
  refine readsOnly_get.followed_by fun schema => ?_
  split
  · exact atomic_set _
  · exact (readsOnly_throw _).atomic

theorem RawSql.atomic_check (op : RawSql) : op.check.Atomic := by
  refine (readsOnly_refuseBlank _ _ _).followed_by fun _ => ?_
  split
  · exact (readsOnly_throw _).atomic
  · exact (readsOnly_pure ()).atomic

/-- An operation that is rejected has left the snapshot as it was. -/
theorem Operation.atomic_check (op : Operation) : op.check.Atomic := by
  cases op with
  | createTable op => exact op.atomic_check
  | dropTable op => exact op.atomic_check
  | addColumn op => exact op.atomic_check
  | dropColumn op => exact op.atomic_check
  | renameColumn op => exact op.atomic_check
  | createIndex op => exact op.atomic_check
  | dropIndex op => exact op.atomic_check
  | rawSql op => exact op.atomic_check

end Rejected

/-! ## Accepted operations -/

/-- The table that the check of an operation may change: the one that the operation names, or the
first one that has the index to be dropped. -/
def Operation.checkedTable? (schema : Schema) : Operation → Option String
  | .dropIndex op => (schema.findIndex? op.name).map (·.1)
  | op => op.about

/-- The schemas have the same name, and show the same table under every name but one. -/
def Schema.AgreesBut (touched : Option String) (before after : Schema) : Prop :=
  after.name = before.name ∧
    ∀ exposed, touched ≠ some exposed → after.table? exposed = before.table? exposed

namespace Schema.AgreesBut

variable {before : Schema} {touched : Option String} {name : String}

theorem refl : AgreesBut touched before before :=
  ⟨rfl, fun _ _ => rfl⟩

theorem exposeTable (table : Table) (same : touched = some name) :
    AgreesBut touched before (before.exposeTable name table) := by
  refine ⟨rfl, fun exposed other => ?_⟩
  have different : exposed ≠ name := fun equal => other (equal ▸ same)
  exact NameMap.find?_insert_of_ne _ different _

theorem hideTable (same : touched = some name) :
    AgreesBut touched before (before.hideTable name) := by
  refine ⟨rfl, fun exposed other => ?_⟩
  have different : exposed ≠ name := fun equal => other (equal ▸ same)
  exact NameMap.find?_erase_of_ne _ different

end Schema.AgreesBut

section Accepted

variable {before after : Schema}

/-- The index is taken out of the table in which it was found. -/
theorem DropIndex.agreesBut (op : DropIndex) (checked : op.check.Passes before () after) :
    Schema.AgreesBut ((Operation.dropIndex op).checkedTable? before) before after := by
  have removed := op.passes_check.mp checked
  simp only [remove?, Option.bind_eq_bind, Option.bind_eq_some_iff, Option.pure_def,
    Option.some.injEq] at removed
  obtain ⟨⟨owner, index⟩, found, table, _, rfl⟩ := removed
  refine .exposeTable _ ?_
  rw [Operation.checkedTable?, found]
  rfl

/-- An operation that is accepted has changed its table at most. -/
theorem Operation.agreesBut_of_passes (op : Operation) (checked : op.check.Passes before () after) :
    Schema.AgreesBut (op.checkedTable? before) before after := by
  cases op with
  | createTable op =>
      obtain ⟨_, _, _, _, _, rfl⟩ := op.passes_check.mp checked
      exact .exposeTable _ rfl
  | dropTable op =>
      obtain ⟨_, rfl⟩ := op.passes_check.mp checked
      exact .hideTable rfl
  | addColumn op =>
      obtain ⟨_, _, table, _, _, _, _, _, rfl⟩ := op.passes_check.mp checked
      exact .exposeTable _ rfl
  | dropColumn op =>
      obtain ⟨table, _, _, rfl⟩ := op.passes_check.mp checked
      exact .exposeTable _ rfl
  | renameColumn op =>
      obtain ⟨_, renamed⟩ := op.passes_check.mp checked
      obtain ⟨table, column, _, _, _, rfl⟩ := op.rename_eq_ok.mp renamed
      exact .exposeTable _ rfl
  | createIndex op =>
      obtain ⟨_, _, _, table, columns, _, _, rfl⟩ := op.passes_check.mp checked
      exact .exposeTable _ rfl
  | dropIndex op => exact op.agreesBut checked
  | rawSql op =>
      obtain ⟨_, _, rfl⟩ := op.passes_check.mp checked
      exact .refl

end Accepted

/-- An index that is found is one of the table with which it is found. -/
theorem Schema.exists_of_findIndex? {schema : Schema} {name owner : String} {index : Index}
    (found : schema.findIndex? name = some (owner, index)) :
    ∃ table, schema.table? owner = some table ∧ table.indexes.find? name = some index := by
  obtain ⟨entry, among, there⟩ := List.exists_of_findSome?_eq_some found
  obtain ⟨other, has, same⟩ := Option.map_eq_some_iff.mp there
  obtain ⟨rfl, rfl⟩ := Prod.mk.inj same
  exact ⟨entry.2, NameMap.mem_entries_iff.mp among, has⟩

/-- The operation names the table, or the table has the index that the operation drops. -/
def Operation.Concerns (schema : Schema) (op : Operation) (exposed : String) : Prop :=
  op.about = some exposed ∨
    ∃ dropped table index, op = .dropIndex dropped ∧ schema.table? exposed = some table ∧
      table.indexes.find? dropped.name = some index

theorem Operation.concerns_checkedTable {schema : Schema} {op : Operation} {exposed : String}
    (checked : op.checkedTable? schema = some exposed) : op.Concerns schema exposed := by
  cases op with
  | dropIndex dropped =>
      obtain ⟨⟨owner, index⟩, found, rfl⟩ := Option.map_eq_some_iff.mp checked
      obtain ⟨table, shown, has⟩ := Schema.exists_of_findIndex? found
      exact .inr ⟨dropped, table, index, rfl, shown, has⟩
  | _ => exact .inl checked

/-- An operation that is rejected leaves the schema exactly as it was. One that is accepted leaves
the name of the schema, and every table but the one that it names or that has the index it drops. -/
theorem Operation.check_atomic_and_local (op : Operation) (before : Schema) :
    match op.check.run.run before with
    | (.error _, after) => after = before
    | (.ok _, after) =>
        after.name = before.name ∧
          (∀ exposed, op.checkedTable? before ≠ some exposed →
            after.table? exposed = before.table? exposed) ∧
          ∀ exposed, op.checkedTable? before = some exposed → op.Concerns before exposed := by
  rcases ran : op.check.run.run before with ⟨cause | _, after⟩
  · exact op.atomic_check before cause after ran
  · obtain ⟨named, others⟩ := op.agreesBut_of_passes ran
    exact ⟨named, others, fun _ => op.concerns_checkedTable⟩

/-! ## The order of the columns -/

section Order

variable {before after : Schema} {exposed name : String} {t left table new : Table}

/-- What is exposed after a table has been written is that table, or what was exposed before. -/
theorem Schema.written_or_kept (stays : (before.exposeTable name new).table? exposed = some left) :
    (exposed = name ∧ left = new) ∨ before.table? exposed = some left := by
  unfold exposeTable table? at stays
  by_cases same : exposed = name
  · rw [same, NameMap.find?_insert_self] at stays
    exact .inl ⟨same, (Option.some.inj stays).symm⟩
  · rw [NameMap.find?_insert_of_ne _ same] at stays
    exact .inr stays

/-- So a table that stays is what it was, or it has been written in its place. -/
theorem Schema.kept_or_written (shown : before.table? name = some table)
    (found : before.table? exposed = some t)
    (stays : (before.exposeTable name new).table? exposed = some left) :
    left = t ∨ (table = t ∧ left = new) := by
  rcases written_or_kept stays with ⟨rfl, written⟩ | kept
  · exact .inr ⟨Option.some.inj (shown.symm.trans found), written⟩
  · exact .inl (Option.some.inj (kept.symm.trans found))

/-- On a table that stays, an operation takes one step at most, and the step is allowed if there is
room for another column. -/
theorem Operation.step_of_passes (op : Operation) (checked : op.check.Passes before () after)
    (found : before.table? exposed = some t) (stays : after.table? exposed = some left) :
    left.columns = t.columns ∨ ∃ step, (t.HasRoom → t.Allows step) ∧ left = t.play step := by
  cases op with
  | createTable op =>
      obtain ⟨_, free, _, _, _, rfl⟩ := op.passes_check.mp checked
      rcases Schema.written_or_kept stays with ⟨rfl, _⟩ | kept
      · cases free.symm.trans found
      · cases kept.symm.trans found
        exact .inl rfl
  | dropTable op =>
      obtain ⟨_, rfl⟩ := op.passes_check.mp checked
      unfold Schema.hideTable Schema.table? at stays
      by_cases same : exposed = op.name
      · rw [same, NameMap.find?_erase_self] at stays
        cases stays
      · rw [NameMap.find?_erase_of_ne _ same] at stays
        cases stays.symm.trans found
        exact .inl rfl
  | addColumn op =>
      obtain ⟨_, _, table, shown, free, _, _, _, rfl⟩ := op.passes_check.mp checked
      rcases Schema.kept_or_written shown found stays with rfl | ⟨rfl, rfl⟩
      · exact .inl rfl
      · exact .inr ⟨.expose op.column.name (op.column.snapshot op.shadow),
          fun room => ⟨rfl, free, room⟩, rfl⟩
  | dropColumn op =>
      obtain ⟨table, shown, _, rfl⟩ := op.passes_check.mp checked
      rcases Schema.kept_or_written shown found stays with rfl | ⟨rfl, rfl⟩
      · exact .inl rfl
      · exact .inr ⟨.hide op.column, fun _ => trivial, rfl⟩
  | renameColumn op =>
      obtain ⟨_, renamed⟩ := op.passes_check.mp checked
      obtain ⟨table, column, shown, free, there, rfl⟩ := op.rename_eq_ok.mp renamed
      rcases Schema.kept_or_written shown found stays with rfl | ⟨rfl, rfl⟩
      · exact .inl rfl
      · refine .inr ⟨.rename op.source op.target, fun _ => free, ?_⟩
        rw [Table.play, Table.renameColumn?, there]
        rfl
  | createIndex op =>
      obtain ⟨_, _, _, table, columns, shown, _, rfl⟩ := op.passes_check.mp checked
      rcases Schema.kept_or_written shown found stays with rfl | ⟨rfl, rfl⟩ <;> exact .inl rfl
  | dropIndex op =>
      obtain ⟨owner, table, shown, rfl⟩ := op.remove?_eq_some (op.passes_check.mp checked)
      rcases Schema.kept_or_written shown found stays with rfl | ⟨rfl, rfl⟩ <;> exact .inl rfl
  | rawSql op =>
      obtain ⟨_, _, rfl⟩ := op.passes_check.mp checked
      cases stays.symm.trans found
      exact .inl rfl

/-- In a table that stays, the columns that stay come first and keep their order, whatever the
operation does; it adds one column at most. -/
theorem Operation.keepsOrder_of_passes (op : Operation)
    (checked : op.check.Passes before () after) (found : before.table? exposed = some t)
    (stays : after.table? exposed = some left) (differ : t.PositionsDiffer) (room : t.HasRoom) :
    left.PositionsDiffer ∧ ∃ kept added, left.listing.map (·.2) = kept ++ added ∧
      kept.Sublist (t.listing.map (·.2)) ∧ added.length ≤ 1 := by
  rcases op.step_of_passes checked found stays with same | ⟨step, allowed, rfl⟩
  · have listing : left.listing = t.listing := by
      unfold Table.listing Table.orderedColumns
      rw [same]
    refine ⟨by rwa [Table.PositionsDiffer, same], t.listing.map (·.2), [], ?_, .refl _,
      Nat.zero_le _⟩
    rw [listing, List.append_nil]
  · obtain ⟨apart, played⟩ := Table.listing_play differ (allowed room)
    obtain ⟨kept, added, split, stays, follows⟩ := TableStep.exists_survivors t.listing [step]
    refine ⟨apart, kept, added, ?_, stays, ?_⟩
    · rw [played]
      exact split
    · exact follows.length_le.trans (List.length_filterMap_le ..)

end Order

end ExpandContract
