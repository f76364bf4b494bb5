import ExpandContract.Proofs.Catalogue.Basic
import ExpandContract.Proofs.Migration.Contraction

/-!
# The columns of a table

Which columns a table has by their names, whatever becomes of other tables. `HasColumns` bounds them
from below and from above, and a change keeps the bounds if it takes none of the lower columns away
and adds none above the upper ones (`Sql.Change.Within`).

A rollback drops columns by their names. What it does to the columns of a table is known exactly
(`names_after_undo`): it takes away the two names of each added column, and nothing else.
-/

set_option autoImplicit false

namespace ExpandContract

open Sql (Change)

/-! ## Names of columns -/

namespace StoredTable

variable {t : StoredTable} {name column source target : String} {names : List String}

theorem mem_names_addColumn :
    column ∈ (t.addColumn name).columns.names ↔ column = name ∨ column ∈ t.columns.names := by
  unfold addColumn
  split
  · rename_i taken
    have taken : name ∈ t.columns.names := NameMap.mem_names.mpr taken
    constructor
    · exact .inr
    · rintro (rfl | there)
      · exact taken
      · exact there
  · rw [NameMap.mem_names, NameMap.mem_names]
    by_cases same : column = name
    · subst same
      simp
    · simp [NameMap.find?_insert_of_ne _ same, same]

theorem mem_names_dropColumns :
    column ∈ (t.dropColumns names).columns.names ↔ column ∈ t.columns.names ∧ column ∉ names := by
  rw [NameMap.mem_names, NameMap.mem_names, find?_dropColumns]
  split <;> simp [*]

/-- A column that is renamed is at most missing under its old name. -/
theorem mem_names_renameColumn (there : column ∈ t.columns.names) (other : column ≠ source) :
    column ∈ (t.renameColumn source target).columns.names := by
  unfold renameColumn
  split
  · rw [NameMap.mem_names]
    by_cases same : column = target
    · subst same
      simp
    · rw [NameMap.find?_insert_of_ne _ same, NameMap.find?_erase_of_ne _ other]
      exact NameMap.mem_names.mp there
  · exact there

/-- A column that is renamed is new at most under its new name. -/
theorem of_mem_names_renameColumn
    (there : column ∈ (t.renameColumn source target).columns.names) :
    column = target ∨ column ∈ t.columns.names := by
  unfold renameColumn at there
  split at there
  · by_cases same : column = target
    · exact .inl same
    · rw [NameMap.mem_names, NameMap.find?_insert_of_ne _ same] at there
      by_cases gone : column = source
      · subst gone
        rw [NameMap.find?_erase_self] at there
        cases there
      · rw [NameMap.find?_erase_of_ne _ gone] at there
        exact .inr (NameMap.mem_names.mpr there)
  · exact .inr there

end StoredTable

namespace Catalogue

variable {c : Catalogue} {name : String} {own extra : List String}

/-- The names of the columns of a table, if there is a table of that name. -/
def columnNames? (c : Catalogue) (table : String) : Option (List String) :=
  (c.tables.find? table).map fun t => t.columns.names

theorem columnNames?_ofSchema {schema : Schema} {table : Table}
    (found : schema.table? name = some table) :
    (ofSchema schema).columnNames? name = some table.columns.names := by
  unfold columnNames? ofSchema
  rw [NameMap.find?_map]
  change ((schema.table? name).map _).map _ = _
  rw [found]
  exact congrArg some (NameMap.names_map _ _)

/-! ## Bounds -/

/-- There is a table of that name. It has the columns `own`, and no others but some of `extra`. -/
def HasColumns (c : Catalogue) (name : String) (own extra : List String) : Prop :=
  ∃ names, c.columnNames? name = some names ∧ own ⊆ names ∧ names ⊆ own ++ extra

end Catalogue

/-- The change leaves the bounds of a table alone: it takes away none of the columns `own`, and adds
none but some of `extra`. -/
def Sql.Change.Within (name : String) (own extra : List String) : Change → Prop
  | .dropTable _ table => table ≠ name
  | .renameTable _ table _ _ => table ≠ name
  | .addColumn _ table column _ => table = name → column.name ∈ extra
  | .dropColumns _ table columns _ => table = name → ∀ column ∈ columns, column ∉ own
  | .renameColumn _ table source target => table = name → source ∉ own ∧ target ∈ extra
  | _ => True

namespace Catalogue

variable {c : Catalogue} {name : String} {own extra : List String}

theorem columnNames?_of_find?_eq {c d : Catalogue}
    (same : d.tables.find? name = c.tables.find? name) :
    d.columnNames? name = c.columnNames? name := by
  unfold columnNames?
  rw [same]

/-- A change of one table changes its columns, and no columns of other tables. -/
theorem columnNames?_alter {table : String} {f : StoredTable → StoredTable} :
    (c.alter table f).columnNames? name =
      if table = name then (c.tables.find? name).map fun t => (f t).columns.names
      else c.columnNames? name := by
  by_cases same : table = name
  · subst same
    rw [if_pos rfl, columnNames?, find?_alter_self, Option.map_map]
    rfl
  · rw [if_neg same]
    exact columnNames?_of_find?_eq (find?_alter_of_ne (Ne.symm same))

namespace HasColumns

/-- What becomes of other tables does not matter. -/
theorem of_find?_eq {d : Catalogue} (has : c.HasColumns name own extra)
    (same : d.tables.find? name = c.tables.find? name) : d.HasColumns name own extra := by
  obtain ⟨names, found, lower, upper⟩ := has
  exact ⟨names, (columnNames?_of_find?_eq same).trans found, lower, upper⟩

theorem find? (has : c.HasColumns name own extra) : ∃ t, c.tables.find? name = some t := by
  obtain ⟨names, found, _⟩ := has
  obtain ⟨t, found, _⟩ := Option.map_eq_some_iff.mp found
  exact ⟨t, found⟩

/-- A change of one table keeps the bounds, if it does where the table is the one in question. -/
theorem alter {table : String} {f : StoredTable → StoredTable} (has : c.HasColumns name own extra)
    (keeps : table = name → ∀ t : StoredTable, own ⊆ t.columns.names →
      t.columns.names ⊆ own ++ extra →
        own ⊆ (f t).columns.names ∧ (f t).columns.names ⊆ own ++ extra) :
    (c.alter table f).HasColumns name own extra := by
  obtain ⟨names, found, lower, upper⟩ := has
  by_cases same : table = name
  · obtain ⟨t, there, rfl⟩ := Option.map_eq_some_iff.mp found
    refine ⟨_, ?_, keeps same t lower upper⟩
    rw [columnNames?_alter, if_pos same, there]
    rfl
  · exact ⟨names, by rw [columnNames?_alter, if_neg same, found], lower, upper⟩

/-- Within its bounds a change keeps the bounds of a table. -/
theorem apply {statement : Change} (has : c.HasColumns name own extra)
    (within : statement.Within name own extra) : (c.apply statement).HasColumns name own extra := by
  obtain ⟨t, found⟩ := has.find?
  cases statement with
  | createTable _ table columns _ _ _ =>
      rw [Catalogue.apply]
      split
      · exact has
      · rename_i free
        refine has.of_find?_eq (find?_put_of_ne ?_)
        rintro rfl
        exact free (by rw [NameMap.contains, found]; rfl)
  | dropTable _ table => exact has.of_find?_eq (find?_remove_of_ne (Ne.symm within))
  | renameTable _ table target _ =>
      rw [Catalogue.apply, rename]
      split
      · rename_i moved _ free
        refine has.of_find?_eq ?_
        have other : name ≠ target := by
          rintro rfl
          rw [found] at free
          cases free
        rw [find?_put_of_ne other, find?_remove_of_ne (Ne.symm within)]
      · exact has
  | addColumn _ table column _ =>
      refine has.alter fun same t lower upper => ⟨fun other member => ?_, fun other member => ?_⟩
      · exact StoredTable.mem_names_addColumn.mpr (.inr (lower member))
      · rcases StoredTable.mem_names_addColumn.mp member with rfl | there
        · exact List.mem_append_right _ (within same)
        · exact upper there
  | dropColumns _ table columns _ =>
      refine has.alter fun same t lower upper => ⟨fun other member => ?_, fun other member => ?_⟩
      · refine StoredTable.mem_names_dropColumns.mpr ⟨lower member, fun dropped => ?_⟩
        exact within same other dropped member
      · exact upper (StoredTable.mem_names_dropColumns.mp member).1
  | renameColumn _ table source target =>
      refine has.alter fun same t lower upper => ⟨fun other member => ?_, fun other member => ?_⟩
      · refine StoredTable.mem_names_renameColumn (lower member) ?_
        rintro rfl
        exact (within same).1 member
      · rcases StoredTable.of_mem_names_renameColumn member with rfl | there
        · exact List.mem_append_right _ (within same).2
        · exact upper there
  | createIndex _ table index _ _ =>
      rw [Catalogue.apply]
      split
      · exact has
      · exact has.alter fun _ t lower upper => ⟨lower, upper⟩
  | dropIndex _ index =>
      obtain ⟨names, known, lower, upper⟩ := has
      refine ⟨names, ?_, lower, upper⟩
      rw [columnNames?, found] at known
      rw [columnNames?, Catalogue.apply, NameMap.find?_map, found]
      exact known
  | validateConstraint => exact has
  | setNotNull => exact has
  | renameConstraint => exact has
  | createSyncTrigger => exact has
  | dropSyncTrigger => exact has
  | makeVersionSchema => exact has
  | dropVersionSchema => exact has
  | raw => exact has

end HasColumns

end Catalogue

/-! ## Operations that add -/

/-- Whether the operation only adds objects or renames columns. -/
def Operation.isAdditive : Operation → Bool
  | .createTable _ => true
  | .addColumn _ => true
  | .renameColumn _ => true
  | .createIndex _ => true
  | _ => false

/-- The names of columns of a table that the rollback of an operation drops. -/
def Operation.takenBack (table : String) : Operation → List String
  | .addColumn op => if op.table = table then [op.shadow, op.column.name] else []
  | _ => []

/-- No table of the schema has a column under the shadow name of a column that the migration adds to
the table. A server refuses to add such a column. -/
def Migration.LeavesShadows (m : Migration) (schema : Schema) : Prop :=
  ∀ op, .addColumn op ∈ m.operations → ∀ table, schema.table? op.table = some table →
    op.shadow ∉ table.columns.names

section Undo

variable (ctx : PhaseContext) {name : String} {c : Catalogue} {t : StoredTable}

/-- The rollback of an operation takes these names away from a table, and no others. -/
theorem Operation.names_after_undo (op : Operation) (additive : op.isAdditive = true)
    (other : ∀ made, op = .createTable made → made.name ≠ name)
    (found : c.tables.find? name = some t) :
    ∃ held, (c.after (op.undo ctx)).tables.find? name = some held ∧
      ∀ column, column ∈ held.columns.names ↔
        column ∈ t.columns.names ∧ column ∉ op.takenBack name := by
  cases op with
  | createTable op =>
      refine ⟨t, ?_, by simp [takenBack]⟩
      exact (Catalogue.find?_remove_of_ne (Ne.symm (other op rfl))).trans found
  | addColumn op =>
      by_cases same : op.table = name
      · refine ⟨t.dropColumns [op.shadow, op.column.name], ?_, fun column => ?_⟩
        · change (Catalogue.alter c op.table _).tables.find? name = _
          rw [same, Catalogue.find?_alter_self, found]
          rfl
        · rw [StoredTable.mem_names_dropColumns, takenBack, if_pos same]
      · refine ⟨t, ?_, fun column => by simp [takenBack, same]⟩
        exact (Catalogue.find?_alter_of_ne (Ne.symm same)).trans found
  | renameColumn op => exact ⟨t, found, by simp [takenBack]⟩
  | createIndex op =>
      refine ⟨t.dropIndex op.name, ?_, fun column => by simp [takenBack, StoredTable.dropIndex]⟩
      change (NameMap.map _ c.tables).find? name = _
      rw [NameMap.find?_map, found]
      rfl
  | dropTable op => cases additive
  | dropColumn op => cases additive
  | dropIndex op => cases additive
  | rawSql op => cases additive

/-- The rollback of operations, one after the other. -/
theorem names_after_undo {operations : List Operation}
    (additive : ∀ op ∈ operations, op.isAdditive = true)
    (other : ∀ op, .createTable op ∈ operations → op.name ≠ name)
    (found : c.tables.find? name = some t) :
    ∃ held, (c.after (operations.flatMap (Operation.undo ctx))).tables.find? name = some held ∧
      ∀ column, column ∈ held.columns.names ↔
        column ∈ t.columns.names ∧ column ∉ operations.flatMap (Operation.takenBack name) := by
  induction operations generalizing c t with
  | nil => exact ⟨t, found, by simp⟩
  | cons op rest ih =>
      obtain ⟨between, there, first⟩ := op.names_after_undo ctx
        (additive op List.mem_cons_self) (fun made same => other made (same ▸ List.mem_cons_self))
        found
      obtain ⟨held, undone, later⟩ := ih
        (fun op member => additive op (List.mem_cons_of_mem _ member))
        (fun op member => other op (List.mem_cons_of_mem _ member)) there
      refine ⟨held, ?_, fun column => ?_⟩
      · rw [List.flatMap_cons, Catalogue.after_append]
        exact undone
      · rw [later, first, List.flatMap_cons, List.mem_append, not_or, and_assoc]

end Undo

end ExpandContract
