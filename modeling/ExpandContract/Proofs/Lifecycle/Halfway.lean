import ExpandContract.Proofs.Catalogue.Clauses
import ExpandContract.Proofs.Lifecycle.Finishing
import Mathlib.Data.List.Nodup

/-!
# Columns half way through a completion

The starts of operations add their columns under shadow names, all of them before anything is
completed. The completions then go through the operations once more, each with nothing but the
operation, and put one column in its place, rename one or drop one. In between, the table has the
columns that the operations so far have left, under the names that the snapshot exposes by then, and
beside them the shadows of the columns that later operations add (`Halfway`). The check of an
operation says which names it finds taken and free in the snapshot, so its clause finds them in the
table (`Operation.halfway`), and in the end the table is what the checks have left
(`halfway_of_checks`).
-/

set_option autoImplicit false

namespace ExpandContract

open Session Procedure Sql Check

/-! ## Names -/

theorem Sql.shadowColumnName_injective : Function.Injective shadowColumnName := by
  intro first second same
  apply String.toList_injective
  have same := congrArg String.toList same
  simpa [shadowColumnName] using same

/-- The name begins like the names of columns that wait to be put in their place. -/
def Sql.IsShadowName (name : String) : Prop :=
  ∃ column, name = shadowColumnName column

theorem Sql.isShadowName_iff {name : String} :
    IsShadowName name ↔ "_pgshift_new_".toList <+: name.toList := by
  constructor
  · rintro ⟨column, rfl⟩
    exact ⟨column.toList, String.toList_append.symm⟩
  · rintro ⟨rest, same⟩
    refine ⟨String.ofList rest, String.toList_injective ?_⟩
    simp [shadowColumnName, ← same]

instance (name : String) : Decidable (IsShadowName name) :=
  decidable_of_iff _ isShadowName_iff.symm

namespace Operation

/-- The column that the operation adds. -/
def addedColumn : Operation → Option String
  | .addColumn op => some op.column.name
  | _ => none

/-- The names of columns that the operation has. -/
def columnNames : Operation → List String
  | .addColumn op => [op.column.name]
  | .dropColumn op => [op.column]
  | .renameColumn op => [op.source, op.target]
  | _ => []

/-- The clauses of the completion of an operation. -/
def completionClauses : Operation → List ColumnClause
  | .addColumn op => [.rename op.shadow op.column.name]
  | .dropColumn op => [.drop op.column]
  | .renameColumn op => [.rename op.source op.target]
  | _ => []

end Operation

/-- The names under which columns wait that operations add. -/
def shadowNames (operations : List Operation) : List String :=
  (operations.filterMap Operation.addedColumn).map shadowColumnName

theorem shadowNames_cons (op : Operation) (rest : List Operation) :
    shadowNames (op :: rest) = shadowNames [op] ++ shadowNames rest := by
  rw [← List.singleton_append, shadowNames, List.filterMap_append, List.map_append]
  rfl

theorem isShadowName_of_mem_shadowNames {operations : List Operation} {name : String}
    (member : name ∈ shadowNames operations) : IsShadowName name := by
  obtain ⟨column, _, rfl⟩ := List.mem_map.mp member
  exact ⟨column, rfl⟩

theorem nodup_shadowNames {operations : List Operation}
    (once : (operations.filterMap Operation.addedColumn).Nodup) : (shadowNames operations).Nodup :=
  List.Nodup.map shadowColumnName_injective once

/-! ## The columns behind those that are exposed -/

/-- No column has a name like those of columns that wait. -/
def Unshadowed (columns : NameMap String) : Prop :=
  ∀ name, IsShadowName name → columns.find? name = none

namespace Table

/-- The names of the columns, taken for those of physical columns that have not been renamed. -/
def ownColumns (t : Table) : NameMap String :=
  t.columns.map fun name _ => name

/-- The physical name behind each exposed name. -/
def behind (t : Table) : NameMap String :=
  t.columns.map fun _ column => column.name

/-- Every column is exposed under its physical name, and none has a name like those of columns that
wait. -/
def Settled (t : Table) : Prop :=
  ∀ entry ∈ t.columns.entries, entry.2.name = entry.1 ∧ ¬IsShadowName entry.1

instance (t : Table) : Decidable t.Settled :=
  inferInstanceAs (Decidable (∀ entry ∈ t.columns.entries, _))

variable {t : Table} {name : String}

theorem find?_behind : t.behind.find? name = (t.column? name).map (·.name) :=
  NameMap.find?_map ..

theorem find?_behind_eq_none : t.behind.find? name = none ↔ t.column? name = none := by
  rw [find?_behind, Option.map_eq_none_iff]

/-- The columns behind the exposed names of a settled table are the columns of these names. -/
theorem Settled.ownColumns_eq_behind (settled : t.Settled) : t.ownColumns = t.behind := by
  refine NameMap.ext_find? fun name => ?_
  rw [ownColumns, NameMap.find?_map, find?_behind]
  change (t.column? name).map _ = _
  cases found : t.column? name with
  | none => rfl
  | some column =>
      exact congrArg some (settled _ (NameMap.mem_entries_iff.mpr found)).1.symm

theorem Settled.unshadowed (settled : t.Settled) : Unshadowed t.behind := by
  intro name shadow
  refine find?_behind_eq_none.mpr (Option.eq_none_iff_forall_ne_some.mpr fun column found => ?_)
  exact (settled _ (NameMap.mem_entries_iff.mpr found)).2 shadow

/-- Whatever its position, a column that is exposed is behind its name. -/
theorem behind_exposeColumn (column : Column) :
    (t.exposeColumn name column).behind = t.behind.insert name column.name := by
  unfold exposeColumn
  split <;> exact NameMap.map_insert ..

theorem behind_hideColumn : (t.hideColumn name).behind = t.behind.erase name :=
  NameMap.map_erase ..

theorem behind_renameColumn (source target : String) (column : Column) :
    behind { t with columns := (t.columns.erase source).insert target column } =
      (t.behind.erase source).insert target column.name := by
  rw [behind, NameMap.map_insert, NameMap.map_erase]
  rfl

end Table

/-! ## The completion, operation by operation -/

section Completion

variable {name : String} {before after : Schema} {columns : NameMap String} {rest : List Operation}

/-- A completion has come to the remaining operations: the table has the columns behind those that
the snapshot exposes, under their exposed names, and beside them the columns that wait for these
operations. -/
def Halfway (name : String) (rest : List Operation) (schema : Schema) (columns : NameMap String) :
    Prop :=
  ∃ table, schema.table? name = some table ∧ Unshadowed table.behind ∧
    Beside (shadowNames rest) table.behind columns

theorem ne_of_isShadowName {other : String} (plain : ¬IsShadowName name)
    (shadow : IsShadowName other) : other ≠ name := by
  rintro rfl
  exact plain shadow

theorem Unshadowed.insert {known : NameMap String} {origin : String} (unshadowed : Unshadowed known)
    (plain : ¬IsShadowName name) : Unshadowed (known.insert name origin) := by
  intro other shadow
  rw [NameMap.find?_insert_of_ne _ (ne_of_isShadowName plain shadow)]
  exact unshadowed other shadow

theorem Unshadowed.erase {known : NameMap String} (unshadowed : Unshadowed known) :
    Unshadowed (known.erase name) := by
  intro other shadow
  by_cases same : other = name
  · rw [same, NameMap.find?_erase_self]
  · rw [NameMap.find?_erase_of_ne _ same]
    exact unshadowed other shadow

/-- The column that an operation adds is put in its place. -/
theorem AddColumn.halfway (op : AddColumn) (plain : ¬IsShadowName op.column.name)
    (once : op.shadow ∉ shadowNames rest) (checked : op.check.Passes before () after)
    (halfway : Halfway op.table (.addColumn op :: rest) before columns) :
    ∃ next, ColumnClause.replay? columns (Operation.addColumn op).completionClauses = some next ∧
      Halfway op.table rest after next := by
  obtain ⟨_, _, table, found, free, _, _, _, rfl⟩ := op.passes_check.mp checked
  obtain ⟨_, shown, unshadowed, beside⟩ := halfway
  cases found.symm.trans shown
  have own : op.column.name ∉ op.shadow :: shadowNames rest := by
    rintro member
    rcases List.mem_cons.mp member with same | among
    · exact plain ⟨_, same⟩
    · exact plain (isShadowName_of_mem_shadowNames among)
  obtain ⟨next, applied, result⟩ := beside.put once (unshadowed _ ⟨_, rfl⟩)
    (Table.find?_behind_eq_none.mpr free) own
  have behind : (op.extend table).behind = table.behind.insert op.column.name op.shadow :=
    Table.behind_exposeColumn _
  refine ⟨next, (ColumnClause.replay?_singleton ..).trans applied, op.extend table,
    NameMap.find?_insert_self .., ?_, ?_⟩
  · exact behind ▸ unshadowed.insert plain
  · exact behind ▸ result

/-- A column that is renamed or dropped is found beside those that wait. -/
theorem halfway_of_clause {op : Operation} {clause : ColumnClause} {table shown : Table}
    (single : op.completionClauses = [clause]) (adds : op.addedColumn = none)
    (plain : ∀ column ∈ clause.names, ¬IsShadowName column)
    (found : before.table? name = some table) (changed : after.table? name = some shown)
    (applied : clause.step? table.behind = some shown.behind)
    (unshadowed : Unshadowed shown.behind)
    (halfway : Halfway name (op :: rest) before columns) :
    ∃ next, ColumnClause.replay? columns op.completionClauses = some next ∧
      Halfway name rest after next := by
  obtain ⟨_, found', _, beside⟩ := halfway
  cases found.symm.trans found'
  have same : shadowNames (op :: rest) = shadowNames rest := by simp [shadowNames, adds]
  rw [same] at beside
  obtain ⟨next, done, result⟩ := beside.step?
    (fun column member among => plain column member (isShadowName_of_mem_shadowNames among)) applied
  refine ⟨next, ?_, shown, changed, unshadowed, result⟩
  rw [single, ColumnClause.replay?_singleton, done]

theorem DropColumn.halfway (op : DropColumn) (plain : ¬IsShadowName op.column)
    (checked : op.check.Passes before () after)
    (halfway : Halfway op.table (.dropColumn op :: rest) before columns) :
    ∃ next, ColumnClause.replay? columns (Operation.dropColumn op).completionClauses = some next ∧
      Halfway op.table rest after next := by
  obtain ⟨table, found, there, rfl⟩ := op.passes_check.mp checked
  have ⟨_, shown, unshadowed, _⟩ := halfway
  cases found.symm.trans shown
  have behind : (table.hideColumn op.column).behind = table.behind.erase op.column :=
    Table.behind_hideColumn
  refine halfway_of_clause rfl rfl ?_ found (NameMap.find?_insert_self ..) ?_
    (behind ▸ unshadowed.erase) halfway
  · simpa [ColumnClause.names] using plain
  · exact ColumnClause.step?_drop_eq_some.mpr ⟨mt Table.find?_behind_eq_none.mp there, behind⟩

theorem RenameColumn.halfway (op : RenameColumn) (plainSource : ¬IsShadowName op.source)
    (plainTarget : ¬IsShadowName op.target) (checked : op.check.Passes before () after)
    (halfway : Halfway op.table (.renameColumn op :: rest) before columns) :
    ∃ next, ColumnClause.replay? columns (Operation.renameColumn op).completionClauses = some next ∧
      Halfway op.table rest after next := by
  obtain ⟨_, renamed⟩ := op.passes_check.mp checked
  obtain ⟨table, column, found, free, there, rfl⟩ := op.rename_eq_ok.mp renamed
  have ⟨_, shown, unshadowed, _⟩ := halfway
  cases found.symm.trans shown
  have behind := table.behind_renameColumn op.source op.target column
  refine halfway_of_clause rfl rfl ?_ found (NameMap.find?_insert_self ..) ?_
    (behind ▸ unshadowed.erase.insert plainTarget) halfway
  · simpa [ColumnClause.names] using ⟨plainSource, plainTarget⟩
  · refine ColumnClause.step?_rename_eq_some.mpr ⟨column.name, ?_, ?_, behind⟩
    · rw [Table.find?_behind, there]
      rfl
    · exact Table.find?_behind_eq_none.mpr free

/-- The completion of an operation finds the columns that it needs, beside those that wait for the
operations after it. -/
theorem Operation.halfway (op : Operation) (reshapes : op.reshapes = some name)
    (plain : ∀ column ∈ op.columnNames, ¬IsShadowName column)
    (once : (shadowNames (op :: rest)).Nodup) (checked : op.check.Passes before () after)
    (halfway : Halfway name (op :: rest) before columns) :
    ∃ next, ColumnClause.replay? columns op.completionClauses = some next ∧
      Halfway name rest after next := by
  cases op with
  | addColumn op =>
      cases reshapes
      exact op.halfway (plain _ List.mem_cons_self) (List.nodup_cons.mp once).1 checked halfway
  | dropColumn op =>
      cases reshapes
      exact op.halfway (plain _ List.mem_cons_self) checked halfway
  | renameColumn op =>
      cases reshapes
      exact op.halfway (plain _ List.mem_cons_self)
        (plain _ (List.mem_cons_of_mem _ List.mem_cons_self)) checked halfway
  | _ => cases reshapes

/-- The completions of operations, one after the other. -/
theorem halfway_of_checks {alone : Bool} {operations : List Operation}
    (reshape : ∀ op ∈ operations, op.reshapes = some name)
    (plain : ∀ op ∈ operations, ∀ column ∈ op.columnNames, ¬IsShadowName column)
    (once : (shadowNames operations).Nodup)
    (checked : (checkOperations alone operations).Passes before () after)
    (halfway : Halfway name operations before columns) :
    ∃ next, ColumnClause.replay? columns (operations.flatMap Operation.completionClauses) =
        some next ∧ Halfway name [] after next := by
  induction operations generalizing before columns with
  | nil =>
      cases passes_checkOperations_nil.mp checked
      exact ⟨columns, rfl, halfway⟩
  | cons op rest ih =>
      obtain ⟨_, between, first, others⟩ := passes_checkOperations_cons.mp checked
      obtain ⟨reshapes, reshape⟩ := List.forall_mem_cons.mp reshape
      obtain ⟨plainNow, plainLater⟩ := List.forall_mem_cons.mp plain
      have onceLater : (shadowNames rest).Nodup :=
        (shadowNames_cons op rest ▸ once).of_append_right
      obtain ⟨next, replayed, halfwayThen⟩ := op.halfway reshapes plainNow once first halfway
      obtain ⟨last, done, finished⟩ := ih reshape plainLater onceLater others halfwayThen
      refine ⟨last, ?_, finished⟩
      rw [List.flatMap_cons, ColumnClause.replay?_append, replayed]
      exact done

end Completion

/-! ## The clauses of a start and of a completion -/

section Clauses

variable {ctx : PhaseContext} {name : String} {before after : Schema} {op : Operation}
  {changes : List Change}

theorem Operation.clauses_of_expands (reshapes : op.reshapes = some name)
    (expands : op.Expands ctx changes) :
    changes.flatMap (Change.clauses name) = (shadowNames [op]).map .add := by
  cases expands with
  | addColumn named plain =>
      cases reshapes
      simp [Change.clauses, shadowNames, Operation.addedColumn, named, AddColumn.shadow]
  | fillColumn named computed =>
      cases reshapes
      simp [Change.clauses, shadowNames, Operation.addedColumn, named, AddColumn.shadow]
  | hideColumn | dropColumn | renameColumn =>
      simp [Change.clauses, shadowNames, Operation.addedColumn]
  | _ => cases reshapes

/-- The starts of operations add the columns that wait. -/
theorem clauses_of_unfolds {operations : List Operation}
    (reshape : ∀ op ∈ operations, op.reshapes = some name)
    (unfolds : Unfolds ctx before operations changes after) :
    changes.flatMap (Change.clauses name) = (shadowNames operations).map .add := by
  induction unfolds with
  | nil => rfl
  | @cons _ _ _ op rest _ _ checked expands others ih =>
      obtain ⟨reshapes, reshape⟩ := List.forall_mem_cons.mp reshape
      rw [List.flatMap_append, Operation.clauses_of_expands reshapes expands, ih reshape,
        shadowNames_cons op rest, List.map_append]

theorem Operation.clauses_of_preparation (op : Operation) :
    (op.preparation ctx).flatMap (Change.clauses name) = [] := by
  cases op with
  | addColumn op => simp [preparation, AddColumn.preparation, Change.clauses]
  | _ => rfl

theorem clauses_guarded {condition : Prop} [Decidable condition] {statement : Change}
    (blind : statement.clauses name = []) :
    (if condition then [statement] else []).flatMap (Change.clauses name) = [] := by
  split
  · rw [List.flatMap_singleton, blind]
  · rfl

theorem Operation.clauses_of_contraction (reshapes : op.reshapes = some name) :
    (op.contraction ctx).flatMap (Change.clauses name) = op.completionClauses := by
  cases op with
  | addColumn op =>
      cases reshapes
      rw [contraction, AddColumn.contraction, List.flatMap_append, List.flatMap_cons,
        List.flatMap_append, clauses_guarded rfl, clauses_guarded rfl, clauses_guarded rfl]
      simp [Change.clauses, completionClauses]
  | dropColumn op =>
      cases reshapes
      rw [contraction, DropColumn.contraction, List.flatMap_append, List.flatMap_singleton,
        clauses_guarded rfl]
      simp [Change.clauses, completionClauses]
  | renameColumn op =>
      cases reshapes
      simp [contraction, Change.clauses, completionClauses]
  | _ => cases reshapes

end Clauses

end ExpandContract
