import ExpandContract.Proofs.Catalogue.Columns
import ExpandContract.Proofs.Catalogue.Mirroring
import Mathlib.Data.List.Basic

/-!
# Columns that have been added

A server makes a table, renames one or adds a column only if the names that are needed are free
(`Catalogue.Allows`). Where it has accepted nothing else, the columns that have been made can be
told from the changes alone, without the tables: `madeColumns` reads them off the steps that the
changes take. A name that no column had in the beginning is then the name of a column of a table
just if it is among the made ones (`Catalogue.Accounts.after`).
-/

set_option autoImplicit false

namespace ExpandContract

open Sql (Change ColumnSpec)

theorem NameMap.mem_names_ofList {α : Type} {entries : List (String × α)} {name : String} :
    name ∈ (NameMap.ofList entries).names ↔ name ∈ entries.map (·.1) := by
  have inserted (m : NameMap α) :
      name ∈ (entries.foldl (fun m entry => m.insert entry.1 entry.2) m).names ↔
        name ∈ entries.map (·.1) ∨ name ∈ m.names := by
    induction entries generalizing m with
    | nil => simp
    | cons entry rest ih =>
        rw [List.foldl_cons, ih, List.map_cons, List.mem_cons, NameMap.mem_names, NameMap.mem_names]
        by_cases same : name = entry.1
        · simp [same]
        · simp [NameMap.find?_insert_of_ne m same, same]
  exact (inserted .empty).trans (or_iff_left nofun)

/-! ## Changes that a server accepts -/

namespace Catalogue

/-- There is a table of that name, and it has the column. -/
def HasColumn (c : Catalogue) (table column : String) : Prop :=
  ∃ t, c.tables.find? table = some t ∧ column ∈ t.columns.names

instance (c : Catalogue) (name : String) : Decidable (c.Has name) :=
  decidable_of_iff ((c.tables.find? name).isSome = true) Option.isSome_iff_exists

instance (c : Catalogue) (table column : String) : Decidable (c.HasColumn table column) :=
  decidable_of_iff ((c.tables.find? table).any (column ∈ ·.columns.names) = true)
    (by simp [HasColumn, Option.any_eq_true])

/-- The names that the change needs are free, and the table that it changes is there. This is what a
server asks for when a start makes or renames something. -/
def Allows (c : Catalogue) : Change → Prop
  | .createTable _ table _ _ _ _ => ¬c.Has table
  | .renameTable _ table target false => c.Renames table target
  | .addColumn _ table column _ => c.Has table ∧ ¬c.HasColumn table column.name
  | _ => True

/-- The changes can be made one after the other. -/
def Allowed (c : Catalogue) : List Change → Prop
  | [] => True
  | statement :: rest => c.Allows statement ∧ (c.apply statement).Allowed rest

variable {c : Catalogue} {first rest : List Change}

theorem allowed_append :
    c.Allowed (first ++ rest) ↔ c.Allowed first ∧ (c.after first).Allowed rest := by
  induction first generalizing c with
  | nil => simp [Allowed, after]
  | cons statement first ih =>
      rw [List.cons_append, Allowed, Allowed, ih, and_assoc]
      rfl

end Catalogue

/-! ## Steps -/

/-- What a change does to the names of tables and of the columns that they have. -/
inductive ColumnStep where
  | created (table : String) (columns : List String)
  | renamed (source target : String)
  | added (table column : String)
  /-- Something is taken away, brought back or put in its place, which is not for a start to do. -/
  | other
deriving DecidableEq, Repr

/-- The step that the change takes, if it takes one. -/
def Sql.Change.columnStep? : Change → Option ColumnStep
  | .createTable _ table columns _ _ _ => some (.created table (columns.map (·.name)))
  | .renameTable _ table target ifExists =>
      if ifExists then some .other else some (.renamed table target)
  | .addColumn _ table column _ => some (.added table column.name)
  | .dropTable _ _ => some .other
  | .dropColumns _ _ _ _ => some .other
  | .renameColumn _ _ _ _ => some .other
  | _ => none

/-- The columns that have been made in each table after one step more. -/
def ColumnStep.make (made : String → List String) : ColumnStep → String → List String
  | .created table columns => fun name => if name = table then columns else made name
  | .renamed source target => fun name =>
      if name = target then made source else if name = source then [] else made name
  | .added table column => fun name => if name = table then made name ++ [column] else made name
  | .other => made

/-- The columns that have been made in each table after all steps. -/
def madeColumns (steps : List ColumnStep) : String → List String :=
  steps.foldl ColumnStep.make fun _ => []

theorem Sql.Change.columnStep?_of_neutral {statement : Change} (neutral : statement.Neutral) :
    statement.columnStep? = none := by
  cases statement with
  | makeVersionSchema | dropVersionSchema | raw => rfl
  | _ => exact neutral.elim

theorem Sql.Change.eq_of_added {statement : Change} {table column : String}
    (step : statement.columnStep? = some (.added table column)) :
    ∃ schema spec checks, statement = .addColumn schema table spec checks ∧ spec.name = column := by
  cases statement with
  | addColumn schema table spec checks =>
      cases step
      exact ⟨schema, spec, checks, rfl, rfl⟩
  | renameTable _ _ _ ifExists => cases ifExists <;> cases step
  | _ => cases step

namespace Catalogue

variable {c d : Catalogue} {table column name : String} {made : String → List String}
  {statement : Change} {changes : List Change}

/-! ## Which columns are there -/

theorem hasColumn_of_find?_eq (same : d.tables.find? name = c.tables.find? name) :
    d.HasColumn name column ↔ c.HasColumn name column := by
  unfold HasColumn
  rw [same]

theorem hasColumn_alter {f : StoredTable → StoredTable} :
    (c.alter table f).HasColumn name column ↔
      if name = table then ∃ t, c.tables.find? table = some t ∧ column ∈ (f t).columns.names
      else c.HasColumn name column := by
  split
  · rename_i same
    subst same
    unfold HasColumn
    rw [find?_alter_self]
    simp
  · rename_i different
    exact hasColumn_of_find?_eq (find?_alter_of_ne different)

/-- In each table there is the column just if it is among those that have been made there. -/
def Accounts (c : Catalogue) (column : String) (made : String → List String) : Prop :=
  ∀ table, c.HasColumn table column ↔ column ∈ made table

namespace Accounts

/-- In the beginning no table has the column. -/
theorem ofSchema {schema : Schema}
    (none : ∀ name t, schema.table? name = some t → column ∉ t.columns.names) :
    (ofSchema schema).Accounts column fun _ => [] := by
  refine fun table => iff_of_false ?_ List.not_mem_nil
  rintro ⟨t, found, member⟩
  rw [Catalogue.ofSchema, NameMap.find?_map] at found
  obtain ⟨source, there, rfl⟩ := Option.map_eq_some_iff.mp found
  exact none table source there (NameMap.names_map .. ▸ member)

/-- A change that makes or renames something, and can be made. -/
theorem apply (accounts : c.Accounts column made) (allows : c.Allows statement)
    (starts : statement.columnStep? ≠ some .other) :
    (c.apply statement).Accounts column
      (statement.columnStep?.toList.foldl ColumnStep.make made) := by
  intro name
  cases statement with
  | createTable _ table columns _ _ _ =>
      have free : c.tables.contains table = false := by
        rw [NameMap.contains, not_has.mp allows]
        rfl
      change (if c.tables.contains table then c else c.put table (.ofSpecs columns)).HasColumn _ _ ↔
        column ∈ if name = table then columns.map (·.name) else made name
      rw [if_neg (by simp [free])]
      split
      · rename_i same
        subst same
        unfold HasColumn
        rw [find?_put_self]
        simp [StoredTable.ofSpecs, NameMap.mem_names_ofList]
      · rename_i different
        rw [hasColumn_of_find?_eq (find?_put_of_ne different)]
        exact accounts name
  | renameTable _ source target ifExists =>
      cases ifExists with
      | true => exact absurd rfl starts
      | false =>
          have renames : c.Renames source target := allows
          change (c.rename source target).HasColumn _ _ ↔ column ∈ if name = target then made source
            else if name = source then [] else made name
          split
          · rename_i same
            subst same
            unfold HasColumn
            rw [find?_rename_target renames]
            exact accounts source
          · rename_i notTarget
            split
            · rename_i same
              subst same
              unfold HasColumn
              rw [find?_rename_source renames]
              simp
            · rename_i notSource
              rw [hasColumn_of_find?_eq (find?_rename_of_ne notSource notTarget)]
              exact accounts name
  | addColumn _ table spec _ =>
      obtain ⟨⟨t, found⟩, _⟩ : c.Has table ∧ _ := allows
      change (c.alter table fun t => t.addColumn spec.name).HasColumn _ _ ↔
        column ∈ if name = table then made name ++ [spec.name] else made name
      rw [hasColumn_alter]
      split
      · rename_i same
        subst same
        have before := accounts name
        simp only [HasColumn, found, Option.some.injEq, exists_eq_left'] at before ⊢
        rw [StoredTable.mem_names_addColumn, before, List.mem_append, List.mem_singleton, or_comm]
      · exact accounts name
  | createIndex _ table index _ _ =>
      change (if c.hasIndex index then c
        else c.alter table fun t => t.addIndex index).HasColumn _ _ ↔ _
      split
      · exact accounts name
      · rw [hasColumn_alter]
        split
        · rename_i same
          subst same
          exact accounts name
        · exact accounts name
  | dropIndex _ index =>
      refine Iff.trans ?_ (accounts name)
      unfold HasColumn Catalogue.apply
      rw [NameMap.find?_map]
      simp [StoredTable.dropIndex]
  | dropTable | dropColumns | renameColumn => exact absurd rfl starts
  | validateConstraint | setNotNull | renameConstraint | createSyncTrigger | dropSyncTrigger
  | makeVersionSchema | dropVersionSchema | raw => exact accounts name

/-- Changes that make or rename something, as long as they can be made. -/
theorem after (accounts : c.Accounts column made) (allowed : c.Allowed changes)
    (starts : .other ∉ changes.filterMap Change.columnStep?) :
    (c.after changes).Accounts column
      ((changes.filterMap Change.columnStep?).foldl ColumnStep.make made) := by
  induction changes generalizing c made with
  | nil => exact accounts
  | cons statement rest ih =>
      obtain ⟨allows, later⟩ := allowed
      rw [List.filterMap_eq_flatMap_toList, List.flatMap_cons,
        ← List.filterMap_eq_flatMap_toList] at starts ⊢
      rw [List.mem_append, Option.mem_toList, not_or] at starts
      rw [List.foldl_append]
      exact ih (accounts.apply allows starts.1) later starts.2

end Accounts

end Catalogue

end ExpandContract
