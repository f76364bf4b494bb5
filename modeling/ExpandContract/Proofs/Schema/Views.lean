import ExpandContract.Proofs.Schema.Ordering
import ExpandContract.Proofs.Sql.Statements

/-!
# The views of a version schema

A version schema has one view for each table that has columns, and the view selects each exposed
column of the table once, from its physical column and in the order of the table
(`View.Shows`, `Schema.shows_views`). Its text says no more and no less: it is read back as the drop
and the creation of the version schema and of these views, whatever characters the names hold
(`Schema.version_reads`). So snapshots that show anything different have different texts.
-/

set_option autoImplicit false

namespace ExpandContract

open Sql

/-! ## The tables that are shown -/

/-- The view has the exposed name of the table, and selects each exposed column of the physical
table once, from its physical column and in the order of the table. -/
structure Sql.View.Shows (view : View) (exposed : String) (t : Table) : Prop where
  name : view.name = exposed
  table : view.table = t.name
  columns : ∃ order : List (String × Column), order.Perm t.columns.entries ∧
    order.Pairwise Table.Precedes ∧
      view.columns = order.map fun column => (column.2.name, column.1)

theorem Table.shows_view (t : Table) (exposed : String) : (t.view exposed).Shows exposed t where
  name := rfl
  table := rfl
  columns := ⟨t.orderedColumns, t.perm_orderedColumns, t.precedes_orderedColumns, rfl⟩

namespace Schema

/-- The tables that have columns, in the order of their exposed names. -/
def shownTables (s : Schema) : List (String × Table) :=
  s.tables.entries.filter fun entry => !entry.2.columns.isEmpty

theorem mem_shownTables {s : Schema} {exposed : String} {t : Table} :
    (exposed, t) ∈ s.shownTables ↔ s.table? exposed = some t ∧ t.columns.isEmpty = false := by
  rw [shownTables, List.mem_filter, NameMap.mem_entries_iff, Bool.not_eq_true']
  rfl

theorem sorted_shownTables (s : Schema) : s.shownTables.Pairwise fun a b => a.1 < b.1 :=
  s.tables.sorted.filter _

theorem isEmpty_columns_view (t : Table) (exposed : String) :
    (t.view exposed).columns.isEmpty = t.columns.isEmpty := by
  rw [Table.view, List.isEmpty_map, t.perm_orderedColumns.isEmpty_eq]
  rfl

theorem views_eq (s : Schema) : s.views = s.shownTables.map fun entry => entry.2.view entry.1 := by
  rw [views, List.filter_map, shownTables]
  refine congrArg _ (List.filter_congr fun entry _ => ?_)
  exact congrArg _ (isEmpty_columns_view entry.2 entry.1)

/-- There is one view for each table that has columns, in the order of the exposed names. -/
theorem shows_views (s : Schema) :
    List.Forall₂ (fun entry view => view.Shows entry.1 entry.2) s.shownTables s.views := by
  rw [views_eq, List.forall₂_map_right_iff]
  exact List.forall₂_same.mpr fun entry _ => entry.2.shows_view entry.1

/-- The text of a version schema is read as the statements that drop and create it, and one
statement for each view. The views are those of the tables that have columns, one for each of them
and in the order of the exposed names. Every name is read back as it is, whatever characters it
holds. So texts are the same only where the names of the version schemas and all their views are
the same, and, if there is a view at all, also the schema of the tables and whose rights the views
are read with. -/
theorem version_reads (s : Schema) (name : String) (securityInvoker : Bool) :
    statements (s.version name securityInvoker).text =
      dropTokens name :: createTokens name ::
        s.views.map (s.version name securityInvoker).viewTokens ∧
    List.Forall₂ (fun entry view => view.Shows entry.1 entry.2) s.shownTables s.views ∧
    (s.shownTables.Pairwise (fun a b => a.1 < b.1) ∧ ∀ exposed t,
      (exposed, t) ∈ s.shownTables ↔ s.table? exposed = some t ∧ t.columns.isEmpty = false) ∧
    (statements (s.version name securityInvoker).text).map names =
      [name] :: [name] :: s.views.map (fun view =>
        name :: view.name :: (view.columns.flatMap fun column => [column.1, column.2]) ++
          [s.name, view.table]) ∧
    ∀ (other : Schema) (otherName : String) (otherInvoker : Bool),
      (other.version otherName otherInvoker).text = (s.version name securityInvoker).text →
        otherName = name ∧ other.views = s.views ∧
          (s.views ≠ [] → other.name = s.name ∧ otherInvoker = securityInvoker) := by
  have read := VersionSchema.statements_text (s.version name securityInvoker)
  refine ⟨read, s.shows_views, ⟨s.sorted_shownTables, fun _ _ => mem_shownTables⟩, ?_, ?_⟩
  · rw [read, List.map_cons, List.map_cons, VersionSchema.names_dropTokens,
      VersionSchema.names_createTokens, List.map_map]
    refine congrArg _ (congrArg _ (List.map_congr_left fun view _ => ?_))
    exact VersionSchema.names_viewTokens _ view
  · intro other otherName otherInvoker same
    obtain ⟨named, views, whole⟩ := VersionSchema.eq_of_text same
    refine ⟨named, views, fun some => ?_⟩
    obtain ⟨_, source, _, option⟩ := VersionSchema.mk.inj (whole (views ▸ some))
    exact ⟨source, option⟩

/-- A table whose exposed name looks like the end of a statement. -/
def misleading : Schema :=
  (Schema.ofName "public").exposeTable "a\"; b" ((Table.ofName "a").withColumn (.ofType "c" "int"))

/-- There is still one view, of one column. -/
example : (statements (misleading.version "v" false).text).map names =
    [["v"], ["v"], ["v", "a\"; b", "c", "c", "public", "a"]] := by
  decide +kernel

end Schema

end ExpandContract
