import ExpandContract.Proofs.Catalogue.Basic
import ExpandContract.Proofs.Migration.Requests
import Mathlib.Logic.Function.Iterate

/-!
# Changes that spare what was there

The undoing of an operation drops what has the name that the operation gave to its object. Whether
that is the object that the operation has made depends on the names alone. A table is renamed when
it is dropped and when the drop is undone, so a name may turn into another one by parking
(`Sql.Akin`). A migration is fresh for a catalogue if nothing in the catalogue has a name that the
migration gives to a new object, up to such turns (`Fresh`).

The changes of a fresh migration, made and undone in whatever order, leave every object of the
catalogue in place (`spared_of_starts`, `spared_of_undo`): a table keeps its name up to parking, and
what it had keeps its name altogether (`Spared`).
-/

set_option autoImplicit false

namespace ExpandContract

open Sql (Change parkedName)

/-! ## Names up to parking -/

/-- Each of the names is some name, parked any number of times. -/
def Sql.Akin (first second : String) : Prop :=
  ∃ name i j, first = parkedName^[i] name ∧ second = parkedName^[j] name

theorem Sql.Akin.refl (name : String) : Sql.Akin name name :=
  ⟨name, 0, 0, rfl, rfl⟩

/-- A parked name comes from one name only. -/
theorem Sql.parkedName_injective : Function.Injective parkedName := by
  intro first second same
  apply String.toList_injective
  have same := congrArg String.toList same
  simpa [parkedName] using same

theorem Sql.Akin.park {first second : String} (akin : Sql.Akin first second) :
    Sql.Akin (parkedName first) second := by
  obtain ⟨name, i, j, rfl, rfl⟩ := akin
  exact ⟨name, i + 1, j, (Function.iterate_succ_apply' parkedName i name).symm, rfl⟩

theorem Sql.Akin.unpark {first second : String} (akin : Sql.Akin (parkedName first) second) :
    Sql.Akin first second := by
  obtain ⟨name, i, j, same, rfl⟩ := akin
  cases i with
  | zero =>
      have same : parkedName first = name := same
      subst same
      exact ⟨first, 0, j + 1, rfl, rfl⟩
  | succ i =>
      rw [Function.iterate_succ_apply'] at same
      exact ⟨name, i, j, Sql.parkedName_injective same, rfl⟩

/-- Names that are not parked are akin if they are the same. -/
theorem Sql.Akin.eq_of_not_parked {first second : String} (akin : Sql.Akin first second)
    (firstFree : ∀ name, first ≠ parkedName name) (secondFree : ∀ name, second ≠ parkedName name) :
    first = second := by
  obtain ⟨name, i, j, rfl, rfl⟩ := akin
  have none {k : Nat} (free : ∀ other, parkedName^[k] name ≠ parkedName other) : k = 0 := by
    cases k with
    | zero => rfl
    | succ k => exact absurd (Function.iterate_succ_apply' parkedName k name) (free _)
  rw [none firstFree, none secondFree]

/-! ## Fresh migrations -/

/-- Nothing in the catalogue has a name under which the migration makes an object. -/
structure Fresh (c : Catalogue) (m : Migration) : Prop where
  tables : ∀ op, .createTable op ∈ m.operations → ∀ name, Sql.Akin op.name name →
    c.tables.find? name = none
  columns : ∀ op, .addColumn op ∈ m.operations → ∀ name, Sql.Akin op.table name →
    ∀ table, c.tables.find? name = some table →
      table.columns.find? op.column.name = none ∧ table.columns.find? op.shadow = none
  indexes : ∀ op, .createIndex op ∈ m.operations → ∀ name table,
    c.tables.find? name = some table → table.indexes.find? op.name = none

/-! ## What is spared -/

/-- Every table of the first catalogue is in the second one under a name akin to its own, and all
that it had is there under the names it had. -/
def Spared (first second : Catalogue) : Prop :=
  ∀ name table, first.tables.find? name = some table →
    ∃ place held, second.tables.find? place = some held ∧ Sql.Akin place name ∧ table.PartOf held

variable {before c : Catalogue} {m : Migration} {ctx : PhaseContext} {op : Operation}
  {statement : Change}

namespace Spared

theorem refl (c : Catalogue) : Spared c c :=
  fun name table found => ⟨name, table, found, .refl name, .refl table⟩

theorem keeps (spared : Spared before c) : before.Keeps c := by
  intro name table found
  obtain ⟨place, held, there, _, part⟩ := spared name table found
  exact ⟨place, held, there, part.keeps⟩

/-- A new table takes the place of none. -/
theorem create (spared : Spared before c) (name : String) (t : StoredTable) :
    Spared before (if c.tables.contains name then c else c.put name t) := by
  split
  · exact spared
  · rename_i free
    intro relic table found
    obtain ⟨place, held, there, akin, part⟩ := spared relic table found
    have other : place ≠ name := by
      rintro rfl
      exact free (by rw [NameMap.contains, there]; rfl)
    exact ⟨place, held, (Catalogue.find?_put_of_ne other).trans there, akin, part⟩

/-- A table that is removed is none of those before, if no name akin to its own was taken. -/
theorem remove (spared : Spared before c) {name : String}
    (free : ∀ relic, Sql.Akin name relic → before.tables.find? relic = none) :
    Spared before (c.remove name) := by
  intro relic table found
  obtain ⟨place, held, there, akin, part⟩ := spared relic table found
  have other : place ≠ name := by
    rintro rfl
    rw [free relic akin] at found
    cases found
  exact ⟨place, held, (Catalogue.find?_remove_of_ne other).trans there, akin, part⟩

/-- A table that is renamed stays the same table. -/
theorem rename (spared : Spared before c) {source target : String}
    (turns : ∀ relic, Sql.Akin source relic → Sql.Akin target relic) :
    Spared before (c.rename source target) := by
  unfold Catalogue.rename
  split
  · rename_i moved isThere free
    intro relic table found
    obtain ⟨place, held, there, akin, part⟩ := spared relic table found
    by_cases same : place = source
    · subst same
      rw [isThere] at there
      cases there
      exact ⟨target, moved, Catalogue.find?_put_self, turns relic akin, part⟩
    · have other : place ≠ target := by
        rintro rfl
        rw [free] at there
        cases there
      refine ⟨place, held, ?_, akin, part⟩
      rw [Catalogue.find?_put_of_ne other, Catalogue.find?_remove_of_ne same, there]
  · exact spared

/-- A table may be altered as long as it keeps what it had before. -/
theorem alter (spared : Spared before c) {name : String} {f : StoredTable → StoredTable}
    (keeps : ∀ relic table held, before.tables.find? relic = some table → Sql.Akin name relic →
      c.tables.find? name = some held → table.PartOf held → table.PartOf (f held)) :
    Spared before (c.alter name f) := by
  intro relic table found
  obtain ⟨place, held, there, akin, part⟩ := spared relic table found
  by_cases same : place = name
  · subst same
    refine ⟨place, f held, ?_, akin, keeps relic table held found akin there part⟩
    rw [Catalogue.find?_alter_self, there]
    rfl
  · exact ⟨place, held, (Catalogue.find?_alter_of_ne same).trans there, akin, part⟩

/-- An index of a name that no table had is dropped. -/
theorem dropIndex (spared : Spared before c) {index : String}
    (free : ∀ relic table, before.tables.find? relic = some table →
      table.indexes.find? index = none) :
    Spared before { tables := c.tables.map fun _ t => t.dropIndex index } := by
  intro relic table found
  obtain ⟨place, held, there, akin, part⟩ := spared relic table found
  refine ⟨place, held.dropIndex index, ?_, akin, part.dropIndex (free relic table found)⟩
  rw [NameMap.find?_map, there]
  rfl

end Spared

/-! ## Starts and their undoing -/

theorem DropColumn.apply_undo (op : DropColumn) (undoes : statement ∈ op.undo ctx) :
    c.apply statement = c := by
  cases DropColumn.eq_of_mem_undo undoes
  rfl

theorem RawSql.apply_undo (op : RawSql) (undoes : statement ∈ op.undo ctx) :
    c.apply statement = c := by
  obtain ⟨_, rfl⟩ := RawSql.eq_of_mem_undo undoes
  rfl

/-- The changes of a start never take an object away. -/
theorem spared_of_starts (spared : Spared before c) (starts : op.Starts ctx statement) :
    Spared before (c.apply statement) := by
  cases starts with
  | createTable => exact spared.create _ _
  | dropTable => exact spared.rename fun _ akin => akin.park
  | addColumn named =>
      exact spared.alter fun _ _ _ _ _ _ part => part.trans StoredTable.partOf_addColumn
  | fillColumn => exact spared
  | dropColumn => exact spared
  | createIndex =>
      simp only [Catalogue.apply]
      split
      · exact spared
      · rename_i free
        refine spared.alter fun _ _ _ _ _ there part => part.trans (StoredTable.partOf_addIndex ?_)
        exact Catalogue.find?_indexes_of_not_hasIndex (by simpa using free) there
  | rawSql now sent => exact spared

/-- The changes that undo an operation of a fresh migration take nothing away that was there
before. -/
theorem spared_of_undo (fresh : Fresh before m) (spared : Spared before c)
    (member : op ∈ m.operations) (undoes : statement ∈ op.undo ctx) :
    Spared before (c.apply statement) := by
  cases op with
  | createTable op =>
      cases List.mem_singleton.mp undoes
      exact spared.remove (fresh.tables op member)
  | dropTable op =>
      cases List.mem_singleton.mp undoes
      exact spared.rename fun _ akin => akin.unpark
  | addColumn op =>
      rcases List.mem_cons.mp undoes with rfl | undoes
      · exact spared
      · cases List.mem_singleton.mp undoes
        refine spared.alter fun relic table held found akin _ part => part.dropColumns ?_
        obtain ⟨free, shadowFree⟩ := fresh.columns op member relic akin table found
        intro column dropped
        simp only [List.mem_cons, List.not_mem_nil, or_false] at dropped
        rcases dropped with rfl | rfl
        · exact shadowFree
        · exact free
  | dropColumn op =>
      rw [op.apply_undo undoes]
      exact spared
  | renameColumn op => cases undoes
  | createIndex op =>
      cases List.mem_singleton.mp undoes
      exact spared.dropIndex (fresh.indexes op member)
  | dropIndex op => cases undoes
  | rawSql op =>
      rw [op.apply_undo undoes]
      exact spared

end ExpandContract
