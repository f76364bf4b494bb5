import ExpandContract.Proofs.Catalogue.Sparing

/-!
# Changes that lose what was there

Where the names that stand for parked tables are left to parked tables (`LeavesParking`), a fresh
migration is the only one whose undoing loses nothing. If something has a name that the migration
gives to a new object, and the migration is undone before it has made the object, then what is
dropped is what was there before.

Until then the undoing makes nothing new and renames nothing (`Within`), so an object that has lost
its name is gone.
-/

set_option autoImplicit false

namespace ExpandContract

open Sql (Change parkedName)

/-! ## Parked names -/

/-- No table has the name of a parked table, and no operation gives one or asks for one. -/
structure LeavesParking (c : Catalogue) (m : Migration) : Prop where
  tables : ∀ name, c.tables.find? (parkedName name) = none
  created : ∀ op, .createTable op ∈ m.operations → ∀ name, op.name ≠ parkedName name
  extended : ∀ op, .addColumn op ∈ m.operations → ∀ name, op.table ≠ parkedName name

variable {before c : Catalogue} {m : Migration} {ctx : PhaseContext} {op : Operation}
  {statement : Change} {name : String} {table held : StoredTable}

/-- Where parked names are left alone, a name is akin to the name of a table if it is the same. -/
theorem LeavesParking.eq_of_akin (leaves : LeavesParking c m)
    (free : ∀ other, name ≠ parkedName other) {relic : String} (akin : Sql.Akin name relic)
    (found : c.tables.find? relic = some table) : name = relic := by
  apply akin.eq_of_not_parked free
  rintro other rfl
  rw [leaves.tables other] at found
  cases found

namespace Catalogue

/-! ## Catalogues in their first state -/

/-- Everything in the catalogue was there in the beginning, under the same name. -/
structure Untouched (c : Catalogue) : Prop where
  tables : ∀ name table, c.tables.find? name = some table → table.origin = .original name
  columns : ∀ name table, c.tables.find? name = some table →
    ∀ column origin, table.columns.find? column = some origin → origin = .original column
  indexes : ∀ name table, c.tables.find? name = some table →
    ∀ index origin, table.indexes.find? index = some origin → origin = .original index

/-- The catalogue of a schema is one in its first state. -/
theorem untouched_ofSchema (schema : Schema) : (ofSchema schema).Untouched := by
  have stored {name : String} {table : StoredTable}
      (found : (ofSchema schema).tables.find? name = some table) :
      ∃ t, table = .ofTable name t := by
    obtain ⟨t, _, same⟩ := Option.map_eq_some_iff.mp ((NameMap.find?_map _ _ _).symm.trans found)
    exact ⟨t, same.symm⟩
  refine ⟨?_, ?_, ?_⟩
  · intro name table found
    obtain ⟨t, rfl⟩ := stored found
    rfl
  · intro name table found column origin member
    obtain ⟨t, rfl⟩ := stored found
    obtain ⟨_, _, same⟩ := Option.map_eq_some_iff.mp ((NameMap.find?_map _ _ _).symm.trans member)
    exact same.symm
  · intro name table found index origin member
    obtain ⟨t, rfl⟩ := stored found
    obtain ⟨_, _, same⟩ := Option.map_eq_some_iff.mp ((NameMap.find?_map _ _ _).symm.trans member)
    exact same.symm

/-! ## Catalogues that have only lost -/

/-- Everything in the first catalogue is in the second one, under the same name. -/
def Within (first second : Catalogue) : Prop :=
  ∀ name held, first.tables.find? name = some held →
    ∃ table, second.tables.find? name = some table ∧ held.PartOf table

namespace Within

theorem refl (c : Catalogue) : c.Within c :=
  fun _ held found => ⟨held, found, .refl held⟩

theorem remove (within : c.Within before) (name : String) : (c.remove name).Within before := by
  intro other held found
  by_cases same : other = name
  · subst same
    exact absurd found (by simp [find?_remove_self])
  · exact within other held ((find?_remove_of_ne same).symm.trans found)

theorem alter (within : c.Within before) {f : StoredTable → StoredTable}
    (loses : ∀ held, (f held).PartOf held) : (c.alter name f).Within before := by
  intro other held found
  by_cases same : other = name
  · subst same
    rw [find?_alter_self] at found
    obtain ⟨whole, isThere, rfl⟩ := Option.map_eq_some_iff.mp found
    obtain ⟨table, original, part⟩ := within other whole isThere
    exact ⟨table, original, (loses whole).trans part⟩
  · exact within other held ((find?_alter_of_ne same).symm.trans found)

theorem dropIndex (within : c.Within before) (index : String) :
    Catalogue.Within { tables := c.tables.map fun _ t => t.dropIndex index } before := by
  intro other held found
  obtain ⟨whole, isThere, rfl⟩ :=
    Option.map_eq_some_iff.mp ((NameMap.find?_map _ _ _).symm.trans found)
  obtain ⟨table, original, part⟩ := within other whole isThere
  exact ⟨table, original, StoredTable.dropIndex_partOf.trans part⟩

/-- A rename does nothing where there is no such table. -/
theorem rename (within : c.Within before) {source target : String}
    (none : before.tables.find? source = none) : (c.rename source target).Within before := by
  unfold Catalogue.rename
  split
  · rename_i moved isThere free
    obtain ⟨table, original, _⟩ := within source moved isThere
    rw [none] at original
    cases original
  · exact within

end Within

/-! ## What has lost its name is lost -/

section Lost

variable (untouched : before.Untouched) (within : c.Within before)
  (found : before.tables.find? name = some table)
include untouched within found

/-- A table that is kept is where it was. -/
theorem find?_of_keeps (keeps : before.Keeps c) :
    ∃ held, c.tables.find? name = some held ∧ table.Keeps held ∧ held.PartOf table := by
  obtain ⟨place, held, there, kept⟩ := keeps name table found
  obtain ⟨original, first, part⟩ := within place held there
  have same : Origin.original place = .original name := by
    rw [← untouched.tables place original first, ← part.origin, kept.origin,
      untouched.tables name table found]
  cases same
  rw [found] at first
  cases first
  exact ⟨held, there, kept, part⟩

theorem not_keeps_of_table (lost : c.tables.find? name = none) : ¬before.Keeps c := by
  intro keeps
  obtain ⟨held, there, _⟩ := find?_of_keeps untouched within found keeps
  rw [lost] at there
  cases there

theorem not_keeps_of_column {column : String} {origin : Origin}
    (member : table.columns.find? column = some origin)
    (lost : ∀ held, c.tables.find? name = some held → held.columns.find? column = none) :
    ¬before.Keeps c := by
  intro keeps
  obtain ⟨held, there, kept, part⟩ := find?_of_keeps untouched within found keeps
  obtain ⟨place, still⟩ := kept.columns column origin member
  have here := untouched.columns name table found place origin (part.columns place origin still)
  cases here.symm.trans (untouched.columns name table found column origin member)
  rw [lost held there] at still
  cases still

theorem not_keeps_of_index {index : String} {origin : Origin}
    (member : table.indexes.find? index = some origin)
    (lost : ∀ held, c.tables.find? name = some held → held.indexes.find? index = none) :
    ¬before.Keeps c := by
  intro keeps
  obtain ⟨held, there, kept, part⟩ := find?_of_keeps untouched within found keeps
  obtain ⟨place, still⟩ := kept.indexes index origin member
  have here := untouched.indexes name table found place origin (part.indexes place origin still)
  cases here.symm.trans (untouched.indexes name table found index origin member)
  rw [lost held there] at still
  cases still

end Lost

end Catalogue

/-! ## Undoing what has not been started -/

/-- Undoing an operation that has not been started can only lose. -/
theorem within_of_undo (leaves : LeavesParking before m) (within : c.Within before)
    (undoes : statement ∈ op.undo ctx) : (c.apply statement).Within before := by
  cases op with
  | createTable op =>
      cases List.mem_singleton.mp undoes
      exact within.remove _
  | dropTable op =>
      cases List.mem_singleton.mp undoes
      exact within.rename (leaves.tables op.name)
  | addColumn op =>
      rcases List.mem_cons.mp undoes with rfl | undoes
      · exact within
      · cases List.mem_singleton.mp undoes
        exact within.alter fun _ => StoredTable.dropColumns_partOf
  | dropColumn op =>
      rw [op.apply_undo undoes]
      exact within
  | renameColumn op => cases undoes
  | createIndex op =>
      cases List.mem_singleton.mp undoes
      exact within.dropIndex _
  | dropIndex op => cases undoes
  | rawSql op =>
      rw [op.apply_undo undoes]
      exact within

/-- If no operation that makes an object loses anything when it is undone before it was started,
behind other losses, then the migration is fresh. -/
theorem fresh_of_undo_keeps (ctx : PhaseContext) (leaves : LeavesParking before m)
    (untouched : before.Untouched)
    (keeps : ∀ op ∈ m.operations, op.makesObject = true → ∃ c : Catalogue, c.Within before ∧
      before.Keeps (c.after (op.undo ctx))) :
    Fresh before m := by
  have lost {op : Operation} (member : op ∈ m.operations) (makes : op.makesObject = true)
      (loses : ∀ c : Catalogue, (c.after (op.undo ctx)).Within before →
        ¬before.Keeps (c.after (op.undo ctx))) : False := by
    obtain ⟨c, within, kept⟩ := keeps op member makes
    refine loses c (Catalogue.after_induction (fun c => c.Within before) within ?_) kept
    intro c statement undoes within
    exact within_of_undo leaves within undoes
  refine ⟨?_, ?_, ?_⟩
  · intro op member name akin
    by_contra taken
    obtain ⟨table, found⟩ := Option.ne_none_iff_exists'.mp taken
    cases leaves.eq_of_akin (leaves.created op member) akin found
    refine lost member rfl fun c within => Catalogue.not_keeps_of_table untouched within found ?_
    exact Catalogue.find?_remove_self
  · intro op member name akin table found
    cases leaves.eq_of_akin (leaves.extended op member) akin found
    have none {column : String} (dropped : column ∈ [op.shadow, op.column.name]) :
        table.columns.find? column = none := by
      by_contra taken
      obtain ⟨origin, isThere⟩ := Option.ne_none_iff_exists'.mp taken
      refine lost member rfl fun c within =>
        Catalogue.not_keeps_of_column untouched within found isThere ?_
      intro held there
      have there := Catalogue.find?_alter_self.symm.trans there
      obtain ⟨whole, _, rfl⟩ := Option.map_eq_some_iff.mp there
      rw [StoredTable.find?_dropColumns, if_pos dropped]
    exact ⟨none (by simp), none (by simp)⟩
  · intro op member name table found
    by_contra taken
    obtain ⟨origin, isThere⟩ := Option.ne_none_iff_exists'.mp taken
    refine lost member rfl fun c within =>
      Catalogue.not_keeps_of_index untouched within found isThere ?_
    intro held there
    have there := (NameMap.find?_map _ _ _).symm.trans there
    obtain ⟨whole, _, rfl⟩ := Option.map_eq_some_iff.mp there
    exact NameMap.find?_erase_self _ _

end ExpandContract
