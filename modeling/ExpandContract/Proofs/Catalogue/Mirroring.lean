import ExpandContract.Proofs.Catalogue.Holdings
import ExpandContract.Proofs.Catalogue.Losing
import ExpandContract.Proofs.Migration.Expansion

/-!
# Tables that are exposed and tables that are there

While a migration is started, the snapshot says which tables the new version exposes, and the
catalogue says which tables there are. A table that is exposed is there (`Unfolds.has_of_exposes`).
A table that is there is exposed, or it has been put aside, provided that the names of tables that
are put aside are left alone and that no operation creates a table that one before it has dropped
(`Mirrors`).
-/

set_option autoImplicit false

namespace ExpandContract

open Sql (Change parkedName)
open Check

/-! ## Names of tables -/

/-- The schema exposes a table of this name. -/
def Schema.Exposes (s : Schema) (name : String) : Prop :=
  ∃ table, s.table? name = some table

/-- There is a table of this name. -/
def Catalogue.Has (c : Catalogue) (name : String) : Prop :=
  ∃ t, c.tables.find? name = some t

namespace Schema

variable {s : Schema} {name other : String} {table : Table}

theorem exposes_exposeTable :
    (s.exposeTable other table).Exposes name ↔ name = other ∨ s.Exposes name := by
  unfold Exposes exposeTable table?
  by_cases same : name = other
  · subst same
    simp
  · rw [NameMap.find?_insert_of_ne _ same]
    simp [same]

theorem exposes_hideTable :
    (s.hideTable other).Exposes name ↔ name ≠ other ∧ s.Exposes name := by
  unfold Exposes hideTable table?
  by_cases same : name = other
  · subst same
    simp
  · rw [NameMap.find?_erase_of_ne _ same]
    simp [same]

/-- A table that is exposed is exposed again when it has been changed. -/
theorem exposes_exposeTable_of_exposes (exposes : s.Exposes other) :
    (s.exposeTable other table).Exposes name ↔ s.Exposes name := by
  rw [exposes_exposeTable]
  constructor
  · rintro (rfl | exposed)
    · exact exposes
    · exact exposed
  · exact .inr

end Schema

/-- Every table is exposed under its own name. -/
def Schema.OwnNames (s : Schema) : Prop :=
  ∀ name table, s.table? name = some table → table.name = name

namespace Schema.OwnNames

variable {s : Schema} {other : String} {table : Table}

theorem ofName : (Schema.ofName other).OwnNames := by
  intro name table found
  cases found

theorem exposeTable (own : s.OwnNames) (same : table.name = other) :
    (s.exposeTable other table).OwnNames := by
  intro name held found
  by_cases here : name = other
  · subst here
    cases (NameMap.find?_insert_self _ _ _).symm.trans found
    exact same
  · exact own name held ((NameMap.find?_insert_of_ne _ here _).symm.trans found)

theorem hideTable (own : s.OwnNames) : (s.hideTable other).OwnNames := by
  intro name held found
  by_cases here : name = other
  · subst here
    cases (NameMap.find?_erase_self _ _).symm.trans found
  · exact own name held ((NameMap.find?_erase_of_ne _ here).symm.trans found)

end Schema.OwnNames

theorem CreateTable.snapshot_name (op : CreateTable) : op.snapshot.name = op.name := by
  have kept (columns : List ColumnDefinition) (table : Table) :
      (columns.foldl (fun table c => table.exposeColumn c.name (c.snapshot c.name)) table).name =
        table.name := by
    induction columns generalizing table with
    | nil => rfl
    | cons c rest ih => exact ih _
  exact kept op.columns (Table.ofName op.name)

theorem Catalogue.has_ofSchema {schema : Schema} {name : String} :
    (Catalogue.ofSchema schema).Has name ↔ schema.Exposes name := by
  unfold Has ofSchema Schema.Exposes Schema.table?
  rw [NameMap.find?_map]
  cases schema.tables.find? name <;> simp

/-! ## What changes do to the names -/

namespace Catalogue

variable {c : Catalogue} {name source target : String} {f : StoredTable → StoredTable}

theorem has_alter : (c.alter target f).Has name ↔ c.Has name := by
  unfold Has
  by_cases same : name = target
  · subst same
    rw [find?_alter_self]
    cases c.tables.find? name <;> simp
  · rw [find?_alter_of_ne same]

theorem not_has : ¬c.Has name ↔ c.tables.find? name = none := by
  unfold Has
  cases c.tables.find? name <;> simp

/-- A table that is renamed is missing at most under its old name. -/
theorem has_rename_of_ne (has : c.Has name) (other : name ≠ source) :
    (c.rename source target).Has name := by
  by_cases renames : c.Renames source target
  · obtain ⟨t, found⟩ := has
    have notTarget : name ≠ target := by
      rintro rfl
      rw [renames.2] at found
      cases found
    exact ⟨t, (find?_rename_of_ne other notTarget).trans found⟩
  · rwa [rename_eq renames]

/-- A table that is renamed is new at most under its new name. -/
theorem of_has_rename (has : (c.rename source target).Has name) :
    c.Has name ∨ name = target := by
  by_cases same : name = target
  · exact .inr same
  · refine .inl ?_
    by_cases renames : c.Renames source target
    · obtain ⟨t, found⟩ := has
      by_cases gone : name = source
      · subst gone
        cases (find?_rename_source renames).symm.trans found
      · exact ⟨t, (find?_rename_of_ne gone same).symm.trans found⟩
    · rwa [rename_eq renames] at has

/-- A table is still there after a change that neither drops nor renames it. -/
theorem has_apply {statement : Change} (has : c.Has name)
    (stays : ¬statement.Takes name .table) (still : ∀ target, ¬statement.Moves name target) :
    (c.apply statement).Has name := by
  cases statement with
  | createTable _ table columns _ _ _ =>
      rw [apply]
      split
      · exact has
      · by_cases same : name = table
        · exact same ▸ ⟨_, find?_put_self⟩
        · exact has.imp fun t found => (find?_put_of_ne same).trans found
  | dropTable _ table => exact has.imp fun t found => (find?_remove_of_ne stays).trans found
  | renameTable _ source target _ =>
      exact has_rename_of_ne has fun same => still target ⟨same.symm, rfl⟩
  | addColumn => exact has_alter.mpr has
  | dropColumns => exact has_alter.mpr has
  | renameColumn => exact has_alter.mpr has
  | createIndex _ table index _ _ =>
      rw [apply]
      split
      · exact has
      · exact has_alter.mpr has
  | dropIndex _ index =>
      obtain ⟨t, found⟩ := has
      refine ⟨t.dropIndex index, ?_⟩
      rw [apply, NameMap.find?_map, found]
      rfl
  | _ => exact has

/-- A table is new after a change only if the change creates it, or renames another one. -/
theorem of_has_apply {statement : Change} (has : (c.apply statement).Has name)
    (uncreated : ¬statement.Gives name .table) (still : ∀ source, ¬statement.Moves source name) :
    c.Has name := by
  cases statement with
  | createTable _ table columns _ _ _ =>
      rw [apply] at has
      split at has
      · exact has
      · have other : name ≠ table := fun same => uncreated ⟨same, .inl rfl⟩
        exact has.imp fun t found => (find?_put_of_ne other).symm.trans found
  | dropTable _ table =>
      obtain ⟨t, found⟩ := has
      by_cases same : name = table
      · subst same
        cases find?_remove_self.symm.trans found
      · exact ⟨t, (find?_remove_of_ne same).symm.trans found⟩
  | renameTable _ source target _ =>
      exact (of_has_rename has).resolve_right fun same => still source ⟨rfl, same.symm⟩
  | addColumn => exact has_alter.mp has
  | dropColumns => exact has_alter.mp has
  | renameColumn => exact has_alter.mp has
  | createIndex _ table index _ _ =>
      rw [apply] at has
      split at has
      · exact has
      · exact has_alter.mp has
  | dropIndex _ index =>
      obtain ⟨_, there⟩ := has
      obtain ⟨t, found, _⟩ := Option.map_eq_some_iff.mp ((NameMap.find?_map _ _ _).symm.trans there)
      exact ⟨t, found⟩
  | _ => exact has

end Catalogue

/-! ## What operations do to the names -/

namespace Operation

variable {ctx : PhaseContext} {op : Operation} {changes : List Change} {before after : Schema}
  {c : Catalogue} {name : String}

/-- The table that the operation is about. -/
def about : Operation → Option String
  | .createTable op => some op.name
  | .dropTable op => some op.name
  | .addColumn op => some op.table
  | .dropColumn op => some op.table
  | .renameColumn op => some op.table
  | .createIndex op => some op.table
  | .dropIndex _ => none
  | .rawSql _ => none

/-- What the operation does to the names of the exposed tables. -/
def PlaysNames (before after : Schema) : Operation → Prop
  | .createTable op =>
      ¬before.Exposes op.name ∧ ∀ name, after.Exposes name ↔ name = op.name ∨ before.Exposes name
  | .dropTable op =>
      before.Exposes op.name ∧ ∀ name, after.Exposes name ↔ name ≠ op.name ∧ before.Exposes name
  | op =>
      (∀ name, op.about = some name → before.Exposes name) ∧
        ∀ name, after.Exposes name ↔ before.Exposes name

/-- An operation that changes a table which is exposed changes no names. -/
theorem exposes_of_found {other : String} {table changed : Table}
    (found : before.table? other = some table) :
    (∀ name, some other = some name → before.Exposes name) ∧
      ∀ name, (before.exposeTable other changed).Exposes name ↔ before.Exposes name := by
  refine ⟨?_, fun name => Schema.exposes_exposeTable_of_exposes ⟨table, found⟩⟩
  rintro _ ⟨⟩
  exact ⟨table, found⟩

theorem playsNames_of_check (checked : op.check.Passes before () after) :
    op.PlaysNames before after := by
  cases op with
  | createTable op =>
      obtain ⟨_, free, _, _, _, rfl⟩ := op.passes_check.mp checked
      refine ⟨?_, fun name => Schema.exposes_exposeTable⟩
      rintro ⟨table, found⟩
      rw [free] at found
      cases found
  | dropTable op =>
      obtain ⟨exposes, rfl⟩ := op.passes_check.mp checked
      exact ⟨exposes, fun name => Schema.exposes_hideTable⟩
  | addColumn op =>
      obtain ⟨_, _, table, found, _, _, _, _, rfl⟩ := op.passes_check.mp checked
      exact exposes_of_found found
  | dropColumn op =>
      obtain ⟨table, found, _, rfl⟩ := op.passes_check.mp checked
      exact exposes_of_found found
  | renameColumn op =>
      obtain ⟨_, renamed⟩ := op.passes_check.mp checked
      obtain ⟨table, column, found, _, _, rfl⟩ := op.rename_eq_ok.mp renamed
      exact exposes_of_found found
  | createIndex op =>
      obtain ⟨_, _, _, table, columns, found, _, rfl⟩ := op.passes_check.mp checked
      exact exposes_of_found found
  | dropIndex op =>
      obtain ⟨owner, table, found, rfl⟩ := op.remove?_eq_some (op.passes_check.mp checked)
      exact ⟨by rintro _ ⟨⟩, (exposes_of_found found).2⟩
  | rawSql op =>
      obtain ⟨_, _, rfl⟩ := op.passes_check.mp checked
      exact ⟨by rintro _ ⟨⟩, fun _ => .rfl⟩

/-- No operation exposes a table under another name than its own. -/
theorem ownNames_of_check (checked : op.check.Passes before () after) (own : before.OwnNames) :
    after.OwnNames := by
  cases op with
  | createTable op =>
      obtain ⟨_, _, _, _, _, rfl⟩ := op.passes_check.mp checked
      exact own.exposeTable op.snapshot_name
  | dropTable op =>
      obtain ⟨_, rfl⟩ := op.passes_check.mp checked
      exact own.hideTable
  | addColumn op =>
      obtain ⟨_, _, table, found, _, _, _, _, rfl⟩ := op.passes_check.mp checked
      exact own.exposeTable (own _ table found)
  | dropColumn op =>
      obtain ⟨table, found, _, rfl⟩ := op.passes_check.mp checked
      exact own.exposeTable (own _ table found)
  | renameColumn op =>
      obtain ⟨_, renamed⟩ := op.passes_check.mp checked
      obtain ⟨table, column, found, _, _, rfl⟩ := op.rename_eq_ok.mp renamed
      exact own.exposeTable (own _ table found)
  | createIndex op =>
      obtain ⟨_, _, _, table, columns, found, _, rfl⟩ := op.passes_check.mp checked
      exact own.exposeTable (own _ table found)
  | dropIndex op =>
      obtain ⟨owner, table, found, rfl⟩ := op.remove?_eq_some (op.passes_check.mp checked)
      exact own.exposeTable (own _ table found)
  | rawSql op =>
      obtain ⟨_, _, rfl⟩ := op.passes_check.mp checked
      exact own

/-- What the start of the operation does to the names of the tables. -/
def MovesNames (before after : Catalogue) : Operation → Prop
  | .createTable op => ∀ name, after.Has name ↔ name = op.name ∨ before.Has name
  | .dropTable op => after = before.rename op.name (parkedName op.name)
  | _ => ∀ name, after.Has name ↔ before.Has name

theorem movesNames_of_expands (expands : op.Expands ctx changes) :
    op.MovesNames c (c.after changes) := by
  cases expands with
  | @createTable op columns _ =>
      intro name
      change (if c.tables.contains op.name then c else c.put op.name _).Has name ↔ _
      split
      · rename_i taken
        constructor
        · exact .inr
        · rintro (rfl | has)
          · exact Option.isSome_iff_exists.mp taken
          · exact has
      · by_cases same : name = op.name
        · subst same
          exact ⟨fun _ => .inl rfl, fun _ => ⟨_, Catalogue.find?_put_self⟩⟩
        · unfold Catalogue.Has
          rw [Catalogue.find?_put_of_ne same]
          simp [same]
  | dropTable => exact rfl
  | addColumn => exact fun name => Catalogue.has_alter
  | fillColumn => exact fun name => Catalogue.has_alter
  | hideColumn => exact fun name => .rfl
  | dropColumn => exact fun name => .rfl
  | renameColumn => exact fun name => .rfl
  | @createIndex op columns =>
      intro name
      change (if c.hasIndex op.name then c else c.alter op.table _).Has name ↔ _
      split
      · exact .rfl
      · exact Catalogue.has_alter
  | dropIndex => exact fun name => .rfl

end Operation

/-! ## Exposed tables are there -/

section Start

open Operation

variable {ctx : PhaseContext} {op : Operation} {changes : List Change} {before after : Schema}
  {c : Catalogue} {m : Migration} {name : String} {operations earlier rest : List Operation}

theorem has_of_exposes_step (plays : op.PlaysNames before after)
    {d : Catalogue} (moves : op.MovesNames c d) (has : ∀ name, before.Exposes name → c.Has name)
    (exposes : after.Exposes name) : d.Has name := by
  cases op with
  | createTable op => exact (moves name).mpr (((plays.2 name).mp exposes).imp_right (has name))
  | dropTable op =>
      obtain ⟨other, still⟩ := (plays.2 name).mp exposes
      have moved : d = c.rename op.name (parkedName op.name) := moves
      exact moved ▸ Catalogue.has_rename_of_ne (has name still) other
  | addColumn | dropColumn | renameColumn | createIndex | dropIndex | rawSql =>
      exact (moves name).mpr (has name ((plays.2 name).mp exposes))

/-- A table that is exposed when operations have been started is there. -/
theorem Unfolds.has_of_exposes (unfolds : Unfolds ctx before operations changes after)
    (has : ∀ name, before.Exposes name → c.Has name) (exposes : after.Exposes name) :
    (c.after changes).Has name := by
  induction unfolds generalizing c with
  | nil => exact has name exposes
  | cons checked expands _ ih =>
      rw [Catalogue.after_append]
      refine ih (fun other shown => ?_) exposes
      exact has_of_exposes_step (playsNames_of_check checked) (movesNames_of_expands expands)
        has shown

/-! ## Tables that are there are exposed or put aside -/

/-- No operation creates a table that one before it has dropped. -/
def Migration.RecreatesNone (m : Migration) : Prop :=
  m.operations.Pairwise fun first later => ∀ dropped created,
    first = .dropTable dropped → later = .createTable created → created.name ≠ dropped.name

/-- Behind the start of some operations, the tables are those that are exposed and those that have
been put aside. -/
structure Mirrors (earlier : List Operation) (schema : Schema) (c : Catalogue) : Prop where
  shown : ∀ name, schema.Exposes name → c.Has name
  known : ∀ name, c.Has name →
    schema.Exposes name ∨ ∃ op, .dropTable op ∈ earlier ∧ name = parkedName op.name
  gone : ∀ op, .dropTable op ∈ earlier → ¬schema.Exposes op.name
  unparked : ∀ name, ¬schema.Exposes (parkedName name)

/-- The operation creates no table under the name of one that has been put aside or dropped. -/
def Operation.CreatesElsewhere (earlier : List Operation) (op : Operation) : Prop :=
  ∀ made, op = .createTable made → (∀ name, made.name ≠ parkedName name) ∧
    ∀ dropped, .dropTable dropped ∈ earlier → made.name ≠ dropped.name

namespace Mirrors

theorem ofSchema {schema : Schema} (leaves : LeavesParking (.ofSchema schema) m) :
    Mirrors [] schema (.ofSchema schema) where
  shown name := Catalogue.has_ofSchema.mpr
  known name has := .inl (Catalogue.has_ofSchema.mp has)
  gone := by rintro _ ⟨⟩
  unparked name exposes :=
    Catalogue.not_has.mpr (leaves.tables name) (Catalogue.has_ofSchema.mpr exposes)

/-- A table that is exposed can be put aside. -/
theorem renames (mirrors : Mirrors earlier before c) (exposes : before.Exposes name) :
    c.Renames name (parkedName name) := by
  refine ⟨mirrors.shown name exposes, Catalogue.not_has.mp fun has => ?_⟩
  rcases mirrors.known _ has with parked | ⟨dropped, member, same⟩
  · exact mirrors.unparked name parked
  · cases Sql.parkedName_injective same
    exact mirrors.gone dropped member exposes

theorem step (mirrors : Mirrors earlier before c) (plays : op.PlaysNames before after)
    {d : Catalogue} (moves : op.MovesNames c d) (elsewhere : op.CreatesElsewhere earlier) :
    Mirrors (earlier ++ [op]) after d := by
  have shown : ∀ name, after.Exposes name → d.Has name := fun name =>
    has_of_exposes_step plays moves mirrors.shown
  have old {dropped : DropTable} (member : .dropTable dropped ∈ earlier ++ [op]) :
      .dropTable dropped ∈ earlier ∨ op = .dropTable dropped :=
    (List.mem_append.mp member).imp_right fun last => (List.mem_singleton.mp last).symm
  cases op with
  | createTable op =>
      obtain ⟨unparked, fresh⟩ := elsewhere op rfl
      refine ⟨shown, fun name has => ?_, fun dropped member exposes => ?_, fun name exposes => ?_⟩
      · rcases (moves name).mp has with rfl | has
        · exact .inl ((plays.2 _).mpr (.inl rfl))
        · rcases mirrors.known name has with exposes | ⟨dropped, member, same⟩
          · exact .inl ((plays.2 _).mpr (.inr exposes))
          · exact .inr ⟨dropped, List.mem_append_left _ member, same⟩
      · rcases old member with member | ⟨⟨⟩⟩
        rcases (plays.2 _).mp exposes with same | exposes
        · exact fresh dropped member same.symm
        · exact mirrors.gone dropped member exposes
      · rcases (plays.2 _).mp exposes with same | exposes
        · exact unparked name same.symm
        · exact mirrors.unparked name exposes
  | dropTable op =>
      have renames := mirrors.renames plays.1
      have moved : d = c.rename op.name (parkedName op.name) := moves
      refine ⟨shown, fun name has => ?_, fun dropped member exposes => ?_, fun name exposes => ?_⟩
      · by_cases here : name = op.name
        · subst here
          rw [moved] at has
          exact absurd (Catalogue.find?_rename_source renames) (fun none =>
            Catalogue.not_has.mpr none has)
        · rcases Catalogue.of_has_rename (moved ▸ has) with has | rfl
          · rcases mirrors.known name has with exposes | ⟨dropped, member, same⟩
            · exact .inl ((plays.2 _).mpr ⟨here, exposes⟩)
            · exact .inr ⟨dropped, List.mem_append_left _ member, same⟩
          · exact .inr ⟨op, List.mem_append_right _ (List.mem_singleton_self _), rfl⟩
      · obtain ⟨other, exposes⟩ := (plays.2 _).mp exposes
        rcases old member with member | same
        · exact mirrors.gone dropped member exposes
        · cases same
          exact other rfl
      · exact mirrors.unparked name ((plays.2 _).mp exposes).2
  | addColumn | dropColumn | renameColumn | createIndex | dropIndex | rawSql =>
      refine ⟨shown, fun name has => ?_, fun dropped member exposes => ?_, fun name exposes => ?_⟩
      · rcases mirrors.known name ((moves name).mp has) with exposes | ⟨dropped, member, same⟩
        · exact .inl ((plays.2 _).mpr exposes)
        · exact .inr ⟨dropped, List.mem_append_left _ member, same⟩
      · rcases old member with member | ⟨⟨⟩⟩
        exact mirrors.gone dropped member ((plays.2 _).mp exposes)
      · exact mirrors.unparked name ((plays.2 _).mp exposes)

end Mirrors

section Migration

variable (leaves : LeavesParking c m) (recreates : m.RecreatesNone)
include leaves recreates

theorem createsElsewhere (split : m.operations = earlier ++ op :: rest) :
    op.CreatesElsewhere earlier := by
  rintro made rfl
  refine ⟨leaves.created made ?_, fun dropped member => ?_⟩
  · rw [split]
    exact List.mem_append_right _ List.mem_cons_self
  · have ordered := recreates
    rw [Migration.RecreatesNone, split] at ordered
    exact (List.pairwise_append.mp ordered).2.2 _ member _ List.mem_cons_self _ _ rfl rfl

theorem Mirrors.unfold {d : Catalogue} (mirrors : Mirrors earlier before d)
    (unfolds : Unfolds ctx before operations changes after)
    (split : m.operations = earlier ++ (operations ++ rest)) :
    Mirrors (earlier ++ operations) after (d.after changes) := by
  induction unfolds generalizing d earlier with
  | nil => exact (List.append_nil earlier).symm ▸ mirrors
  | @cons _ _ _ op others first later checked expands _ ih =>
      have now := mirrors.step (playsNames_of_check checked) (movesNames_of_expands expands)
        (createsElsewhere leaves recreates split)
      have started := ih now (by rw [split]; simp)
      rw [Catalogue.after_append]
      simpa using started

/-- No operation is about a table that has been put aside or dropped before. -/
theorem Mirrors.about {d : Catalogue} (mirrors : Mirrors earlier before d)
    (unfolds : Unfolds ctx before rest changes after) (split : m.operations = earlier ++ rest)
    (member : op ∈ rest) (about : op.about = some name) :
    (∀ other, name ≠ parkedName other) ∧
      ∀ dropped, .dropTable dropped ∈ earlier → name ≠ dropped.name := by
  induction unfolds generalizing d earlier with
  | nil => cases member
  | @cons before _ _ first others _ _ checked expands _ ih =>
      have plays := playsNames_of_check checked
      have elsewhere := createsElsewhere leaves recreates split
      rcases List.mem_cons.mp member with rfl | member
      · have exposed (exposes : before.Exposes name) : (∀ other, name ≠ parkedName other) ∧
            ∀ dropped, .dropTable dropped ∈ earlier → name ≠ dropped.name := by
          constructor
          · rintro other rfl
            exact mirrors.unparked other exposes
          · rintro dropped among rfl
            exact mirrors.gone dropped among exposes
        cases op with
        | createTable op =>
            cases about
            exact elsewhere op rfl
        | dropTable op =>
            cases about
            exact exposed plays.1
        | addColumn op | dropColumn op | renameColumn op | createIndex op =>
            exact exposed (plays.1 name about)
        | dropIndex op | rawSql op => cases about
      · have now := mirrors.step plays (movesNames_of_expands expands) elsewhere
        obtain ⟨unparked, fresh⟩ := ih now (by rw [split]; simp) member
        exact ⟨unparked, fun dropped among => fresh dropped (List.mem_append_left _ among)⟩

end Migration

/-! ## Whole starts -/

section Whole

variable {snapshot : Schema} (leaves : LeavesParking (.ofSchema snapshot) m)
  (recreates : m.RecreatesNone) (unfolds : Unfolds ctx snapshot m.operations changes after)
include leaves recreates unfolds

/-- When all operations have been started, the tables are those that are exposed in the end and
those that are aside. -/
theorem mirrors_of_unfolds :
    Mirrors m.operations after ((Catalogue.ofSchema snapshot).after changes) :=
  have whole : m.operations = [] ++ (m.operations ++ []) := by simp
  (Mirrors.ofSchema leaves).unfold leaves recreates unfolds whole

/-- No operation is about a table that is aside. -/
theorem unparked_of_about (member : op ∈ m.operations) (about : op.about = some name)
    (other : String) : name ≠ parkedName other :=
  ((Mirrors.ofSchema leaves).about leaves recreates unfolds rfl member about).1 other

end Whole

end Start

end ExpandContract
