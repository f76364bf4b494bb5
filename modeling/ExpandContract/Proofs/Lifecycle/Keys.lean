import ExpandContract.Proofs.Backfill.Statement
import ExpandContract.Proofs.Lifecycle.Convergence
import ExpandContract.Proofs.Lifecycle.Refilling

/-!
# Keys of the tables that are filled

A backfill goes through a table in the order of its primary key, and needs the types of the
columns of the key. The key is a list of physical names, and the types are looked for behind the
columns that the snapshot exposes. A renaming keeps what is behind a name. A column that an
operation drops is exposed no longer, but the key still lists it: the check only asks whether the
table has a key at all.

So a valid migration that drops a column of the key, and then adds a computed column to the table,
cannot fill it (`LosesKey`). Every other migration can, and this is the only reason for which a
backfill fails by itself (`MigrationSession.batches_iff_leavesKeys`).
-/

set_option autoImplicit false

namespace ExpandContract

open Session Procedure Sql Check
open Backfill (Batch)

variable {before between after : Schema} {op : Operation} {operations : List Operation}
  {exposed physical schema : String} {table shown : Table}

/-! ## Tables that show their keys -/

namespace Table

/-- Some exposed column has the physical name. -/
def ShowsColumn (t : Table) (physical : String) : Prop :=
  ∃ exposed, t.behind.find? exposed = some physical

/-- The table shows a column for each part of its primary key. -/
def ShowsKey (t : Table) : Prop :=
  ∀ key ∈ t.primaryKey, t.ShowsColumn key

theorem showsColumn_iff : table.ShowsColumn physical ↔
    ∃ column ∈ table.columns.values, column.name = physical := by
  constructor
  · rintro ⟨exposed, found⟩
    obtain ⟨column, there, named⟩ := Option.map_eq_some_iff.mp (find?_behind.symm.trans found)
    have entry := NameMap.mem_entries_iff.mpr there
    exact ⟨column, List.mem_map.mpr ⟨(exposed, column), entry, rfl⟩, named⟩
  · rintro ⟨column, member, named⟩
    obtain ⟨entry, among, rfl⟩ := List.mem_map.mp member
    refine ⟨entry.1, find?_behind.trans (Option.map_eq_some_iff.mpr ⟨entry.2, ?_, named⟩)⟩
    exact NameMap.mem_entries_iff.mp among

end Table

theorem exists_of_mapM {α β : Type} {f : α → Option β} {values : List α} {results : List β}
    (mapped : values.mapM f = some results) :
    ∀ value ∈ values, ∃ result, f value = some result := by
  induction values generalizing results with
  | nil => simp
  | cons value rest ih =>
      rw [List.mapM_cons] at mapped
      obtain ⟨result, first, follows⟩ := Option.bind_eq_some_iff.mp mapped
      obtain ⟨others, later, _⟩ := Option.bind_eq_some_iff.mp follows
      exact List.forall_mem_cons.mpr ⟨⟨result, first⟩, ih later⟩

/-- A table has batches just if it has a primary key and shows it. -/
theorem exists_batch_iff : (∃ batch, Batch.ofTable schema table = .ok batch) ↔
    table.primaryKey ≠ [] ∧ table.ShowsKey := by
  constructor
  · rintro ⟨batch, made⟩
    unfold Batch.ofTable at made
    split at made
    · cases made
    · rename_i keyed
      split at made
      · cases made
      · rename_i types typed
        refine ⟨by simpa using keyed, fun key member => Table.showsColumn_iff.mpr ?_⟩
        obtain ⟨type, found⟩ := exists_of_mapM typed key member
        obtain ⟨column, first, _⟩ := Option.map_eq_some_iff.mp found
        exact ⟨column, List.mem_of_find?_eq_some first, by simpa using List.find?_some first⟩
  · rintro ⟨keyed, shows⟩
    obtain ⟨batch, made, _⟩ := Backfill.exists_batch schema keyed fun key member =>
      Table.showsColumn_iff.mp (shows key member)
    exact ⟨batch, made⟩

theorem CreateTable.find?_behind_snapshot (op : CreateTable) (name : String) :
    op.snapshot.behind.find? name = if name ∈ op.columns.map (·.name) then some name else none := by
  have shown (columns : List ColumnDefinition) (table : Table) :
      (columns.foldl (fun table c => table.exposeColumn c.name (c.snapshot c.name))
        table).behind.find? name =
        if name ∈ columns.map (·.name) then some name else table.behind.find? name := by
    induction columns generalizing table with
    | nil => rfl
    | cons c rest ih =>
        rw [List.foldl_cons, ih, Table.behind_exposeColumn, List.map_cons]
        by_cases later : name ∈ rest.map (·.name)
        · rw [if_pos later, if_pos (List.mem_cons_of_mem _ later)]
        · rw [if_neg later]
          by_cases same : name = c.name
          · rw [if_pos (List.mem_cons.mpr (.inl same)), same, NameMap.find?_insert_self]
            rfl
          · have absent : name ∉ c.name :: rest.map (·.name) := by simp [same, later]
            rw [if_neg absent, NameMap.find?_insert_of_ne _ same]
  exact shown op.columns (Table.ofName op.name)

/-- A table shows its key when it is made. -/
theorem CreateTable.showsKey_snapshot (op : CreateTable) : op.snapshot.ShowsKey := by
  intro key member
  refine ⟨key, ?_⟩
  obtain ⟨c, among, rfl⟩ := List.mem_map.mp member
  rw [op.find?_behind_snapshot, if_pos (List.mem_map.mpr ⟨c, (List.mem_filter.mp among).1, rfl⟩)]

/-! ## Operations and the columns of a key -/

namespace Operation.Turns

theorem ne_of_free {name taken : String} (free : table.column? taken = none)
    (found : table.behind.find? name = some physical) : name ≠ taken := by
  intro same
  rw [same, Table.find?_behind_eq_none.mpr free] at found
  cases found

/-- A column is shown as long as no operation drops it. -/
theorem showsColumn (turned : op.Turns exposed table shown) (shows : table.ShowsColumn physical) :
    shown.ShowsColumn physical ∨ ∃ drop column, op = .dropColumn drop ∧ drop.table = exposed ∧
      table.column? drop.column = some column ∧ column.name = physical := by
  obtain ⟨name, found⟩ := shows
  cases turned with
  | stays _ _ columns =>
      refine .inl ⟨name, ?_⟩
      rwa [Table.behind, columns]
  | @adds op _ free =>
      refine .inl ⟨name, ?_⟩
      exact (congrArg (NameMap.find? · name) (Table.behind_exposeColumn _)).trans
        ((NameMap.find?_insert_of_ne _ (ne_of_free free found) _).trans found)
  | @hides op _ column there =>
      by_cases same : name = op.column
      · subst same
        rw [Table.find?_behind, there] at found
        cases found
        exact .inr ⟨op, column, rfl, rfl, there, rfl⟩
      · refine .inl ⟨name, ?_⟩
        rwa [Table.behind_hideColumn, NameMap.find?_erase_of_ne _ same]
  | @renames op _ column free there =>
      refine .inl ?_
      by_cases same : name = op.source
      · subst same
        rw [Table.find?_behind, there] at found
        cases found
        exact ⟨op.target, by rw [Table.behind_renameColumn, NameMap.find?_insert_self]⟩
      · refine ⟨name, ?_⟩
        rwa [Table.behind_renameColumn, NameMap.find?_insert_of_ne _ (ne_of_free free found),
          NameMap.find?_erase_of_ne _ same]

/-- What is behind a name after a renaming was behind the old name or is behind the same one. -/
theorem find?_renamed {source target name : String} {column : Column}
    (there : table.column? source = some column)
    (found : ((table.behind.erase source).insert target column.name).find? name = some physical) :
    name = target ∧ table.behind.find? source = some physical ∨
      name ≠ target ∧ name ≠ source ∧ table.behind.find? name = some physical := by
  by_cases same : name = target
  · rw [same, NameMap.find?_insert_self] at found
    refine .inl ⟨same, ?_⟩
    rw [Table.find?_behind, there]
    exact found
  · rw [NameMap.find?_insert_of_ne _ same] at found
    have other : name ≠ source := by
      intro gone
      rw [gone, NameMap.find?_erase_self] at found
      cases found
    rw [NameMap.find?_erase_of_ne _ other] at found
    exact .inr ⟨same, other, found⟩

/-- What is behind a name afterwards was behind a name before, and behind different names if so
afterwards, unless it is a shadow. -/
theorem exists_origin (turned : op.Turns exposed table shown) (plain : ¬IsShadowName physical) :
    ∃ origin : String → String,
      (∀ name, shown.behind.find? name = some physical →
        table.behind.find? (origin name) = some physical) ∧
      ∀ first second, shown.behind.find? first = some physical →
        shown.behind.find? second = some physical →
          origin first = origin second → first = second := by
  cases turned with
  | stays _ _ columns =>
      have same : shown.behind = table.behind := by rw [Table.behind, columns, Table.behind]
      exact ⟨id, fun name found => same ▸ found, fun _ _ _ _ => id⟩
  | @adds op _ free =>
      refine ⟨id, fun name found => ?_, fun _ _ _ _ => id⟩
      have behind : (op.extend table).behind = table.behind.insert op.column.name op.shadow :=
        Table.behind_exposeColumn _
      rw [behind] at found
      by_cases same : name = op.column.name
      · rw [same, NameMap.find?_insert_self] at found
        cases found
        exact absurd ⟨_, rfl⟩ plain
      · rwa [NameMap.find?_insert_of_ne _ same] at found
  | @hides op _ column there =>
      refine ⟨id, fun name found => ?_, fun _ _ _ _ => id⟩
      rw [Table.behind_hideColumn] at found
      by_cases same : name = op.column
      · rw [same, NameMap.find?_erase_self] at found
        cases found
      · rwa [NameMap.find?_erase_of_ne _ same] at found
  | @renames op _ column free there =>
      rw [Table.behind_renameColumn]
      refine ⟨fun name => if name = op.target then op.source else name, fun name found => ?_,
        fun first second foundFirst foundSecond same => ?_⟩
      · rcases find?_renamed there found with ⟨rfl, origin⟩ | ⟨target, _, origin⟩
        · simpa using origin
        · simpa [target] using origin
      · rcases find?_renamed there foundFirst with ⟨rfl, _⟩ | ⟨target, source, _⟩ <;>
          rcases find?_renamed there foundSecond with ⟨rfl, _⟩ | ⟨target', source', _⟩
        · rfl
        · exact absurd (by simpa [target'] using same.symm) source'
        · exact absurd (by simpa [target] using same) source
        · simpa [target, target'] using same

end Operation.Turns

/-! ## Keys that are lost -/

/-- The operation drops a column of the key from the table that is exposed under the name. -/
def Operation.DropsKey (before : Schema) (op : Operation) (exposed : String) : Prop :=
  ∃ drop table column, op = .dropColumn drop ∧ drop.table = exposed ∧
    before.table? exposed = some table ∧ table.column? drop.column = some column ∧
      column.name ∈ table.primaryKey

/-- The operation makes a table under the name. -/
def Operation.Makes (exposed : String) (op : Operation) : Prop :=
  ∃ created, op = .createTable created ∧ created.name = exposed

/-- Some operation drops a column of the key from the table that is exposed under the name, and no
operation after it makes the table anew. -/
inductive LosesKey : Schema → List Operation → String → Prop where
  | here {before : Schema} {op : Operation} {rest : List Operation} {exposed : String}
      (drops : op.DropsKey before exposed) (lasts : ∀ later ∈ rest, ¬later.Makes exposed) :
      LosesKey before (op :: rest) exposed
  | later {before between : Schema} {op : Operation} {rest : List Operation} {exposed : String}
      (checked : op.check.Passes before () between) (loses : LosesKey between rest exposed) :
      LosesKey before (op :: rest) exposed

/-- A key is only lost where a column of the table is dropped. -/
theorem LosesKey.exists_drop (loses : LosesKey before operations exposed) :
    ∃ drop, .dropColumn drop ∈ operations ∧ drop.table = exposed := by
  induction loses with
  | here drops lasts =>
      obtain ⟨drop, _, _, rfl, named, _⟩ := drops
      exact ⟨drop, List.mem_cons_self, named⟩
  | later checked loses ih =>
      obtain ⟨drop, member, named⟩ := ih
      exact ⟨drop, List.mem_cons_of_mem _ member, named⟩

/-- If a table is exposed under the name, it shows its key. -/
def Schema.KeyShown (schema : Schema) (exposed : String) : Prop :=
  ∀ table, schema.table? exposed = some table → table.ShowsKey

theorem Operation.keyShown_of_makes (makes : op.Makes exposed)
    (checked : op.check.Passes before () after) : after.KeyShown exposed := by
  intro shown found
  cases produces_of_check checked found with
  | @makes op => exact op.showsKey_snapshot
  | turns there elsewhere turned =>
      obtain ⟨created, making, named⟩ := makes
      exact absurd named (elsewhere created making)

/-- An operation that drops no column of the key leaves the table with its key. -/
theorem Operation.keyShown_step (checked : op.check.Passes before () after)
    (keeps : ¬op.DropsKey before exposed) (keyed : before.KeyShown exposed) :
    after.KeyShown exposed := by
  intro shown found
  cases produces_of_check checked found with
  | @makes op => exact op.showsKey_snapshot
  | turns there elsewhere turned =>
      intro key member
      rw [turned.primaryKey] at member
      rcases turned.showsColumn (keyed _ there key member) with shows |
        ⟨drop, column, rfl, named, held, rfl⟩
      · exact shows
      · exact absurd ⟨drop, _, column, rfl, named, there, held, member⟩ keeps

/-- After operations that lose no key, a table that is exposed under the name shows its key, if it
did in the beginning or is made on the way. -/
theorem Reports.keyShown {tables : List Table} (reports : Reports before operations tables after)
    (begins : before.KeyShown exposed ∨ ∃ op ∈ operations, op.Makes exposed)
    (keeps : ¬LosesKey before operations exposed) : after.KeyShown exposed := by
  induction reports with
  | nil =>
      rcases begins with keyed | ⟨_, impossible, _⟩
      · exact keyed
      · cases impossible
  | @cons before between after op rest tables checked others ih =>
      have later : ¬LosesKey between rest exposed := fun loses => keeps (.later checked loses)
      by_cases anew : ∃ later ∈ rest, later.Makes exposed
      · exact ih (.inr anew) later
      · refine ih (.inl ?_) later
        by_cases makes : op.Makes exposed
        · exact Operation.keyShown_of_makes makes checked
        · have keyed : before.KeyShown exposed := by
            rcases begins with keyed | ⟨other, member, making⟩
            · exact keyed
            · rcases List.mem_cons.mp member with rfl | among
              · exact absurd making makes
              · exact absurd ⟨other, among, making⟩ anew
          refine Operation.keyShown_step checked (fun drops => keeps (.here drops ?_)) keyed
          exact fun other among making => anew ⟨other, among, making⟩

/-! ## A key that is lost is not found again -/

namespace Table

/-- The parts of the key are no shadows, and each is shown under one name at most. -/
def PlainKey (t : Table) : Prop :=
  ∀ key ∈ t.primaryKey, ¬IsShadowName key ∧ ∀ first second,
    t.behind.find? first = some key → t.behind.find? second = some key → first = second

/-- The table shows no column for some part of its key, which is no shadow. -/
def LacksKey (t : Table) : Prop :=
  ∃ key ∈ t.primaryKey, ¬IsShadowName key ∧ ¬t.ShowsColumn key

theorem LacksKey.not_showsKey (lacks : table.LacksKey) : ¬table.ShowsKey := by
  obtain ⟨key, member, _, hidden⟩ := lacks
  exact fun shows => hidden (shows key member)

/-- A key that a settled table shows is plain. -/
theorem Settled.plainKey (settled : table.Settled) (shows : table.ShowsKey) : table.PlainKey := by
  have own {name key : String} (found : table.behind.find? name = some key) :
      key = name ∧ ¬IsShadowName name := by
    obtain ⟨column, there, rfl⟩ := Option.map_eq_some_iff.mp (find?_behind.symm.trans found)
    exact settled (name, column) (NameMap.mem_entries_iff.mpr there)
  intro key member
  obtain ⟨name, found⟩ := shows key member
  refine ⟨(own found).1 ▸ (own found).2, fun first second foundFirst foundSecond => ?_⟩
  exact (own foundFirst).1.symm.trans (own foundSecond).1

end Table

theorem CreateTable.plainKey_snapshot (op : CreateTable)
    (plain : ∀ key ∈ op.keyColumns, ¬IsShadowName key) : op.snapshot.PlainKey := by
  intro key member
  refine ⟨plain key member, fun first second foundFirst foundSecond => ?_⟩
  have own {name : String} (found : op.snapshot.behind.find? name = some key) : name = key := by
    rw [op.find?_behind_snapshot] at found
    split at found
    · exact Option.some.inj found
    · cases found
  exact (own foundFirst).trans (own foundSecond).symm

namespace Operation.Turns

theorem plainKey (turned : op.Turns exposed table shown) (plain : table.PlainKey) :
    shown.PlainKey := by
  intro key member
  rw [turned.primaryKey] at member
  obtain ⟨unshadowed, once⟩ := plain key member
  obtain ⟨origin, before, apart⟩ := turned.exists_origin unshadowed
  refine ⟨unshadowed, fun first second foundFirst foundSecond => ?_⟩
  exact apart first second foundFirst foundSecond
    (once _ _ (before first foundFirst) (before second foundSecond))

theorem lacksKey (turned : op.Turns exposed table shown) (lacks : table.LacksKey) :
    shown.LacksKey := by
  obtain ⟨key, member, unshadowed, hidden⟩ := lacks
  refine ⟨key, turned.primaryKey ▸ member, unshadowed, ?_⟩
  rintro ⟨name, found⟩
  obtain ⟨origin, before, _⟩ := turned.exists_origin unshadowed
  exact hidden ⟨_, before name found⟩

end Operation.Turns

/-- A table that is exposed under the name lacks a column of its key. -/
def Schema.KeyLacking (schema : Schema) (exposed : String) : Prop :=
  ∀ table, schema.table? exposed = some table → table.LacksKey

/-- The tables that are exposed have plain keys. -/
def Schema.PlainKeys (schema : Schema) : Prop :=
  ∀ exposed table, schema.table? exposed = some table → table.PlainKey

/-- No part of a key that the operations make is named like a shadow. -/
def MakesPlainKeys (operations : List Operation) : Prop :=
  ∀ created, .createTable created ∈ operations → ∀ key ∈ created.keyColumns, ¬IsShadowName key

namespace Operation

theorem plainKeys_step (checked : op.check.Passes before () after)
    (makes : MakesPlainKeys [op]) (plain : before.PlainKeys) : after.PlainKeys := by
  intro exposed shown found
  cases produces_of_check checked found with
  | @makes op => exact op.plainKey_snapshot (makes op List.mem_cons_self)
  | turns there elsewhere turned => exact turned.plainKey (plain _ _ there)

theorem keyLacking_step (checked : op.check.Passes before () after) (elsewhere : ¬op.Makes exposed)
    (lacking : before.KeyLacking exposed) : after.KeyLacking exposed := by
  intro shown found
  cases produces_of_check checked found with
  | @makes op => exact absurd ⟨op, rfl, rfl⟩ elsewhere
  | turns there _ turned => exact turned.lacksKey (lacking _ there)

/-- A column of a plain key that is dropped is missing. -/
theorem keyLacking_of_dropsKey (checked : op.check.Passes before () after)
    (plain : before.PlainKeys) (drops : op.DropsKey before exposed) : after.KeyLacking exposed := by
  obtain ⟨drop, table, column, rfl, rfl, there, held, member⟩ := drops
  obtain ⟨_, there', _, rfl⟩ := drop.passes_check.mp checked
  cases there.symm.trans there'
  intro shown found
  cases (NameMap.find?_insert_self ..).symm.trans found
  obtain ⟨unshadowed, once⟩ := plain _ _ there _ member
  refine ⟨column.name, member, unshadowed, ?_⟩
  rintro ⟨name, shows⟩
  rw [Table.behind_hideColumn] at shows
  by_cases same : name = drop.column
  · rw [same, NameMap.find?_erase_self] at shows
    cases shows
  · rw [NameMap.find?_erase_of_ne _ same] at shows
    exact same (once _ _ shows (Table.find?_behind.trans (by rw [held]; rfl)))

end Operation

theorem Reports.keyLacking {tables : List Table} (reports : Reports before operations tables after)
    (lacking : before.KeyLacking exposed) (elsewhere : ∀ op ∈ operations, ¬op.Makes exposed) :
    after.KeyLacking exposed := by
  induction reports with
  | nil => exact lacking
  | cons checked others ih =>
      obtain ⟨first, rest⟩ := List.forall_mem_cons.mp elsewhere
      exact ih (Operation.keyLacking_step checked first lacking) rest

/-- Where the keys are plain, a table whose key is lost lacks a column of it in the end. -/
theorem LosesKey.keyLacking {tables : List Table} (loses : LosesKey before operations exposed)
    (reports : Reports before operations tables after) (makes : MakesPlainKeys operations)
    (plain : before.PlainKeys) : after.KeyLacking exposed := by
  induction loses generalizing tables with
  | here drops lasts =>
      cases reports with
      | cons checked others =>
          exact others.keyLacking (Operation.keyLacking_of_dropsKey checked plain drops) lasts
  | @later before between op rest exposed checked loses ih =>
      cases reports with
      | cons checked' others =>
          cases checked.symm.trans checked'
          refine ih others (fun created member => makes created (List.mem_cons_of_mem _ member)) ?_
          refine Operation.plainKeys_step checked (fun created member => ?_) plain
          cases List.mem_singleton.mp member
          exact makes created List.mem_cons_self

/-! ## The tables that a migration fills -/

/-- Each table of the snapshot shows its key. -/
def Schema.ShowsKeys (schema : Schema) : Prop :=
  ∀ exposed, schema.KeyShown exposed

/-- No operation adds a computed column to a table whose key the operations before have lost. -/
def Migration.LeavesKeys (m : Migration) (before : Schema) : Prop :=
  ∀ earlier added later, m.operations = earlier ++ .addColumn added :: later → added.up ≠ none →
    ¬LosesKey before earlier added.table

namespace MigrationSession

variable {s : MigrationSession} {m : Migration} {tables : List Table}

/-- A table that gets a computed column has batches if it has not lost its key. -/
theorem exists_batch_of_leavesKeys (schema : String)
    (reports : Reports before m.operations tables after) (keyed : before.ShowsKeys)
    (leaves : m.LeavesKeys before) (member : table ∈ tables) :
    ∃ batch, Batch.ofTable schema table = .ok batch := by
  obtain ⟨earlier, op, later, early, between, next, split, reached, checked, fills⟩ :=
    reports.exists_split member
  obtain ⟨added, exposed, rfl, computed, there, rfl⟩ := Operation.eq_of_toFill fills
  obtain ⟨_, _, _, there', free, _, _, key, rfl⟩ := added.passes_check.mp checked
  cases there.symm.trans there'
  have kept := reached.keyShown (.inl (keyed _)) (leaves earlier added later split computed)
  refine exists_batch_iff.mpr ⟨key computed, fun part among => ?_⟩
  rcases (Operation.Turns.adds free).showsColumn (kept _ there part among) with shows |
    ⟨_, _, impossible, _⟩
  · exact shows
  · cases impossible

/-- A table that gets a computed column has no batches if it has lost its key. -/
theorem leavesKeys_of_batches (reports : Reports before m.operations tables after)
    (plain : before.PlainKeys) (makes : MakesPlainKeys m.operations)
    (batches : ∀ table ∈ tables, ∃ batch, Batch.ofTable schema table = .ok batch) :
    m.LeavesKeys before := by
  intro earlier added later split computed loses
  obtain ⟨early, between, next, late, reached, checked, _, rfl⟩ := reports.split split
  obtain ⟨_, _, table, there, free, _, _, _, _⟩ := added.passes_check.mp checked
  have lacks : (added.extend table).LacksKey := by
    refine (Operation.Turns.adds free).lacksKey (loses.keyLacking reached ?_ plain table there)
    intro created member
    exact makes created (split ▸ List.mem_append_left _ member)
  obtain ⟨up, computed⟩ := Option.ne_none_iff_exists'.mp computed
  have reported : (Operation.addColumn added).toFill between = some (added.extend table) := by
    simp [Operation.toFill, there, computed]
  refine lacks.not_showsKey (exists_batch_iff.mp (batches _ ?_)).2
  simp [reported]

/-- A migration that is valid on a snapshot whose tables show their keys. If it adds no
computed column to a table after dropping a column of its key, every table that its start
returns has batches, and its backfill fails with errors of the session and of the database
only. If all columns are exposed under their own names, and neither they nor the keys of new
tables are named like shadows, this holds of no other migration: some table that its start
returns has no batches then. -/
theorem batches_iff_leavesKeys (validated : m.validated before = .ok after)
    (keyed : before.ShowsKeys) {notes : List Note}
    (shown : (s.expandOrUndo m before).Shows notes (.ok tables)) :
    (m.LeavesKeys before → ∀ table ∈ tables,
      (∃ batch, Batch.ofTable s.schema table = .ok batch) ∧
      ∀ config filling error,
        (Backfill.run config s.schema table).Shows filling (.error error) → error.FromSession) ∧
    ((∀ exposed table, before.table? exposed = some table → table.Settled) →
      MakesPlainKeys m.operations →
      ((∀ table ∈ tables, ∃ batch, Batch.ofTable s.schema table = .ok batch) ↔
        m.LeavesKeys before)) := by
  have reports := reports_expandOrUndo validated notes tables shown.dialogue
  refine ⟨fun leaves table member => ?_, fun settled makes => ⟨?_, fun leaves table member => ?_⟩⟩
  · obtain ⟨batch, made⟩ := exists_batch_of_leavesKeys s.schema reports keyed leaves member
    exact ⟨⟨batch, made⟩, fun config filling error failed =>
      Backfill.comesTo_run made _ _ failed.dialogue⟩
  · exact leavesKeys_of_batches reports
      (fun exposed table found =>
        (settled exposed table found).plainKey (keyed exposed table found))
      makes
  · exact exists_batch_of_leavesKeys s.schema reports keyed leaves member

/-! ## A key that is renamed and a key that is dropped -/

theorem showsKeys_withOrders : withOrders.ShowsKeys := by
  have all : ∀ entry ∈ withOrders.tables.entries, ∀ key ∈ entry.2.primaryKey,
      ∃ column ∈ entry.2.columns.values, column.name = key := by decide
  intro exposed table found key member
  exact Table.showsColumn_iff.mpr
    (all (exposed, table) (NameMap.mem_entries_iff.mpr found) key member)

/-- An operation that adds a computed column to the users. -/
def fillsEmail : Operation :=
  .addColumn
    { table := "users"
      column := { ColumnDefinition.ofType "email" "text" with nullable := true }
      up := some "lower(name)" }

/-- A migration that renames the column of the key and adds a computed column. -/
def renamesKey : Migration :=
  { name := "rename_key"
    versionSchema := none
    operations := [
      .renameColumn { table := "users", source := "id", target := "number" },
      fillsEmail] }

/-- A migration that drops the column of the key and adds a computed column. -/
def dropsKey : Migration :=
  { name := "drop_key"
    versionSchema := none
    operations := [
      .dropColumn { table := "users", column := "id", down := none },
      fillsEmail] }

/-- A renaming does not keep the users from being filled. -/
theorem batches_of_renamesKey :
    renamesKey.LeavesKeys withOrders ∧
    ∃ notes table, (usual.expandOrUndo renamesKey withOrders).Shows notes (.ok [table]) ∧
      ∃ batch, Batch.ofTable "public" table = .ok batch := by
  obtain ⟨played, validated⟩ : ∃ played, renamesKey.validated withOrders = .ok played := ⟨_, rfl⟩
  have leaves : renamesKey.LeavesKeys withOrders := by
    intro earlier added later split computed loses
    obtain ⟨drop, member, _⟩ := loses.exists_drop
    have among : .dropColumn drop ∈ renamesKey.operations := split ▸ List.mem_append_left _ member
    simp [renamesKey, fillsEmail] at among
  have shown : (usual.expandOrUndo renamesKey withOrders).Shows
      ((usual.expandOrUndo renamesKey withOrders).notesWith (finishing renamesKey)) (.ok [_]) :=
    shows_of_outcomeWith rfl
  obtain ⟨batches, _⟩ :=
    batches_iff_leavesKeys (s := usual) validated showsKeys_withOrders shown
  exact ⟨leaves, _, _, shown, (batches leaves _ List.mem_cons_self).1⟩

/-- The migration that drops the column of the key is valid too, and everything it asks for is
accepted. But the users cannot be filled, and the start fails for that reason. -/
theorem no_batches_of_dropsKey :
    dropsKey.validate withOrders = .ok () ∧ withOrders.ShowsKeys ∧
    (∃ notes table, (usual.expandOrUndo dropsKey withOrders).Shows notes (.ok [table]) ∧
      Batch.ofTable "public" table =
        .error (.backfill "users" "primary key column missing from schema")) ∧
    ∃ notes, (usual.startWith dropsKey withOrders).Shows notes
      (.error (.startFailed (.backfill "users" "primary key column missing from schema"))) :=
  ⟨rfl, showsKeys_withOrders,
    ⟨(usual.expandOrUndo dropsKey withOrders).notesWith (finishing dropsKey), _,
      shows_of_outcomeWith rfl, rfl⟩,
    ⟨(usual.startWith dropsKey withOrders).notesWith
      (reporting withOrders dropsKey fun _ => .ok .none), shows_of_outcomeWith rfl⟩⟩

end MigrationSession

end ExpandContract
