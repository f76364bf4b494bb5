import ExpandContract.Proofs.Catalogue.Basic

/-!
# What has been made in a catalogue

The objects that have been made since the beginning, wherever they are by now: tables, columns and
indexes by their origin, and triggers, of which there are none in the beginning. An object of a
table (`Item`) goes with its table when the table is renamed, and is gone with it when the table is
dropped.

A change gives some objects to the tables and takes others away (`Sql.Change.Gives`,
`Sql.Change.Takes`), and it may rename a table. `Holdings.holds_of_apply` and
`Holdings.holds_apply` say that nothing else is made by a change, and nothing else is lost.
-/

set_option autoImplicit false

namespace ExpandContract

open Sql (Change syncTriggerName)

/-! ## Objects that have been made -/

/-- What can be made in a table: the table itself, and what belongs to it. -/
inductive Item where
  | table
  | column (name : String)
  | index (name : String)
  | trigger (name : String)
deriving DecidableEq, Repr

/-- The object of the table has been made since the beginning. -/
def StoredTable.Made (t : StoredTable) : Item → Prop
  | .table => t.origin = .created
  | .column name => t.columns.find? name = some .created
  | .index name => t.indexes.find? name = some .created
  | .trigger _ => False

/-- The tables of a schema and the triggers that keep columns in step. -/
structure Holdings where
  catalogue : Catalogue
  /-- The table of each trigger, and its name. -/
  triggers : List (String × String)

namespace Holdings

/-- The tables of a schema, without triggers. -/
def ofSchema (schema : Schema) : Holdings :=
  { catalogue := .ofSchema schema, triggers := [] }

/-- A trigger after a table has been renamed. -/
def retarget (source target : String) (trigger : String × String) : String × String :=
  if trigger.1 = source then (target, trigger.2) else trigger

/-- The tables and the triggers after a change. A table that is renamed keeps its triggers, and one
that is dropped loses them. -/
def apply (h : Holdings) (statement : Change) : Holdings :=
  { catalogue := h.catalogue.apply statement
    triggers := match statement with
      | .dropTable _ table => h.triggers.filter fun trigger => trigger.1 ≠ table
      | .renameTable _ source target _ =>
          if h.catalogue.tables.contains source && !h.catalogue.tables.contains target then
            h.triggers.map (retarget source target)
          else h.triggers
      | .createSyncTrigger t =>
          if h.catalogue.tables.contains t.table then
            (t.table, syncTriggerName t.table t.key) :: h.triggers
          else h.triggers
      | .dropSyncTrigger _ table key =>
          h.triggers.filter fun trigger => trigger ≠ (table, syncTriggerName table key)
      | _ => h.triggers }

/-- The tables and the triggers after changes, made one after the other. -/
def after (h : Holdings) (changes : List Change) : Holdings :=
  changes.foldl apply h

/-- The table of this name holds an object that has been made. -/
def Holds (h : Holdings) (name : String) (item : Item) : Prop :=
  (∃ t, h.catalogue.tables.find? name = some t ∧ t.Made item) ∨
    ∃ trigger, item = .trigger trigger ∧ (name, trigger) ∈ h.triggers

/-- No table holds an object that has been made. -/
def Clean (h : Holdings) : Prop :=
  ∀ name item, ¬h.Holds name item

variable {h : Holdings} {name : String} {item : Item} {statement : Change}

theorem after_append (h : Holdings) (first rest : List Change) :
    h.after (first ++ rest) = (h.after first).after rest :=
  List.foldl_append

theorem catalogue_after (h : Holdings) (changes : List Change) :
    (h.after changes).catalogue = h.catalogue.after changes := by
  induction changes generalizing h with
  | nil => rfl
  | cons statement rest ih => exact ih (h.apply statement)

/-- Nothing has been made in the beginning. -/
theorem clean_ofSchema (schema : Schema) : (ofSchema schema).Clean := by
  rintro name item (⟨t, found, made⟩ | ⟨_, _, ⟨⟩⟩)
  obtain ⟨table, _, rfl⟩ := Option.map_eq_some_iff.mp ((NameMap.find?_map _ _ _).symm.trans found)
  cases item with
  | table => cases made
  | column name =>
      obtain ⟨_, _, ⟨⟩⟩ := Option.map_eq_some_iff.mp ((NameMap.find?_map _ _ _).symm.trans made)
  | index name =>
      obtain ⟨_, _, ⟨⟩⟩ := Option.map_eq_some_iff.mp ((NameMap.find?_map _ _ _).symm.trans made)
  | trigger name => exact made

end Holdings

/-! ## What changes give and take -/

/-- The change may give an object to the table of this name. -/
def Sql.Change.Gives (name : String) (item : Item) : Change → Prop
  | .createTable _ table _ _ _ _ =>
      name = table ∧ (item = .table ∨ ∃ column, item = .column column)
  | .addColumn _ table column _ => name = table ∧ item = .column column.name
  | .renameColumn _ table source target =>
      name = table ∧ (item = .column source ∨ item = .column target)
  | .createIndex _ _ index _ _ => item = .index index
  | .createSyncTrigger t => name = t.table ∧ item = .trigger (syncTriggerName t.table t.key)
  | _ => False

/-- The change takes the object away from the table of this name, if the table has it. -/
def Sql.Change.Takes (name : String) (item : Item) : Change → Prop
  | .dropTable _ table => name = table
  | .dropColumns _ table columns _ => name = table ∧ ∃ column ∈ columns, item = .column column
  | .renameColumn _ table source _ => name = table ∧ item = .column source
  | .dropIndex _ index => item = .index index
  | .dropSyncTrigger _ table key => name = table ∧ item = .trigger (syncTriggerName table key)
  | _ => False

/-- The change renames a table of this name. -/
def Sql.Change.Moves (source target : String) : Change → Prop
  | .renameTable _ table name _ => table = source ∧ name = target
  | _ => False

/-- The change is not about tables, as far as anything is known about it. -/
def Sql.Change.Neutral : Change → Prop
  | .makeVersionSchema _ => True
  | .dropVersionSchema _ => True
  | .raw _ => True
  | _ => False

namespace StoredTable

variable {t : StoredTable} {item : Item} {name source target : String}

/-- A new table has no indexes. -/
theorem of_made_ofSpecs {columns : List Sql.ColumnSpec} (made : (ofSpecs columns).Made item) :
    item = .table ∨ ∃ column, item = .column column := by
  cases item with
  | table => exact .inl rfl
  | column name => exact .inr ⟨name, rfl⟩
  | index name => cases made
  | trigger name => exact made.elim

theorem made_addColumn :
    (t.addColumn name).Made item ↔
      t.Made item ∨ item = .column name ∧ t.columns.find? name = none := by
  unfold addColumn
  split
  · rename_i taken
    have taken : t.columns.find? name ≠ none := by
      rw [NameMap.contains] at taken
      exact Option.isSome_iff_ne_none.mp taken
    simp [taken]
  · rename_i free
    have free : t.columns.find? name = none := by
      rw [NameMap.contains] at free
      simpa using free
    cases item with
    | column other =>
        by_cases same : other = name
        · subst same
          simp [Made, free]
        · simp [Made, NameMap.find?_insert_of_ne _ same, same]
    | _ => simp [Made]

theorem made_dropColumns {names : List String} :
    (t.dropColumns names).Made item ↔ t.Made item ∧ ∀ column ∈ names, item ≠ .column column := by
  cases item with
  | column name =>
      simp only [Made, find?_dropColumns]
      split
      · rename_i dropped
        simp [dropped]
      · rename_i stays
        have other : ∀ column ∈ names, Item.column name ≠ .column column := by
          rintro column member ⟨⟩
          exact stays member
        simp only [and_iff_left other]
  | _ => simp [Made, dropColumns]

theorem made_of_renameColumn (made : (t.renameColumn source target).Made item) :
    t.Made item ∨ item = .column target := by
  unfold renameColumn at made
  split at made
  · cases item with
    | column name =>
        by_cases same : name = target
        · exact .inr (same ▸ rfl)
        · refine .inl ?_
          rw [Made, NameMap.find?_insert_of_ne _ same] at made
          by_cases gone : name = source
          · subst gone
            rw [NameMap.find?_erase_self] at made
            cases made
          · exact (NameMap.find?_erase_of_ne _ gone).symm.trans made
    | _ => exact .inl made
  · exact .inl made

theorem made_renameColumn (made : t.Made item) (other : item ≠ .column source) :
    (t.renameColumn source target).Made item := by
  unfold renameColumn
  split
  · rename_i free
    cases item with
    | column name =>
        have different : name ≠ target := by
          rintro rfl
          rw [Made, free] at made
          cases made
        have kept : name ≠ source := by
          rintro rfl
          exact other rfl
        rw [Made, NameMap.find?_insert_of_ne _ different, NameMap.find?_erase_of_ne _ kept]
        exact made
    | _ => exact made
  · exact made

theorem made_of_addIndex (made : (t.addIndex name).Made item) :
    t.Made item ∨ item = .index name := by
  cases item with
  | index other =>
      by_cases same : other = name
      · exact .inr (same ▸ rfl)
      · exact .inl ((NameMap.find?_insert_of_ne _ same _).symm.trans made)
  | _ => exact .inl made

theorem made_addIndex (made : t.Made item) : (t.addIndex name).Made item := by
  cases item with
  | index other =>
      by_cases same : other = name
      · subst same
        exact NameMap.find?_insert_self _ _ _
      · exact (NameMap.find?_insert_of_ne _ same _).trans made
  | _ => exact made

theorem made_dropIndex : (t.dropIndex name).Made item ↔ t.Made item ∧ item ≠ .index name := by
  cases item with
  | index other =>
      by_cases same : other = name
      · subst same
        simp [Made, dropIndex]
      · simp [Made, dropIndex, NameMap.find?_erase_of_ne _ same, same]
  | _ => simp [Made, dropIndex]

end StoredTable

namespace Catalogue

variable {c : Catalogue} {name table source target : String} {item : Item}
  {f : StoredTable → StoredTable}

/-- The table of this name holds an object that has been made, other than a trigger. -/
def MadeIn (c : Catalogue) (name : String) (item : Item) : Prop :=
  ∃ t, c.tables.find? name = some t ∧ t.Made item

theorem madeIn_alter_self :
    (c.alter name f).MadeIn name item ↔ ∃ t, c.tables.find? name = some t ∧ (f t).Made item := by
  unfold MadeIn
  rw [find?_alter_self]
  constructor
  · rintro ⟨_, altered, made⟩
    obtain ⟨t, found, rfl⟩ := Option.map_eq_some_iff.mp altered
    exact ⟨t, found, made⟩
  · rintro ⟨t, found, made⟩
    exact ⟨f t, by rw [found]; rfl, made⟩

theorem madeIn_alter_of_ne (other : name ≠ table) :
    (c.alter table f).MadeIn name item ↔ c.MadeIn name item := by
  unfold MadeIn
  rw [find?_alter_of_ne other]

/-- What is in the table after the table was changed was there before, or the change has made it. -/
theorem madeIn_of_alter {new : Prop} (made : (c.alter table f).MadeIn name item)
    (gives : ∀ t : StoredTable, (f t).Made item → t.Made item ∨ new) :
    c.MadeIn name item ∨ name = table ∧ new := by
  by_cases same : name = table
  · subst same
    obtain ⟨t, found, made⟩ := madeIn_alter_self.mp made
    exact (gives t made).imp (fun old => ⟨t, found, old⟩) fun new => ⟨rfl, new⟩
  · exact .inl ((madeIn_alter_of_ne same).mp made)

/-- What is in a table stays there when a table is changed, unless the change takes it. -/
theorem madeIn_alter (made : c.MadeIn name item)
    (keeps : name = table → ∀ t : StoredTable, t.Made item → (f t).Made item) :
    (c.alter table f).MadeIn name item := by
  by_cases same : name = table
  · obtain ⟨t, found, made⟩ := made
    subst same
    exact madeIn_alter_self.mpr ⟨t, found, keeps rfl t made⟩
  · exact (madeIn_alter_of_ne same).mpr made

/-- The rename takes place: there is a table of the one name, and none of the other. -/
def Renames (c : Catalogue) (source target : String) : Prop :=
  (∃ t, c.tables.find? source = some t) ∧ c.tables.find? target = none

theorem renames_iff : c.Renames source target ↔
    (c.tables.contains source && !c.tables.contains target) = true := by
  unfold Renames NameMap.contains
  cases c.tables.find? source <;> cases c.tables.find? target <;> simp

theorem find?_rename_target (renames : c.Renames source target) :
    (c.rename source target).tables.find? target = c.tables.find? source := by
  obtain ⟨⟨t, found⟩, free⟩ := renames
  unfold rename
  rw [found, free]
  exact find?_put_self

theorem find?_rename_source (renames : c.Renames source target) :
    (c.rename source target).tables.find? source = none := by
  obtain ⟨⟨t, found⟩, free⟩ := renames
  have other : source ≠ target := by
    rintro rfl
    rw [free] at found
    cases found
  unfold rename
  rw [found, free]
  exact (find?_put_of_ne other).trans find?_remove_self

theorem find?_rename_of_ne (notSource : name ≠ source) (notTarget : name ≠ target) :
    (c.rename source target).tables.find? name = c.tables.find? name := by
  unfold rename
  split
  · exact (find?_put_of_ne notTarget).trans (find?_remove_of_ne notSource)
  · rfl

theorem rename_eq (fails : ¬c.Renames source target) : c.rename source target = c := by
  unfold rename
  split
  · rename_i t found free
    exact absurd ⟨⟨t, found⟩, free⟩ fails
  · rfl

/-- What a table holds after a change it held before, or the change has given it, or it was in a
table that has been renamed. -/
theorem madeIn_of_apply {statement : Change} (made : (c.apply statement).MadeIn name item) :
    c.MadeIn name item ∧ ¬statement.Takes name item ∨ statement.Gives name item ∨
      ∃ source, statement.Moves source name ∧ c.Renames source name ∧ c.MadeIn source item := by
  cases statement with
  | createTable _ table columns _ _ _ =>
      rw [Catalogue.apply] at made
      split at made
      · exact .inl ⟨made, id⟩
      · obtain ⟨t, found, made⟩ := made
        by_cases same : name = table
        · subst same
          cases find?_put_self.symm.trans found
          exact .inr (.inl ⟨rfl, StoredTable.of_made_ofSpecs made⟩)
        · exact .inl ⟨⟨t, (find?_put_of_ne same).symm.trans found, made⟩, id⟩
  | dropTable _ table =>
      obtain ⟨t, found, made⟩ := made
      by_cases same : name = table
      · subst same
        cases find?_remove_self.symm.trans found
      · exact .inl ⟨⟨t, (find?_remove_of_ne same).symm.trans found, made⟩, same⟩
  | renameTable _ source target _ =>
      by_cases renames : c.Renames source target
      · obtain ⟨t, found, made⟩ := made
        by_cases moved : name = target
        · subst moved
          exact .inr (.inr ⟨source, ⟨rfl, rfl⟩, renames, t,
            (find?_rename_target renames).symm.trans found, made⟩)
        · by_cases gone : name = source
          · subst gone
            cases (find?_rename_source renames).symm.trans found
          · exact .inl ⟨⟨t, (find?_rename_of_ne gone moved).symm.trans found, made⟩, id⟩
      · rw [Catalogue.apply, rename_eq renames] at made
        exact .inl ⟨made, id⟩
  | addColumn _ table column _ =>
      rcases madeIn_of_alter made fun t made =>
        (StoredTable.made_addColumn.mp made).imp_right And.left with old | new
      · exact .inl ⟨old, id⟩
      · exact .inr (.inl new)
  | dropColumns _ table columns _ =>
      by_cases same : name = table
      · subst same
        obtain ⟨t, found, made⟩ := madeIn_alter_self.mp made
        obtain ⟨made, stays⟩ := StoredTable.made_dropColumns.mp made
        exact .inl ⟨⟨t, found, made⟩, fun ⟨_, column, dropped, gone⟩ => stays column dropped gone⟩
      · exact .inl ⟨(madeIn_alter_of_ne same).mp made, fun taken => same taken.1⟩
  | renameColumn _ table source target =>
      rcases madeIn_of_alter made fun t => StoredTable.made_of_renameColumn with old | new
      · by_cases taken : name = table ∧ item = .column source
        · exact .inr (.inl ⟨taken.1, .inl taken.2⟩)
        · exact .inl ⟨old, taken⟩
      · exact .inr (.inl ⟨new.1, .inr new.2⟩)
  | createIndex _ table index _ _ =>
      rw [Catalogue.apply] at made
      split at made
      · exact .inl ⟨made, id⟩
      · rcases madeIn_of_alter made fun t => StoredTable.made_of_addIndex with old | new
        · exact .inl ⟨old, id⟩
        · exact .inr (.inl new.2)
  | dropIndex _ index =>
      obtain ⟨_, there, made⟩ := made
      obtain ⟨t, found, rfl⟩ :=
        Option.map_eq_some_iff.mp ((NameMap.find?_map _ _ _).symm.trans there)
      obtain ⟨made, other⟩ := StoredTable.made_dropIndex.mp made
      exact .inl ⟨⟨t, found, made⟩, other⟩
  | dropSyncTrigger _ table key =>
      refine .inl ⟨made, ?_⟩
      rintro ⟨_, rfl⟩
      obtain ⟨_, _, impossible⟩ := made
      exact impossible
  | _ => exact .inl ⟨made, id⟩

/-- What a table holds it still holds after a change that neither takes it nor renames the table. -/
theorem madeIn_apply {statement : Change} (made : c.MadeIn name item)
    (stays : ¬statement.Takes name item) (still : ∀ target, ¬statement.Moves name target) :
    (c.apply statement).MadeIn name item := by
  obtain ⟨t, found, inTable⟩ := made
  cases statement with
  | createTable _ table columns _ _ _ =>
      rw [Catalogue.apply]
      split
      · exact ⟨t, found, inTable⟩
      · rename_i free
        have other : name ≠ table := by
          rintro rfl
          exact free (by rw [NameMap.contains, found]; rfl)
        exact ⟨t, (find?_put_of_ne other).trans found, inTable⟩
  | dropTable _ table => exact ⟨t, (find?_remove_of_ne stays).trans found, inTable⟩
  | renameTable _ source target _ =>
      by_cases renames : c.Renames source target
      · have notTarget : name ≠ target := by
          rintro rfl
          rw [renames.2] at found
          cases found
        have notSource : name ≠ source := fun same => still target ⟨same.symm, rfl⟩
        exact ⟨t, (find?_rename_of_ne notSource notTarget).trans found, inTable⟩
      · rw [Catalogue.apply, rename_eq renames]
        exact ⟨t, found, inTable⟩
  | addColumn _ table column _ =>
      exact madeIn_alter ⟨t, found, inTable⟩ fun _ t made =>
        StoredTable.made_addColumn.mpr (.inl made)
  | dropColumns _ table columns _ =>
      refine madeIn_alter ⟨t, found, inTable⟩ fun same t made =>
        StoredTable.made_dropColumns.mpr ⟨made, ?_⟩
      rintro column dropped rfl
      exact stays ⟨same, column, dropped, rfl⟩
  | renameColumn _ table source target =>
      refine madeIn_alter ⟨t, found, inTable⟩ fun same t made =>
        StoredTable.made_renameColumn made ?_
      rintro rfl
      exact stays ⟨same, rfl⟩
  | createIndex _ table index _ _ =>
      rw [Catalogue.apply]
      split
      · exact ⟨t, found, inTable⟩
      · exact madeIn_alter ⟨t, found, inTable⟩ fun _ t => StoredTable.made_addIndex
  | dropIndex _ index =>
      refine ⟨t.dropIndex index, ?_, StoredTable.made_dropIndex.mpr ⟨inTable, stays⟩⟩
      rw [Catalogue.apply, NameMap.find?_map, found]
      rfl
  | _ => exact ⟨t, found, inTable⟩

end Catalogue

namespace Holdings

variable {h : Holdings} {name trigger : String} {item : Item} {statement : Change}

/-- A trigger after a change was there before, or the change has installed it, or its table has been
renamed. -/
theorem mem_triggers_of_apply (there : (name, trigger) ∈ (h.apply statement).triggers) :
    (name, trigger) ∈ h.triggers ∧ ¬statement.Takes name (.trigger trigger) ∨
      statement.Gives name (.trigger trigger) ∨
      ∃ source, statement.Moves source name ∧ h.catalogue.Renames source name ∧
        (source, trigger) ∈ h.triggers := by
  cases statement with
  | dropTable _ table =>
      obtain ⟨there, other⟩ := List.mem_filter.mp there
      have other : name ≠ table := by simpa using other
      exact .inl ⟨there, other⟩
  | renameTable _ source target _ =>
      rw [apply] at there
      dsimp only at there
      split at there
      · rename_i renames
        obtain ⟨⟨place, other⟩, held, same⟩ := List.mem_map.mp there
        unfold retarget at same
        split at same
        · rename_i moved
          cases same
          exact .inr (.inr ⟨source, ⟨rfl, rfl⟩, Catalogue.renames_iff.mpr renames, moved ▸ held⟩)
        · cases same
          exact .inl ⟨held, id⟩
      · exact .inl ⟨there, id⟩
  | createSyncTrigger t =>
      rw [apply] at there
      dsimp only at there
      split at there
      · rcases List.mem_cons.mp there with new | old
        · cases new
          exact .inr (.inl ⟨rfl, rfl⟩)
        · exact .inl ⟨old, id⟩
      · exact .inl ⟨there, id⟩
  | dropSyncTrigger _ table key =>
      obtain ⟨there, other⟩ := List.mem_filter.mp there
      refine .inl ⟨there, ?_⟩
      rintro ⟨rfl, same⟩
      cases same
      simp at other
  | dropColumns =>
      refine .inl ⟨there, ?_⟩
      rintro ⟨_, _, _, ⟨⟩⟩
  | renameColumn =>
      refine .inl ⟨there, ?_⟩
      rintro ⟨_, ⟨⟩⟩
  | dropIndex => exact .inl ⟨there, by rintro ⟨⟩⟩
  | _ => exact .inl ⟨there, id⟩

theorem mem_triggers_apply (there : (name, trigger) ∈ h.triggers)
    (stays : ¬statement.Takes name (.trigger trigger))
    (still : ∀ target, ¬statement.Moves name target) :
    (name, trigger) ∈ (h.apply statement).triggers := by
  cases statement with
  | dropTable _ table =>
      have other : name ≠ table := stays
      exact List.mem_filter.mpr ⟨there, by simpa using other⟩
  | renameTable _ source target _ =>
      rw [apply]
      dsimp only
      split
      · refine List.mem_map.mpr ⟨_, there, ?_⟩
        rw [retarget, if_neg]
        exact fun same => still target ⟨same.symm, rfl⟩
      · exact there
  | createSyncTrigger t =>
      rw [apply]
      dsimp only
      split
      · exact List.mem_cons_of_mem _ there
      · exact there
  | dropSyncTrigger _ table key =>
      refine List.mem_filter.mpr ⟨there, ?_⟩
      have other : (name, trigger) ≠ (table, syncTriggerName table key) := by
        intro same
        cases same
        exact stays ⟨rfl, rfl⟩
      simpa only [decide_eq_true_eq] using other
  | _ => exact there

/-- What a table holds after a change it held before, or the change has given it, or it was in a
table that has been renamed. -/
theorem holds_of_apply (holds : (h.apply statement).Holds name item) :
    h.Holds name item ∧ ¬statement.Takes name item ∨ statement.Gives name item ∨
      ∃ source, statement.Moves source name ∧ h.catalogue.Renames source name ∧
        h.Holds source item := by
  rcases holds with made | ⟨trigger, rfl, there⟩
  · rcases Catalogue.madeIn_of_apply made with ⟨old, stays⟩ | new | ⟨source, moves, renames, old⟩
    · exact .inl ⟨.inl old, stays⟩
    · exact .inr (.inl new)
    · exact .inr (.inr ⟨source, moves, renames, .inl old⟩)
  · rcases mem_triggers_of_apply there with ⟨old, stays⟩ | new | ⟨source, moves, renames, old⟩
    · exact .inl ⟨.inr ⟨trigger, rfl, old⟩, stays⟩
    · exact .inr (.inl new)
    · exact .inr (.inr ⟨source, moves, renames, .inr ⟨trigger, rfl, old⟩⟩)

/-- What a table holds it still holds after a change that neither takes it nor renames the table. -/
theorem holds_apply (holds : h.Holds name item) (stays : ¬statement.Takes name item)
    (still : ∀ target, ¬statement.Moves name target) : (h.apply statement).Holds name item := by
  rcases holds with made | ⟨trigger, rfl, there⟩
  · exact .inl (Catalogue.madeIn_apply made stays still)
  · exact .inr ⟨trigger, rfl, mem_triggers_apply there stays still⟩

/-- What a table holds after several changes, none of which gives another table its name. -/
theorem holds_of_after {changes : List Change}
    (still : ∀ statement ∈ changes, ∀ source, ¬statement.Moves source name)
    (holds : (h.after changes).Holds name item) :
    (h.Holds name item ∧ ∀ statement ∈ changes, ¬statement.Takes name item) ∨
      ∃ statement ∈ changes, statement.Gives name item := by
  induction changes generalizing h with
  | nil => exact .inl ⟨holds, by simp⟩
  | cons statement rest ih =>
      obtain ⟨now, later⟩ := List.forall_mem_cons.mp still
      rcases ih later holds with ⟨held, kept⟩ | ⟨other, member, gives⟩
      · rcases holds_of_apply held with ⟨old, stays⟩ | new | ⟨source, moves, _⟩
        · exact .inl ⟨old, List.forall_mem_cons.mpr ⟨stays, kept⟩⟩
        · exact .inr ⟨statement, List.mem_cons_self, new⟩
        · exact absurd moves (now source)
      · exact .inr ⟨other, List.mem_cons_of_mem _ member, gives⟩

/-- What a table holds goes with it when it is renamed. -/
theorem holds_rename {schema source target : String} {ifExists : Bool}
    (renames : h.catalogue.Renames source target) (holds : h.Holds source item) :
    (h.apply (.renameTable schema source target ifExists)).Holds target item := by
  rcases holds with ⟨t, found, made⟩ | ⟨trigger, rfl, there⟩
  · exact .inl ⟨t, (Catalogue.find?_rename_target renames).trans found, made⟩
  · refine .inr ⟨trigger, rfl, ?_⟩
    rw [apply]
    dsimp only
    rw [if_pos (Catalogue.renames_iff.mp renames)]
    exact List.mem_map.mpr ⟨_, there, if_pos rfl⟩

theorem apply_neutral (neutral : statement.Neutral) : h.apply statement = h := by
  cases statement with
  | makeVersionSchema | dropVersionSchema | raw => rfl
  | _ => exact neutral.elim

theorem after_neutral {changes : List Change}
    (neutral : ∀ statement ∈ changes, statement.Neutral) : h.after changes = h := by
  induction changes generalizing h with
  | nil => rfl
  | cons statement rest ih =>
      obtain ⟨now, later⟩ := List.forall_mem_cons.mp neutral
      change (h.apply statement).after rest = h
      rw [apply_neutral now, ih later]

end Holdings

end ExpandContract
