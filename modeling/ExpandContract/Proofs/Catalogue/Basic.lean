import ExpandContract.Schema.Basic
import ExpandContract.Sql.Change

/-!
# Catalogues

A catalogue holds the tables of one schema under the names they have at a moment, with their columns
and indexes. It also tells where each of these objects comes from (`Origin`), so an object that was
there in the beginning is still known when it has another name, and is not mistaken for a new object
that has got its name.

`Catalogue.apply` says what a change does to the objects. A table that is renamed stays the same
table; what is dropped is whatever has the name at that moment, and nothing where there is no such
object. A change that the objects do not allow leaves them as they are. So does SQL of the user,
about which nothing is known.
-/

set_option autoImplicit false

namespace ExpandContract

open Sql (Change ColumnSpec)

/-! ## Objects -/

/-- Where an object comes from. -/
inductive Origin where
  /-- It was there in the beginning, under this name. -/
  | original (name : String)
  /-- It has been made since. -/
  | created
deriving DecidableEq, Repr

/-- A table of a catalogue, with its columns and indexes under their names. -/
structure StoredTable where
  origin : Origin
  columns : NameMap Origin
  indexes : NameMap Origin
deriving DecidableEq

namespace StoredTable

/-- A table that was there in the beginning. -/
def ofTable (name : String) (t : Table) : StoredTable :=
  { origin := .original name
    columns := t.columns.map fun column _ => .original column
    indexes := t.indexes.map fun index _ => .original index }

/-- A new table. -/
def ofSpecs (columns : List ColumnSpec) : StoredTable :=
  { origin := .created
    columns := .ofList (columns.map fun c => (c.name, .created))
    indexes := .empty }

/-- The table with a new column, unless it has one of that name. -/
def addColumn (t : StoredTable) (name : String) : StoredTable :=
  if t.columns.contains name then t
  else { t with columns := t.columns.insert name .created }

/-- The table without the columns of these names. -/
def dropColumns (t : StoredTable) (names : List String) : StoredTable :=
  { t with columns := names.foldl NameMap.erase t.columns }

/-- The table with a column under another name, unless it has a column of that name. -/
def renameColumn (t : StoredTable) (source target : String) : StoredTable :=
  match t.columns.find? source, t.columns.find? target with
  | some origin, none => { t with columns := (t.columns.erase source).insert target origin }
  | _, _ => t

/-- The table with a new index. -/
def addIndex (t : StoredTable) (name : String) : StoredTable :=
  { t with indexes := t.indexes.insert name .created }

/-- The table without the index of that name. -/
def dropIndex (t : StoredTable) (name : String) : StoredTable :=
  { t with indexes := t.indexes.erase name }

end StoredTable

/-! ## Changes of a catalogue -/

/-- The tables of a schema under their names. -/
structure Catalogue where
  tables : NameMap StoredTable
deriving DecidableEq

namespace Catalogue

/-- The catalogue of a schema. The names that a snapshot exposes are taken for the names of the
objects, which they are as long as no migration is in progress. -/
def ofSchema (schema : Schema) : Catalogue :=
  { tables := schema.tables.map StoredTable.ofTable }

/-- The catalogue with a table under a name, in place of the table that had the name. -/
def put (c : Catalogue) (name : String) (t : StoredTable) : Catalogue :=
  { tables := c.tables.insert name t }

/-- The catalogue without the table of that name. -/
def remove (c : Catalogue) (name : String) : Catalogue :=
  { tables := c.tables.erase name }

/-- The catalogue with the table of that name changed, if there is one. -/
def alter (c : Catalogue) (name : String) (f : StoredTable → StoredTable) : Catalogue :=
  match c.tables.find? name with
  | some t => c.put name (f t)
  | none => c

/-- The catalogue with a table under another name, unless there is a table of that name. -/
def rename (c : Catalogue) (source target : String) : Catalogue :=
  match c.tables.find? source, c.tables.find? target with
  | some t, none => (c.remove source).put target t
  | _, _ => c

/-- Whether some table has an index of that name. -/
def hasIndex (c : Catalogue) (name : String) : Bool :=
  c.tables.values.any fun t => t.indexes.contains name

/-- The catalogue after a change. -/
def apply (c : Catalogue) : Change → Catalogue
  | .createTable _ table columns _ _ _ =>
      if c.tables.contains table then c else c.put table (.ofSpecs columns)
  | .dropTable _ table => c.remove table
  | .renameTable _ table target _ => c.rename table target
  | .addColumn _ table column _ => c.alter table fun t => t.addColumn column.name
  | .dropColumns _ table columns _ => c.alter table fun t => t.dropColumns columns
  | .renameColumn _ table source target => c.alter table fun t => t.renameColumn source target
  | .createIndex _ table index _ _ =>
      if c.hasIndex index then c else c.alter table fun t => t.addIndex index
  | .dropIndex _ index => { tables := c.tables.map fun _ t => t.dropIndex index }
  | .validateConstraint _ _ _ => c
  | .setNotNull _ _ _ _ => c
  | .renameConstraint _ _ _ _ => c
  | .createSyncTrigger _ => c
  | .dropSyncTrigger _ _ _ => c
  | .makeVersionSchema _ => c
  | .dropVersionSchema _ => c
  | .raw _ => c

/-- The catalogue after changes, made one after the other. -/
def after (c : Catalogue) (changes : List Change) : Catalogue :=
  changes.foldl apply c

end Catalogue

/-! ## Objects that are kept -/

/-- The second table is the first one, and still has its columns and indexes. -/
structure StoredTable.Keeps (first second : StoredTable) : Prop where
  origin : second.origin = first.origin
  columns : ∀ name origin, first.columns.find? name = some origin →
    ∃ place, second.columns.find? place = some origin
  indexes : ∀ name origin, first.indexes.find? name = some origin →
    ∃ place, second.indexes.find? place = some origin

/-- All tables, columns and indexes of the first catalogue are in the second one, under whatever
names. -/
def Catalogue.Keeps (first second : Catalogue) : Prop :=
  ∀ name table, first.tables.find? name = some table →
    ∃ place held, second.tables.find? place = some held ∧ table.Keeps held

/-! ## Objects under their names -/

/-- The first table is the second one, and has no column and no index that the second one does not
have under the same name. -/
structure StoredTable.PartOf (first second : StoredTable) : Prop where
  origin : first.origin = second.origin
  columns : ∀ name origin, first.columns.find? name = some origin →
    second.columns.find? name = some origin
  indexes : ∀ name origin, first.indexes.find? name = some origin →
    second.indexes.find? name = some origin

namespace StoredTable

variable {first second third t : StoredTable} {names : List String} {name : String}

theorem PartOf.refl (t : StoredTable) : t.PartOf t :=
  ⟨rfl, fun _ _ found => found, fun _ _ found => found⟩

theorem PartOf.trans (lower : first.PartOf second) (upper : second.PartOf third) :
    first.PartOf third where
  origin := lower.origin.trans upper.origin
  columns name origin found := upper.columns name origin (lower.columns name origin found)
  indexes name origin found := upper.indexes name origin (lower.indexes name origin found)

/-- A table keeps what is part of it. -/
theorem PartOf.keeps (part : first.PartOf second) : first.Keeps second where
  origin := part.origin.symm
  columns name origin found := ⟨name, part.columns name origin found⟩
  indexes name origin found := ⟨name, part.indexes name origin found⟩

theorem partOf_addColumn : t.PartOf (t.addColumn name) := by
  unfold addColumn
  split
  · exact .refl t
  · rename_i free
    refine ⟨rfl, fun column origin found => ?_, fun _ _ found => found⟩
    have other : column ≠ name := by
      rintro rfl
      exact free (by rw [NameMap.contains, found]; rfl)
    exact (NameMap.find?_insert_of_ne _ other _).trans found

theorem partOf_addIndex (free : t.indexes.find? name = none) : t.PartOf (t.addIndex name) := by
  refine ⟨rfl, fun _ _ found => found, fun index origin found => ?_⟩
  have other : index ≠ name := by
    rintro rfl
    rw [free] at found
    cases found
  exact (NameMap.find?_insert_of_ne _ other _).trans found

/-- Of the columns only those that are dropped are missing. -/
theorem find?_dropColumns (t : StoredTable) (names : List String) (column : String) :
    (t.dropColumns names).columns.find? column =
      if column ∈ names then none else t.columns.find? column := by
  change (names.foldl NameMap.erase t.columns).find? column = _
  generalize t.columns = columns
  induction names generalizing columns with
  | nil => simp
  | cons first rest ih =>
      rw [List.foldl_cons, ih]
      by_cases dropped : column ∈ rest
      · rw [if_pos dropped, if_pos (List.mem_cons_of_mem _ dropped)]
      · rw [if_neg dropped]
        by_cases same : column = first
        · rw [if_pos (same ▸ List.mem_cons_self), same, NameMap.find?_erase_self]
        · rw [if_neg (by simp [same, dropped]), NameMap.find?_erase_of_ne _ same]

theorem dropColumns_partOf : (t.dropColumns names).PartOf t := by
  refine ⟨rfl, fun column origin found => ?_, fun _ _ found => found⟩
  rw [find?_dropColumns] at found
  split at found
  · cases found
  · exact found

theorem dropIndex_partOf : (t.dropIndex name).PartOf t := by
  refine ⟨rfl, fun _ _ found => found, fun index origin found => ?_⟩
  by_cases same : index = name
  · subst same
    exact absurd found (by simp [dropIndex])
  · exact (NameMap.find?_erase_of_ne _ same).symm.trans found

/-- A part that has none of the dropped columns is left whole. -/
theorem PartOf.dropColumns (part : first.PartOf second)
    (none : ∀ column ∈ names, first.columns.find? column = none) :
    first.PartOf (second.dropColumns names) := by
  refine ⟨part.origin, fun column origin found => ?_, part.indexes⟩
  have stays : column ∉ names := by
    intro dropped
    rw [none column dropped] at found
    cases found
  rw [find?_dropColumns, if_neg stays]
  exact part.columns column origin found

/-- A part that does not have the dropped index is left whole. -/
theorem PartOf.dropIndex (part : first.PartOf second) (none : first.indexes.find? name = none) :
    first.PartOf (second.dropIndex name) := by
  refine ⟨part.origin, part.columns, fun index origin found => ?_⟩
  have other : index ≠ name := by
    rintro rfl
    rw [none] at found
    cases found
  exact (NameMap.find?_erase_of_ne _ other).trans (part.indexes index origin found)

end StoredTable

namespace Catalogue

variable {c : Catalogue} {name other : String} {t : StoredTable}

/-! ## What changes do to the names -/

theorem find?_put_self : (c.put name t).tables.find? name = some t :=
  NameMap.find?_insert_self _ _ _

theorem find?_put_of_ne (different : other ≠ name) :
    (c.put name t).tables.find? other = c.tables.find? other :=
  NameMap.find?_insert_of_ne _ different _

theorem find?_remove_self : (c.remove name).tables.find? name = none :=
  NameMap.find?_erase_self _ _

theorem find?_remove_of_ne (different : other ≠ name) :
    (c.remove name).tables.find? other = c.tables.find? other :=
  NameMap.find?_erase_of_ne _ different

theorem find?_alter_self {f : StoredTable → StoredTable} :
    (c.alter name f).tables.find? name = (c.tables.find? name).map f := by
  unfold alter
  cases found : c.tables.find? name with
  | some t => exact find?_put_self
  | none => exact found

theorem find?_alter_of_ne {f : StoredTable → StoredTable} (different : other ≠ name) :
    (c.alter name f).tables.find? other = c.tables.find? other := by
  unfold alter
  cases c.tables.find? name with
  | some t => exact find?_put_of_ne different
  | none => rfl

/-- A table that has no index of a name that no table has. -/
theorem find?_indexes_of_not_hasIndex {index : String} (free : c.hasIndex index = false)
    (found : c.tables.find? name = some t) : t.indexes.find? index = none := by
  have member : t ∈ c.tables.values :=
    List.mem_map.mpr ⟨(name, t), NameMap.mem_entries_iff.mpr found, rfl⟩
  have none := List.any_eq_false.mp free t member
  simpa [NameMap.contains] using none

theorem after_append (c : Catalogue) (first rest : List Change) :
    c.after (first ++ rest) = (c.after first).after rest :=
  List.foldl_append

/-- What holds of a catalogue and is kept by each of some changes holds after all of them. -/
theorem after_induction (holds : Catalogue → Prop) {changes : List Change} (first : holds c)
    (step : ∀ c, ∀ statement ∈ changes, holds c → holds (c.apply statement)) :
    holds (c.after changes) := by
  induction changes generalizing c with
  | nil => exact first
  | cons statement rest ih =>
      apply ih (step c statement List.mem_cons_self first)
      intro c other member
      exact step c other (List.mem_cons_of_mem _ member)

end Catalogue

end ExpandContract
