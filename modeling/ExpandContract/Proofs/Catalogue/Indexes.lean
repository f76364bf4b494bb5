import ExpandContract.Proofs.Catalogue.Holdings
import ExpandContract.Proofs.Migration.Checks

/-!
# The indexes of a schema

The names of indexes are names of the whole schema: a change that creates or drops an index goes by
the name alone, whichever table has the index. `IndexStore` holds the columns of each index under
its name, and follows the changes of indexes. A snapshot shows indexes too (`Schema.indexColumns?`),
and what the checks of the two operations on indexes do to those is said here.
-/

set_option autoImplicit false

namespace ExpandContract

open Sql (Change)
open Check

/-! ## Searching through a map -/

namespace NameMap

variable {α β : Type} {f : String × α → Option β} {name : String} {value held : α}

/-- A value that gives what the value before it has given does not count. -/
theorem findSome?_insertEntry_of_eq {list : List (String × α)}
    (sorted : list.Pairwise fun a b => a.1 < b.1) (found : list.lookup name = some held)
    (same : f (name, value) = f (name, held)) :
    (insertEntry name value list).findSome? f = list.findSome? f := by
  induction list with
  | nil => cases found
  | cons first rest ih =>
      obtain ⟨before, tail⟩ := List.pairwise_cons.mp sorted
      rw [lookup_cons_eq] at found
      unfold insertEntry
      by_cases here : name = first.1
      · rw [if_pos here] at found
        cases found
        have replaced : f (name, value) = f first := same.trans (by rw [here])
        rw [if_neg (here ▸ String.lt_irrefl _), if_pos here, List.findSome?_cons,
          List.findSome?_cons, replaced]
      · rw [if_neg here] at found
        have later := before _ ((lookup_eq_some_iff tail).mp found)
        rw [if_neg (String.lt_asymm later), if_neg here, List.findSome?_cons, List.findSome?_cons,
          ih tail found]

theorem findSome?_insert_of_eq {m : NameMap α} (found : m.find? name = some held)
    (same : f (name, value) = f (name, held)) :
    (m.insert name value).entries.findSome? f = m.entries.findSome? f :=
  findSome?_insertEntry_of_eq m.sorted found same

/-- Where nothing has been found, only the new value counts. -/
theorem findSome?_insertEntry_of_none {list : List (String × α)} (none : list.findSome? f = none) :
    (insertEntry name value list).findSome? f = f (name, value) := by
  have first (rest : List (String × α)) (none : rest.findSome? f = .none) :
      ((name, value) :: rest).findSome? f = f (name, value) := by
    rw [List.findSome?_cons, none]
    cases f (name, value) <;> rfl
  induction list with
  | nil => exact first [] rfl
  | cons entry rest ih =>
      obtain ⟨here, later⟩ := List.forall_mem_cons.mp (List.findSome?_eq_none_iff.mp none)
      have restNone : rest.findSome? f = .none := List.findSome?_eq_none_iff.mpr later
      unfold insertEntry
      split
      · exact first _ none
      · split
        · exact first _ restNone
        · rw [List.findSome?_cons, here]
          exact ih restNone

theorem findSome?_insert_of_none {m : NameMap α} (none : m.entries.findSome? f = none) :
    (m.insert name value).entries.findSome? f = f (name, value) :=
  findSome?_insertEntry_of_none none

end NameMap

/-! ## The indexes that a snapshot shows -/

section Snapshots

variable {before after : Schema} {name : String}

namespace Schema

/-- The columns of the index of that name, if some table has one. -/
def indexColumns? (schema : Schema) (name : String) : Option (List String) :=
  (schema.findIndex? name).map fun found => found.2.columns

theorem indexColumns?_eq_none :
    before.indexColumns? name = none ↔ before.findIndex? name = none :=
  Option.map_eq_none_iff

/-- A table that is changed still shows its other indexes. -/
theorem findIndex?_exposeTable_of_eq {owner : String} {table changed : Table}
    (found : before.table? owner = some table)
    (same : changed.indexes.find? name = table.indexes.find? name) :
    (before.exposeTable owner changed).findIndex? name = before.findIndex? name :=
  NameMap.findSome?_insert_of_eq found (by rw [same])

end Schema

/-- A snapshot with a new index shows it, and shows all others as before. -/
theorem CreateIndex.indexColumns?_exposeTable (op : CreateIndex) {table : Table}
    {columns : List String} (free : before.findIndex? op.name = none)
    (found : before.table? op.table = some table) :
    (before.exposeTable op.table (table.addIndex (op.snapshot columns))).indexColumns? name =
      if name = op.name then some columns else before.indexColumns? name := by
  unfold Schema.indexColumns?
  by_cases own : name = op.name
  · subst own
    have shown : (before.exposeTable op.table (table.addIndex (op.snapshot columns))).findIndex?
        op.name = some (op.table, op.snapshot columns) := by
      refine (NameMap.findSome?_insert_of_none free).trans ?_
      exact congrArg (Option.map _) (NameMap.find?_insert_self ..)
    rw [if_pos rfl, shown]
    rfl
  · rw [if_neg own, Schema.findIndex?_exposeTable_of_eq found]
    exact NameMap.find?_insert_of_ne _ own _

/-- The check of an index that is dropped shows all other indexes as before. -/
theorem DropIndex.indexColumns?_of_check (op : DropIndex)
    (checked : op.check.Passes before () after) (other : name ≠ op.name) :
    after.indexColumns? name = before.indexColumns? name := by
  obtain ⟨owner, table, found, rfl⟩ := op.remove?_eq_some (op.passes_check.mp checked)
  unfold Schema.indexColumns?
  rw [Schema.findIndex?_exposeTable_of_eq found]
  exact NameMap.find?_erase_of_ne _ other

end Snapshots

/-! ## Changes of indexes -/

namespace Sql.Change

/-- The change, if it creates or drops an index. -/
def indexChanges : Change → List Change
  | .createIndex schema table index columns unique =>
      [.createIndex schema table index columns unique]
  | .dropIndex schema index => [.dropIndex schema index]
  | _ => []

theorem indexChanges_of_neutral {statement : Change} (neutral : statement.Neutral) :
    statement.indexChanges = [] := by
  cases statement with
  | makeVersionSchema | dropVersionSchema | raw => rfl
  | _ => exact neutral.elim

end Sql.Change

/-! ## The indexes that are there -/

/-- The indexes of a schema: the columns of each of them, under its name. -/
@[ext]
structure IndexStore where
  columns? : String → Option (List String)

namespace IndexStore

variable {store : IndexStore} {name : String} {names : List String} {changes : List Change}

/-- The indexes that a snapshot shows. -/
def ofSchema (schema : Schema) : IndexStore :=
  ⟨schema.indexColumns?⟩

/-- The indexes after a change of indexes. An index that is there is not created again. Changes of
tables and columns are not followed, so this is for migrations that leave them alone. -/
def apply (store : IndexStore) : Change → IndexStore
  | .createIndex _ _ index columns _ =>
      ⟨fun name =>
        if name = index then (store.columns? name).or (some columns) else store.columns? name⟩
  | .dropIndex _ index => ⟨fun name => if name = index then none else store.columns? name⟩
  | _ => store

/-- The indexes after changes, made one after the other. -/
def after (store : IndexStore) (changes : List Change) : IndexStore :=
  changes.foldl apply store

theorem after_append (store : IndexStore) (first rest : List Change) :
    store.after (first ++ rest) = (store.after first).after rest :=
  List.foldl_append

/-- Other changes than those of indexes do not count. -/
theorem after_indexChanges (store : IndexStore) (changes : List Change) :
    store.after (changes.flatMap Change.indexChanges) = store.after changes := by
  induction changes generalizing store with
  | nil => rfl
  | cons statement rest ih =>
      rw [List.flatMap_cons, after_append, ih]
      cases statement <;> rfl

theorem after_neutral (neutral : ∀ statement ∈ changes, statement.Neutral) :
    store.after changes = store := by
  have nothing : changes.flatMap Change.indexChanges = [] :=
    List.flatMap_eq_nil_iff.mpr fun statement member =>
      Change.indexChanges_of_neutral (neutral statement member)
  rw [← after_indexChanges, nothing]
  rfl

/-- Of the indexes that are dropped one after the other none is left, and the others stay. -/
theorem columns?_after_drops (schema : String) (names : List String) (name : String) :
    (store.after (names.map (.dropIndex schema))).columns? name =
      if name ∈ names then none else store.columns? name := by
  induction names generalizing store with
  | nil => simp [after]
  | cons first rest ih =>
      rw [List.map_cons, ← List.singleton_append, after_append, ih]
      by_cases later : name ∈ rest
      · simp [later]
      · by_cases now : name = first <;> simp [after, apply, later, now]

/-- The store has the indexes that the snapshot shows, but for some names. -/
def AgreesBut (names : List String) (store : IndexStore) (schema : Schema) : Prop :=
  ∀ name, name ∉ names → store.columns? name = schema.indexColumns? name

end IndexStore

end ExpandContract
