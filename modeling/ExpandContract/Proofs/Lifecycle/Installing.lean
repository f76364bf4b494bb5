import ExpandContract.Proofs.Catalogue.Functions
import ExpandContract.Proofs.Lifecycle.Finishing
import ExpandContract.Proofs.Lifecycle.Naming
import ExpandContract.Proofs.Lifecycle.Starting

/-!
# Triggers that share a function

An operation that computes a column installs a trigger, under a name that is made of the table and
a key. Two operations of a migration may so come to the same name: because the tables and the keys
join alike (`order` with `item_note`, `order_item` with `note`), or because the server keeps no more
of the names than is the same. The function of the later one then takes the place of the other, and
to remove one of them is to remove the only one. A server that watches what a trigger depends on
refuses that as long as the other trigger is there, and the migration cannot be completed.

A start installs a trigger for each pair of `Migration.syncKeys`, and a completion removes them in
the same order. Each operation has its own function, from the end of the start until it is
completed, if and only if the kept parts of the names differ (`functions_apart_iff`).
-/

set_option autoImplicit false

namespace ExpandContract

open Session Procedure Sql

/-! ## The triggers of a migration -/

/-- The table and the key of the trigger that the operation installs, if it computes a column. -/
def Operation.syncKey? : Operation → Option SyncKey
  | .addColumn op => if op.up.isSome then some (op.table, op.shadow) else none
  | .dropColumn op => if op.down.isSome then some (op.table, op.column) else none
  | _ => none

/-- The tables and keys of all triggers that the migration installs, in the order of its
operations. -/
def Migration.syncKeys (m : Migration) : List SyncKey :=
  m.operations.filterMap Operation.syncKey?

/-- The server keeps enough of the names to tell the triggers apart. -/
def Migration.NamesApart (m : Migration) : Prop :=
  ∀ pair ∈ m.syncKeys, ∀ other ∈ m.syncKeys, keptPart pair = keptPart other → pair = other

instance (m : Migration) : Decidable m.NamesApart :=
  inferInstanceAs (Decidable (∀ pair ∈ m.syncKeys, ∀ other ∈ m.syncKeys,
    keptPart pair = keptPart other → pair = other))

/-- Triggers whose names fit have the same name just if tables and keys join alike. -/
theorem functionName_eq_iff_joinAlike {pair other : SyncKey}
    (fits : (ownPart pair).utf8ByteSize ≤ ownBytes)
    (otherFits : (ownPart other).utf8ByteSize ≤ ownBytes) :
    functionName pair = functionName other ↔ JoinAlike pair.1 pair.2 other.1 other.2 := by
  rw [functionName_eq_iff, keptPart_of_fits fits, keptPart_of_fits otherFits, String.toList_inj]
  exact versionSchemaName_eq_iff

section Operations

variable {ctx : PhaseContext} {schema : Schema}

theorem DropColumn.realizes_triggers (op : DropColumn) :
    (op.start ctx schema).Realizes Change.functionSteps
      ((Operation.dropColumn op).syncKey?.toList.map .installed) := by
  unfold start
  cases computed : op.down with
  | none =>
      simp only [Operation.syncKey?, computed]
      exact .done _
  | some down =>
      simp only [Operation.syncKey?, computed]
      refine .after (.silent PhaseContext.asksOnly_transform) fun sent => ?_
      exact .before (.change _) fun _ => .done _

/-- The start of an operation installs the trigger of its pair, and no other. -/
theorem Operation.realizes_triggers (op : Operation) :
    (op.start ctx schema).Realizes Change.functionSteps (op.syncKey?.toList.map .installed) := by
  cases op with
  | addColumn op =>
      have column : ∀ spec checks, spec.name = op.shadow → checks.map (·.name) = op.pendingNames →
          (Change.addColumn ctx.schema op.table spec checks).functionSteps = [] :=
        fun _ _ _ _ => rfl
      refine AddColumn.realizes_start column (fun plain => ?_) fun computed _ => ?_
      · simp [syncKey?, plain]
      · simp only [syncKey?, Option.isSome_iff_ne_none.mpr computed]
        rfl
  | dropColumn op => exact op.realizes_triggers
  | _ =>
      refine Operation.realizes_nothing fun statement starts => ?_
      cases starts <;> rfl

/-- The completion of an operation removes the trigger of its pair, and no other. -/
theorem Operation.functionSteps_contraction (op : Operation) :
    (op.contraction ctx).flatMap Change.functionSteps = op.syncKey?.toList.map .removed := by
  cases op with
  | addColumn op =>
      simp only [contraction, AddColumn.contraction, syncKey?]
      cases op.up.isSome <;> cases op.column.nullable <;> cases op.column.check.isSome <;> rfl
  | dropColumn op =>
      simp only [contraction, DropColumn.contraction, syncKey?]
      cases op.down.isSome <;> rfl
  | rawSql op =>
      refine List.flatMap_eq_nil_iff.mpr fun statement member => ?_
      obtain ⟨sql, rfl⟩ := op.eq_of_mem_contraction member
      rfl
  | _ => rfl

theorem Operation.functionSteps_preparation (op : Operation) :
    (op.preparation ctx).flatMap Change.functionSteps = [] := by
  cases op with
  | addColumn op =>
      refine List.flatMap_eq_nil_iff.mpr fun statement member => ?_
      obtain ⟨name, _, rfl⟩ := List.mem_map.mp member
      rfl
  | _ => rfl

end Operations

namespace MigrationSession

variable {s : MigrationSession} {m : Migration} {snapshot : Schema}
  {progress : List Backfill.Progress} {first second notes : List Note}

/-! ## The functions of a migration -/

/-- What the accepted changes have done to the functions of triggers. -/
def functionSteps (notes : List Note) : List FunctionStep :=
  viewed Change.functionSteps notes

theorem map_syncKeys (m : Migration) (step : SyncKey → FunctionStep) :
    m.operations.flatMap (fun op => op.syncKey?.toList.map step) = m.syncKeys.map step := by
  rw [Migration.syncKeys, List.filterMap_eq_flatMap_toList, List.map_flatMap]

/-- A start that succeeds installs the triggers of the migration, one after the other. -/
theorem functionSteps_of_start (dialogue : (s.start m).Dialogue notes (.ok progress)) :
    functionSteps notes = m.syncKeys.map .installed := by
  rw [← map_syncKeys]
  exact viewed_of_start (fun _ => Change.functionSteps_of_neutral)
    (fun op _ _ => op.realizes_triggers) dialogue

/-- A completion removes them in the same order, up to the first failure. -/
theorem functionSteps_of_complete {outcome : Except Error Unit}
    (dialogue : s.complete.Dialogue notes outcome)
    (told : ∀ active, s.ledger.Tells s.schema active notes → active = m) :
    functionSteps notes <+: m.syncKeys.map .removed := by
  have planned := (viewed_of_complete (fun _ => Change.functionSteps_of_neutral) dialogue told).1
  rwa [completionPlan, List.flatMap_append, List.flatMap_assoc, List.flatMap_assoc,
    List.flatMap_eq_nil_iff.mpr fun op _ => op.functionSteps_preparation,
    List.flatMap_congr fun op _ => op.functionSteps_contraction, List.nil_append,
    map_syncKeys] at planned

/-- Whatever functions there were before, and whether or not the migration is valid: when its start
has succeeded, the server has different names for the functions of any two triggers with different
tables or keys, and each of these triggers has its own function, if and only if the kept parts of
the names differ. The same is true at every moment of a completion for the triggers that have not
been removed. Names that fit differ unless tables and keys join alike. -/
theorem functions_apart_iff (store : FunctionStore)
    (started : (s.start m).Shows first (.ok progress)) :
    ((∀ pair ∈ m.syncKeys, ∀ other ∈ m.syncKeys, pair ≠ other →
      functionName pair ≠ functionName other) ↔ m.NamesApart) ∧
    ((∀ pair ∈ m.syncKeys, (store.after (functionSteps first)).Has pair) ↔ m.NamesApart) ∧
    (∀ second outcome, s.complete.Shows second outcome →
      (∀ active, s.ledger.Tells s.schema active second → active = m) →
        ((∀ steps, steps <+: functionSteps second → ∀ pair ∈ m.syncKeys, .removed pair ∉ steps →
          (store.after (functionSteps first ++ steps)).Has pair) ↔ m.NamesApart)) ∧
    ∀ pair other : SyncKey, (ownPart pair).utf8ByteSize ≤ ownBytes →
      (ownPart other).utf8ByteSize ≤ ownBytes →
        (functionName pair = functionName other ↔ JoinAlike pair.1 pair.2 other.1 other.2) := by
  have installed := functionSteps_of_start started.dialogue
  have named : m.NamesApart ↔ ∀ pair ∈ m.syncKeys, ∀ other ∈ m.syncKeys,
      functionName pair = functionName other → pair = other := by
    simp only [Migration.NamesApart, functionName_eq_iff]
  have atEnd : (∀ pair ∈ m.syncKeys, (store.after (functionSteps first)).Has pair) ↔
      m.NamesApart := by
    rw [installed, named]
    exact FunctionStore.has_after_installed_iff
  refine ⟨?_, atEnd, ?_, fun _ _ => functionName_eq_iff_joinAlike⟩
  · rw [named]
    exact ⟨fun differ pair member other among => not_imp_not.mp (differ pair member other among),
      fun apart pair member other among => mt (apart pair member other among)⟩
  · intro second outcome completed told
    refine ⟨fun has => atEnd.mp fun pair member => ?_, fun apart => ?_⟩
    · have there := has [] List.nil_prefix pair member (List.not_mem_nil)
      rwa [List.append_nil] at there
    · intro steps begun pair member spared
      have planned := begun.trans (functionSteps_of_complete completed.dialogue told)
      obtain ⟨later, split⟩ := planned
      obtain ⟨gone, rest, keys, rfl, _⟩ := List.map_eq_append_iff.mp split.symm
      have kept : functionName pair ∉ gone.map functionName := by
        intro taken
        obtain ⟨other, among, same⟩ := List.mem_map.mp taken
        have inKeys : other ∈ m.syncKeys := keys ▸ List.mem_append_left _ among
        cases named.mp apart other inKeys pair member same
        exact spared (List.mem_map_of_mem among)
      rw [FunctionStore.after_append, FunctionStore.Has, FunctionStore.madeFor?_after_removed,
        if_neg kept]
      exact atEnd.mpr apart pair member

/-! ## Two columns that are dropped -/

/-- A table with columns of texts. -/
def textTable (name : String) (columns : List String) : Table :=
  { Table.ofName name with
    columns := .ofList (columns.map fun column => (column, Column.ofType column "text")) }

/-- A schema with orders and the items of orders, both of which have notes. -/
def withItems : Schema :=
  ((Schema.ofName "public").exposeTable "order"
    (textTable "order" ["item_note", "note"])).exposeTable "order_item"
    (textTable "order_item" ["note"])

/-- A migration that drops a column of the orders and the notes of their items, and computes both
of them for the previous version. -/
def dropsNotes (column : String) : Migration :=
  { name := "drop_notes"
    versionSchema := none
    operations := [
      .dropColumn { table := "order", column, down := some "''" },
      .dropColumn { table := "order_item", column := "note", down := some "''" }] }

/-- What is noted of its start, if everything is accepted. -/
def droppingNotes (column : String) : List Note :=
  (usual.start (dropsNotes column)).notesWith
    (reporting withItems (dropsNotes column) fun _ => .ok .none)

/-- The notes of orders and those of items have functions of their own. -/
theorem functions_apart_of_notes :
    (dropsNotes "note").validate withItems = .ok () ∧
    (usual.start (dropsNotes "note")).Shows (droppingNotes "note") (.ok []) ∧
    ∀ store : FunctionStore,
      (store.after (functionSteps (droppingNotes "note"))).Has ("order", "note") ∧
        (store.after (functionSteps (droppingNotes "note"))).Has ("order_item", "note") := by
  have started : (usual.start (dropsNotes "note")).Shows (droppingNotes "note") (.ok []) :=
    shows_of_outcomeWith rfl
  have apart : (dropsNotes "note").NamesApart := by decide
  refine ⟨rfl, started, fun store => ?_⟩
  have has := (functions_apart_iff store started).2.1.mpr apart
  exact ⟨has _ List.mem_cons_self, has _ (List.mem_cons_of_mem _ List.mem_cons_self)⟩

/-- The notes that an order keeps on an item and the notes of an item of an order share a function.
The migration is valid and its start succeeds, but the function of the first trigger is replaced,
and its removal, should the server accept it, leaves no function for the second trigger. -/
theorem function_shared_of_item_notes :
    (dropsNotes "item_note").validate withItems = .ok () ∧
    (dropsNotes "item_note").syncKeys = [("order", "item_note"), ("order_item", "note")] ∧
    functionName ("order", "item_note") = functionName ("order_item", "note") ∧
    (usual.start (dropsNotes "item_note")).Shows (droppingNotes "item_note") (.ok []) ∧
    ∀ store : FunctionStore,
      (store.after (functionSteps (droppingNotes "item_note"))).madeFor?
          (functionName ("order", "item_note")) = some ("order_item", "note") ∧
        (store.after (functionSteps (droppingNotes "item_note") ++
          [.removed ("order", "item_note")])).madeFor? (functionName ("order_item", "note")) =
            none := by
  have same : functionName ("order", "item_note") = functionName ("order_item", "note") :=
    functionName_eq_iff.mpr (by decide)
  have steps : functionSteps (droppingNotes "item_note") =
      [.installed ("order", "item_note"), .installed ("order_item", "note")] := rfl
  refine ⟨rfl, rfl, same, shows_of_outcomeWith rfl, fun store => ?_⟩
  rw [steps, same]
  exact ⟨FunctionStore.has_apply_installed, if_pos same.symm⟩

end MigrationSession

end ExpandContract
