import ExpandContract.Proofs.Catalogue.Indexes
import ExpandContract.Proofs.Lifecycle.Finishing

/-!
# Which indexes a finished migration leaves

A migration of indexes creates its indexes when it is started and drops indexes when it is
completed, whereas its checks do both at once, one operation after the other. Up to the completion,
the indexes are those that the checks have left, but for the names that are dropped
(`achieves_agreement`); the completion then takes away all indexes of these names. So the two agree
if and only if the checks leave no index under a name that the migration drops (`indexes_finished`).
An index that is dropped and created again is lost: it is not created, because the index of that
name is still there, and that one is dropped in the end.
-/

set_option autoImplicit false

namespace ExpandContract

open Session Procedure Sql Check

/-! ## Operations on indexes -/

namespace Operation

/-- Whether the operation creates or drops an index. -/
def isIndexing : Operation → Bool
  | .createIndex _ => true
  | .dropIndex _ => true
  | _ => false

/-- The index that the completion of the operation drops. -/
def droppedIndex : Operation → Option String
  | .dropIndex op => some op.name
  | _ => none

end Operation

/-- The indexes that the completion of the migration drops. -/
def Migration.droppedIndexes (m : Migration) : List String :=
  m.operations.filterMap Operation.droppedIndex

/-! ## The start -/

section Start

variable {ctx : PhaseContext} {before between after : Schema} {store : IndexStore}
  {names : List String}

theorem CreateIndex.achieves_agreement (op : CreateIndex)
    (checked : op.check.Passes before () between) (agrees : store.AgreesBut names before) :
    (op.start ctx before).Achieves fun changes started =>
      started.schema = between ∧ (store.after changes).AgreesBut names between := by
  obtain ⟨_, _, free, table, columns, found, physical, rfl⟩ := op.passes_check.mp checked
  unfold start
  simp only [found, physical]
  refine .bind (.change _) ?_
  rintro _ _ rfl
  refine .done ⟨rfl, fun name spared => ?_⟩
  rw [op.indexColumns?_exposeTable free found]
  by_cases own : name = op.name
  · subst own
    -- The name is free in the snapshot, so it is free in the store, which has not kept it to be
    -- dropped.
    have absent : store.columns? op.name = none :=
      (agrees op.name spared).trans (Schema.indexColumns?_eq_none.mpr free)
    simp [IndexStore.after, IndexStore.apply, absent]
  · simp [IndexStore.after, IndexStore.apply, own, agrees name spared]

theorem DropIndex.achieves_agreement (op : DropIndex)
    (checked : op.check.Passes before () between) (agrees : store.AgreesBut names before)
    (dropped : op.name ∈ names) :
    (op.start before).Achieves fun changes started =>
      started.schema = between ∧ (store.after changes).AgreesBut names between := by
  have removed := op.passes_check.mp checked
  unfold start
  rw [removed]
  refine .done ⟨rfl, fun name spared => ?_⟩
  have other : name ≠ op.name := by
    rintro rfl
    exact spared dropped
  rw [op.indexColumns?_of_check checked other]
  exact agrees name spared

/-- A start keeps the store and the snapshot in agreement, but for the names that are dropped. -/
theorem Operation.achieves_agreement (op : Operation) (indexing : op.isIndexing = true)
    (dropped : ∀ name, op.droppedIndex = some name → name ∈ names)
    (checked : op.check.Passes before () between) (agrees : store.AgreesBut names before) :
    (op.start ctx before).Achieves fun changes started =>
      started.schema = between ∧ (store.after changes).AgreesBut names between := by
  cases op with
  | createIndex op => exact op.achieves_agreement checked agrees
  | dropIndex op => exact op.achieves_agreement checked agrees (dropped op.name rfl)
  | _ => cases indexing

namespace MigrationSession

variable {s : MigrationSession} {m : Migration} {snapshot played : Schema}
  {operations : List Operation}

/-- The starts of operations, one after the other. -/
theorem achieves_agreement {alone : Bool} (indexing : ∀ op ∈ operations, op.isIndexing = true)
    (dropped : ∀ op ∈ operations, ∀ name, op.droppedIndex = some name → name ∈ names)
    (checked : (checkOperations alone operations).Passes before () after)
    (agrees : store.AgreesBut names before) :
    (s.startOperations ctx operations before).Achieves fun changes _ =>
      (store.after changes).AgreesBut names after := by
  induction operations generalizing before store with
  | nil =>
      cases passes_checkOperations_nil.mp checked
      exact .done agrees
  | cons op rest ih =>
      obtain ⟨_, between, first, others⟩ := passes_checkOperations_cons.mp checked
      obtain ⟨now, later⟩ := List.forall_mem_cons.mp indexing
      obtain ⟨droppedNow, droppedLater⟩ := List.forall_mem_cons.mp dropped
      have foreseen : (op.effectUnknown && op.standsAlone) = false := by
        cases op with
        | rawSql op => cases now
        | _ => rfl
      simp only [startOperations, foreseen, Bool.false_eq_true, if_false, pure_bind]
      refine .bind (op.achieves_agreement now droppedNow first agrees) fun changes started => ?_
      rintro ⟨same, agreesThen⟩
      rw [same]
      refine .bind (ih later droppedLater others agreesThen) fun made _ agreesLast => ?_
      refine .done ?_
      rw [List.append_nil, IndexStore.after_append]
      exact agreesLast

/-- A start that succeeds keeps them in agreement. -/
theorem achieves_agreement_startWith (validated : m.validated snapshot = .ok played)
    (indexing : ∀ op ∈ m.operations, op.isIndexing = true) :
    (s.startWith m snapshot).Achieves fun changes _ =>
      ((IndexStore.ofSchema snapshot).after changes).AgreesBut m.droppedIndexes played := by
  obtain ⟨_, _, checked⟩ := Migration.validated_eq_ok.mp validated
  have dropped : ∀ op ∈ m.operations, ∀ name, op.droppedIndex = some name →
      name ∈ m.droppedIndexes := fun op member name drops =>
    List.mem_filterMap.mpr ⟨op, member, drops⟩
  refine (achieves_startWith_of validated
    (fun made => ((IndexStore.ofSchema snapshot).after made).AgreesBut m.droppedIndexes played)
    (achieves_agreement indexing dropped checked fun _ _ => rfl)).mono ?_
  rintro _ _ ⟨early, made, late, rfl, earlyNeutral, lateNeutral, agrees⟩
  rwa [IndexStore.after_append, IndexStore.after_append, IndexStore.after_neutral earlyNeutral,
    IndexStore.after_neutral lateNeutral]

end MigrationSession

end Start

/-! ## The completion -/

namespace MigrationSession

variable {s : MigrationSession} {m : Migration} {snapshot played : Schema}
  {notes first second : List Note} {store : IndexStore}

/-- The completion of a migration of indexes drops indexes, and changes nothing else. -/
theorem indexChanges_of_completionPlan (indexing : ∀ op ∈ m.operations, op.isIndexing = true) :
    (s.completionPlan m).flatMap Change.indexChanges =
      m.droppedIndexes.map (.dropIndex s.schema) := by
  have prepares : ∀ op ∈ m.operations,
      (op.preparation (s.phaseContext m)).flatMap Change.indexChanges = [] := by
    intro op member
    cases op with
    | createIndex op | dropIndex op => rfl
    | _ => cases indexing _ member
  have contracts : ∀ op ∈ m.operations,
      (op.contraction (s.phaseContext m)).flatMap Change.indexChanges =
        op.droppedIndex.toList.map (.dropIndex s.schema) := by
    intro op member
    cases op with
    | createIndex op | dropIndex op => rfl
    | _ => cases indexing _ member
  rw [completionPlan, List.flatMap_append, List.flatMap_assoc, List.flatMap_assoc,
    List.flatMap_eq_nil_iff.mpr prepares, List.flatMap_congr contracts, Migration.droppedIndexes,
    List.filterMap_eq_flatMap_toList, List.map_flatMap]
  rfl

/-- A completion that succeeds has dropped all indexes that are to be dropped, and no others. -/
theorem columns?_after_complete (dialogue : s.complete.Dialogue notes (.ok ()))
    (told : ∀ active, s.ledger.Tells s.schema active notes → active = m)
    (indexing : ∀ op ∈ m.operations, op.isIndexing = true) (name : String) :
    (store.after (acceptedChanges notes)).columns? name =
      if name ∈ m.droppedIndexes then none else store.columns? name := by
  have seen : viewed Change.indexChanges notes = m.droppedIndexes.map (.dropIndex s.schema) := by
    rw [← indexChanges_of_completionPlan indexing]
    exact (viewed_of_complete (fun _ => Change.indexChanges_of_neutral) dialogue told).2 rfl
  rw [← IndexStore.after_indexChanges, ← viewed, seen, IndexStore.columns?_after_drops]

/-- The indexes that are there when these notes have been taken. -/
def indexesAfter (snapshot : Schema) (notes : List Note) : IndexStore :=
  (IndexStore.ofSchema snapshot).after (acceptedChanges notes)

/-- When a migration of indexes has been started and completed, there is no index of a name that it
drops, and under all other names there are the indexes that its checks have left. These are all that
the checks have left if and only if the checks leave none under a name that the migration drops. -/
theorem indexes_finished (validated : m.validated snapshot = .ok played)
    (indexing : ∀ op ∈ m.operations, op.isIndexing = true)
    (finishes : s.Finishes m snapshot first second (.ok ())) :
    (∀ name, (indexesAfter snapshot (first ++ second)).columns? name =
      if name ∈ m.droppedIndexes then none else played.indexColumns? name) ∧
    (indexesAfter snapshot (first ++ second) = .ofSchema played ↔
      ∀ name ∈ m.droppedIndexes, played.findIndex? name = none) := by
  obtain ⟨_, started⟩ := finishes.started
  have agrees := achieves_agreement_startWith validated indexing first _ started.dialogue
  have left (name : String) :
      (indexesAfter snapshot (first ++ second)).columns? name =
        if name ∈ m.droppedIndexes then none else played.indexColumns? name := by
    rw [indexesAfter, acceptedChanges_append, IndexStore.after_append,
      columns?_after_complete finishes.completed.dialogue finishes.told indexing]
    split
    · rfl
    · rename_i spared
      exact agrees name spared
  refine ⟨left, fun same name dropped => ?_, fun gone => ?_⟩
  · have shown := left name
    rw [same, if_pos dropped] at shown
    exact Schema.indexColumns?_eq_none.mp shown
  · refine IndexStore.ext (funext fun name => (left name).trans ?_)
    split
    · rename_i dropped
      exact (Schema.indexColumns?_eq_none.mpr (gone name dropped)).symm
    · rfl

/-! ## An index that is replaced, under another name and under its own -/

/-- A schema whose table of users has an index on the key. -/
def indexedUsers : Schema :=
  (Schema.ofName "public").exposeTable "users"
    { keyedTable "users" with
      columns := .ofList [
        ("id", { Column.ofType "id" "int" with nullable := false, position := 1 }),
        ("email", { Column.ofType "email" "text" with position := 2 })]
      indexes := .ofList [
        ("users_lookup", { name := "users_lookup", unique := false, columns := ["id"] })] }

/-- A migration that creates an index on the addresses of the users, and drops the other index. -/
def replacesIndex : Migration :=
  { name := "replace_index"
    versionSchema := none
    operations := [
      .createIndex
        { name := "users_by_email", table := "users", columns := ["email"], unique := false },
      .dropIndex { name := "users_lookup" }] }

/-- With an index under a name of its own, the indexes are those that the checks have left. -/
theorem indexes_finished_of_replacesIndex :
    (∀ op ∈ replacesIndex.operations, op.isIndexing = true) ∧
      usual.Finishes replacesIndex indexedUsers (finishingNotes replacesIndex indexedUsers).1
        (finishingNotes replacesIndex indexedUsers).2 (.ok ()) ∧
      ∃ played, replacesIndex.validated indexedUsers = .ok played ∧
        played.indexColumns? "users_by_email" = some ["email"] ∧
        indexesAfter indexedUsers ((finishingNotes replacesIndex indexedUsers).1 ++
          (finishingNotes replacesIndex indexedUsers).2) = .ofSchema played := by
  have indexing : ∀ op ∈ replacesIndex.operations, op.isIndexing = true := by decide
  have finishes : usual.Finishes replacesIndex indexedUsers
      (finishingNotes replacesIndex indexedUsers).1 (finishingNotes replacesIndex indexedUsers).2
        (.ok ()) :=
    ⟨⟨_, shows_of_outcomeWith rfl⟩, shows_of_outcomeWith rfl, fun _ => eq_of_tells_finishing⟩
  obtain ⟨played, validated, created, gone⟩ : ∃ played,
      replacesIndex.validated indexedUsers = .ok played ∧
        played.indexColumns? "users_by_email" = some ["email"] ∧
        played.findIndex? "users_lookup" = none := ⟨_, rfl, rfl, rfl⟩
  refine ⟨indexing, finishes, played, validated, created, ?_⟩
  refine (indexes_finished validated indexing finishes).2.mpr fun name dropped => ?_
  cases List.mem_singleton.mp dropped
  exact gone

/-- A migration that drops the index, and creates one of the same name on the addresses. -/
def recreatesIndex : Migration :=
  { name := "recreate_index"
    versionSchema := none
    operations := [
      .dropIndex { name := "users_lookup" },
      .createIndex
        { name := "users_lookup", table := "users", columns := ["email"], unique := false }] }

/-- With an index under the name of the one that is dropped, there is no index in the end, though
the migration is valid and all that it asked for was accepted. -/
theorem indexes_differ_of_recreatesIndex :
    (∀ op ∈ recreatesIndex.operations, op.isIndexing = true) ∧
      usual.Finishes recreatesIndex indexedUsers (finishingNotes recreatesIndex indexedUsers).1
        (finishingNotes recreatesIndex indexedUsers).2 (.ok ()) ∧
      ∃ played, recreatesIndex.validated indexedUsers = .ok played ∧
        played.indexColumns? "users_lookup" = some ["email"] ∧
        (indexesAfter indexedUsers ((finishingNotes recreatesIndex indexedUsers).1 ++
          (finishingNotes recreatesIndex indexedUsers).2)).columns? "users_lookup" = none := by
  have finishes : usual.Finishes recreatesIndex indexedUsers
      (finishingNotes recreatesIndex indexedUsers).1 (finishingNotes recreatesIndex indexedUsers).2
        (.ok ()) :=
    ⟨⟨_, shows_of_outcomeWith rfl⟩, shows_of_outcomeWith rfl, fun _ => eq_of_tells_finishing⟩
  exact ⟨by decide, finishes, _, rfl, rfl, rfl⟩

end MigrationSession

end ExpandContract
