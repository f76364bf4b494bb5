import ExpandContract.Proofs.Catalogue.Holdings
import ExpandContract.Proofs.Sql.Cutting

/-!
# The functions of triggers

A trigger belongs to a table, but the function that it calls belongs to the schema, and the server
knows it by as much of its name as it keeps. All these names begin with the same text, so what
tells them apart is the beginning of what follows it: the table, an underscore and the key
(`keptPart`).

`FunctionStore` holds for each stored name the table and the key that the function there was made
for. A function that is made under a name takes the place of the one that was there, and one that is
removed is gone, whatever it was made for. The steps are those of changes that the server has
accepted: it refuses to remove a function that the trigger of another table still calls (2BP01), and
such a change leaves the store as it is.
-/

set_option autoImplicit false

namespace ExpandContract

open Sql

/-! ## Stored names -/

namespace Sql

/-- A table, and the key of a trigger on it. -/
abbrev SyncKey := String × String

/-- The name under which the server stores the function of a trigger. -/
@[irreducible]
def functionName (pair : SyncKey) : String :=
  storedName (syncTriggerName pair.1 pair.2)

/-- What the name of a trigger adds to the beginning that all of them have. -/
def ownPart (pair : SyncKey) : String :=
  pair.1 ++ "_" ++ pair.2

/-- The bytes that are left for it. -/
def ownBytes : Nat := 46

/-- As much of it as the server keeps. -/
def keptPart (pair : SyncKey) : List Char :=
  takeBytes ownBytes (ownPart pair).toList

theorem functionName_eq (pair : SyncKey) :
    functionName pair = "_pgshift_trigger_" ++ String.ofList (keptPart pair) := by
  have joined : syncTriggerName pair.1 pair.2 = "_pgshift_trigger_" ++ ownPart pair := by
    unfold syncTriggerName ownPart
    rw [String.append_assoc, String.append_assoc, String.append_assoc]
  have beginning : ("_pgshift_trigger_").utf8ByteSize = 17 := by decide
  have fits : ("_pgshift_trigger_").utf8ByteSize ≤ maxIdentifierBytes := by
    rw [beginning]
    decide
  rw [functionName, joined, storedName_append _ fits, beginning]
  rfl

/-- Two functions have the same name just if the kept parts are the same. -/
theorem functionName_eq_iff {pair other : SyncKey} :
    functionName pair = functionName other ↔ keptPart pair = keptPart other := by
  rw [functionName_eq, functionName_eq]
  constructor
  · intro same
    exact String.ofList_injective ((String.append_right_inj _).mp same)
  · intro same
    rw [same]

/-- Of a name that fits everything is kept. -/
theorem keptPart_of_fits {pair : SyncKey} (fits : (ownPart pair).utf8ByteSize ≤ ownBytes) :
    keptPart pair = (ownPart pair).toList := by
  refine takeBytes_eq_self ?_
  rwa [String.ofList_toList]

/-! ## What changes do to functions -/

/-- A change of the functions of triggers. -/
inductive FunctionStep where
  /-- A function is made for the table and the key. -/
  | installed (pair : SyncKey)
  /-- The function of that table and key is removed. -/
  | removed (pair : SyncKey)
deriving DecidableEq, Repr

/-- What a change does to the functions of triggers. -/
def Change.functionSteps : Change → List FunctionStep
  | .createSyncTrigger trigger => [.installed (trigger.table, trigger.key)]
  | .dropSyncTrigger _ table key => [.removed (table, key)]
  | _ => []

theorem Change.functionSteps_of_neutral {statement : Change} (neutral : statement.Neutral) :
    statement.functionSteps = [] := by
  cases statement with
  | createSyncTrigger | dropSyncTrigger => exact neutral.elim
  | _ => rfl

end Sql

/-! ## The functions that are there -/

/-- The functions of triggers in a schema: what each of them was made for, under its stored name. -/
structure FunctionStore where
  madeFor? : String → Option SyncKey

namespace FunctionStore

variable {store : FunctionStore} {name : String} {pairs : List SyncKey} {pair : SyncKey}

/-- The functions after one step. -/
def apply (store : FunctionStore) : FunctionStep → FunctionStore
  | .installed pair =>
      ⟨fun name => if name = functionName pair then some pair else store.madeFor? name⟩
  | .removed pair => ⟨fun name => if name = functionName pair then none else store.madeFor? name⟩

/-- The functions after steps, taken one after the other. -/
def after (store : FunctionStore) (steps : List FunctionStep) : FunctionStore :=
  steps.foldl apply store

theorem after_append (store : FunctionStore) (first rest : List FunctionStep) :
    store.after (first ++ rest) = (store.after first).after rest :=
  List.foldl_append

/-- The function of the table and the key is there, and was made for them. -/
def Has (store : FunctionStore) (pair : SyncKey) : Prop :=
  store.madeFor? (functionName pair) = some pair

theorem has_apply_installed : (store.apply (.installed pair)).Has pair :=
  if_pos rfl

/-- A function that is made under another name leaves a name as it was. -/
theorem madeFor?_after_installed (others : ∀ pair ∈ pairs, functionName pair ≠ name) :
    (store.after (pairs.map .installed)).madeFor? name = store.madeFor? name := by
  induction pairs generalizing store with
  | nil => rfl
  | cons pair rest ih =>
      obtain ⟨other, later⟩ := List.forall_mem_cons.mp others
      exact (ih later).trans (if_neg other.symm)

/-- Under the name of a function that has been made there is the last one of that name. -/
theorem exists_madeFor_after_installed (store : FunctionStore) (member : pair ∈ pairs) :
    ∃ last ∈ pairs, functionName last = functionName pair ∧
      (store.after (pairs.map .installed)).madeFor? (functionName pair) = some last := by
  induction pairs generalizing store pair with
  | nil => cases member
  | cons first rest ih =>
      by_cases later : ∃ other ∈ rest, functionName other = functionName pair
      · obtain ⟨other, among, same⟩ := later
        rw [← same]
        obtain ⟨last, inRest, named, found⟩ := ih (store.apply (.installed first)) among
        exact ⟨last, List.mem_cons_of_mem _ inRest, named, found⟩
      · -- Nothing takes the place of the first one, so it is the one of that name.
        have isFirst : pair = first := by
          rcases List.mem_cons.mp member with here | there
          · exact here
          · exact absurd ⟨pair, there, rfl⟩ later
        subst isFirst
        have last : ∀ other ∈ rest, functionName other ≠ functionName pair :=
          fun other among same => later ⟨other, among, same⟩
        exact ⟨pair, List.mem_cons_self, rfl,
          (madeFor?_after_installed last).trans has_apply_installed⟩

/-- After functions have been made, each of them is there just if no two have the same name. -/
theorem has_after_installed_iff :
    (∀ pair ∈ pairs, (store.after (pairs.map .installed)).Has pair) ↔
      ∀ pair ∈ pairs, ∀ other ∈ pairs, functionName pair = functionName other → pair = other := by
  constructor
  · intro has pair member other among same
    have there := has pair member
    rw [Has, same, has other among] at there
    exact (Option.some.inj there).symm
  · intro apart pair member
    obtain ⟨last, among, named, found⟩ := exists_madeFor_after_installed store member
    rw [Has, found, apart last among pair member named]

/-- Of functions that are removed none is left, and under all other names there is
what was there. -/
theorem madeFor?_after_removed (pairs : List SyncKey) (name : String) :
    (store.after (pairs.map .removed)).madeFor? name =
      if name ∈ pairs.map functionName then none else store.madeFor? name := by
  induction pairs generalizing store with
  | nil => simp [after]
  | cons first rest ih =>
      rw [List.map_cons, List.map_cons, ← List.singleton_append, after_append, ih]
      by_cases later : name ∈ rest.map functionName
      · simp [later]
      · by_cases here : name = functionName first <;> simp [after, apply, later, here]

end FunctionStore

end ExpandContract
