import ExpandContract.Backfill.Run
import ExpandContract.Proofs.Session.Asking

/-!
# What a backfill asks for

A backfill asks how many rows there are and then updates them batch by batch, each batch in a
transaction of its own. It asks for nothing else, and for nothing about another table.
-/

set_option autoImplicit false

namespace ExpandContract.Backfill

open Session Procedure

/-- The requests of a backfill of the table of this name. -/
inductive Asks (table : String) : Request → Prop where
  | begin : Asks table .begin
  | commit : Asks table .commit
  | rollback : Asks table .rollback
  | estimate {schema : String} : Asks table (.estimateRows schema table)
  | count {schema : String} : Asks table (.countRows schema table)
  | update {batch : Batch} {limit : Nat} {cursor : Option (List String)}
      (same : batch.table = table) : Asks table (.updateBatch batch limit cursor)

variable {config : BackfillConfig} {batch : Batch}

theorem asksOnly_believedRows (schema table : String) :
    (believedRows schema table).AsksOnly (Asks table) := by
  refine .bind (.fetch? .estimate) fun answer => ?_
  rcases answer with _ | row
  case' none => refine AsksOnly.bind (.done _) ?_
  case' some => refine AsksOnly.bind (.ofExcept _) ?_
  all_goals
    intro estimate
    by_cases positive : 0 < estimate
    · simp only [if_pos positive]
      exact .done _
    · simp only [if_neg positive]
      refine .bind (.fetch? .count) fun answer => ?_
      cases answer with
      | none => exact .done _
      | some row => exact .bind (.ofExcept _) fun _ => .done _

theorem asksOnly_batchTransaction {limit : Nat} {cursor : Option (List String)} :
    (batchTransaction batch limit cursor).AsksOnly (Asks batch.table) := by
  refine .send (.update rfl) fun outcome => ?_
  rcases outcome with cause | ⟨_ | ⟨row, rest⟩, affected⟩
  · exact .fail _
  · exact .fail _
  · exact .ofExcept _

theorem asksOnly_reportProgress {allowed : Request → Prop} (p : Progress) (first count : Nat) :
    (reportProgress p first count).AsksOnly allowed := by
  induction count generalizing first with
  | zero => exact .done _
  | succ count ih => exact .bind (.emit _) fun _ => ih (first + 1)

theorem asksOnly_step (position : Position) :
    (step config batch position).AsksOnly (Asks batch.table) := by
  refine .bind (.inTransaction .begin .commit .rollback asksOnly_batchTransaction) ?_
  rintro ⟨count, last⟩
  by_cases wrote : 0 < count
  case' pos =>
    simp only [if_pos wrote]
    refine .bind (asksOnly_reportProgress _ _ _) fun _ => ?_
  case' neg => simp only [if_neg wrote]
  all_goals
    split
    · exact .done _
    · split
      · exact .bind (.wait _) fun _ => .done _
      · exact .done _

theorem Batch.table_of_ofTable {schema : String} {table : Table}
    (made : Batch.ofTable schema table = .ok batch) : batch.table = table.name := by
  unfold ofTable at made
  split at made
  · cases made
  · split at made
    · cases made
    · cases made
      rfl

/-- A backfill asks for nothing else. -/
theorem asksOnly_run (config : BackfillConfig) (schema : String) (table : Table) :
    (run config schema table).AsksOnly (Asks table.name) := by
  refine .bind_of (.ofExcept _) fun _ batch made => .bind (asksOnly_believedRows _ _) fun _ => ?_
  rw [← Batch.table_of_ofTable (dialogue_ofExcept.mp made).2.symm]
  exact .loop asksOnly_step _

end ExpandContract.Backfill
