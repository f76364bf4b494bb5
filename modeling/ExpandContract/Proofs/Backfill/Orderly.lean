import ExpandContract.Backfill.Run
import ExpandContract.Proofs.Ledger.Orderly

/-!
# Backfills are orderly

A backfill is orderly: each batch is one statement in a transaction of its own, and a batch that was
refused a lock is run again from the same cursor.
-/

set_option autoImplicit false

namespace ExpandContract.Backfill

open Session Procedure

theorem orderly_reportProgress (p : Progress) (first count : Nat) :
    (reportProgress p first count).Orderly := by
  induction count generalizing first with
  | zero => exact .done trivial
  | succ count ih => exact .bind (.emit _) fun _ _ => ih (first + 1)

theorem orderly_believedRows (schema table : String) : (believedRows schema table).Orderly := by
  refine .bind (.fetch? rfl) fun answer _ => ?_
  rcases answer with _ | row
  case' none =>
    have unknown : (Procedure.done (-1 : Int)).Orderly := .done trivial
    refine OrderlyWith.bind unknown ?_
  case' some => refine OrderlyWith.bind (.ofExcept (row.faultless_value ..)) ?_
  all_goals
    intro estimate _
    by_cases positive : 0 < estimate
    · simp only [if_pos positive]
      exact .done trivial
    · simp only [if_neg positive]
      refine .bind (.fetch? rfl) fun answer _ => ?_
      cases answer with
      | none => exact .done trivial
      | some row => exact .bind (.ofExcept (row.faultless_value ..)) fun _ _ => .done trivial

theorem faultless_batchOfRow (row : Row) : Faultless (fun _ => True) (batchOfRow row) :=
  .bind (row.faultless_value ..) fun _ => .bind (row.faultless_value? ..) fun _ => trivial

theorem orderly_batchTransaction (batch : Batch) (limit : Nat) (cursor : Option (List String)) :
    (batchTransaction batch limit cursor).Orderly := by
  refine .bind (.call rfl) fun answer => ?_
  split
  · exact rfl
  · exact .ofExcept (faultless_batchOfRow _)

theorem orderly_step (config : BackfillConfig) (batch : Batch) (position : Position) :
    (step config batch position).Orderly := by
  refine .bind (.inTransaction (orderly_batchTransaction ..)) ?_
  rintro ⟨count, last⟩ _
  by_cases wrote : 0 < count
  case' pos =>
    simp only [if_pos wrote]
    refine OrderlyWith.bind (orderly_reportProgress _ _ _) fun _ _ => ?_
  case' neg => simp only [if_neg wrote]
  all_goals
    split
    · exact .done trivial
    · split
      · exact .bind (.wait _) fun _ _ => .done trivial
      · exact .done trivial

theorem faultless_ofTable (schema : String) (table : Table) :
    Faultless (fun _ => True) (Batch.ofTable schema table) := by
  unfold Batch.ofTable
  split
  · rfl
  · split
    · rfl
    · trivial

/-- A backfill is orderly. -/
theorem orderly_run (config : BackfillConfig) (schema : String) (table : Table) :
    (run config schema table).Orderly :=
  .bind (.ofExcept (faultless_ofTable schema table)) fun batch _ =>
    .bind (orderly_believedRows _ _) fun _ _ => .loop (orderly_step config batch) _

end ExpandContract.Backfill
