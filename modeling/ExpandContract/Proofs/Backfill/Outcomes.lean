import ExpandContract.Backfill.Run
import ExpandContract.Proofs.Session.Outcomes

/-!
# What a backfill comes to

A backfill of a table whose batches can be told tells of that table when it is done, and the only
errors it fails with are those of the session and the database (`comesTo_run`). If they cannot be
told it fails at once, for a reason of its own.
-/

set_option autoImplicit false

namespace ExpandContract.Backfill

open Session Procedure

variable {config : BackfillConfig} {batch : Batch} {schema name : String} {table : Table}

theorem comesTo_believedRows :
    (believedRows schema name).ComesTo (fun _ => True) Error.FromSession := by
  refine .bind .fetch? fun answer _ => ?_
  rcases answer with _ | row
  case' none => refine ComesTo.bind (.done trivial : ComesTo _ (fun _ => True) _) ?_
  case' some => refine ComesTo.bind (.ofExcept row.described_value) ?_
  all_goals
    intro estimate _
    by_cases positive : 0 < estimate
    · simp only [if_pos positive]
      exact .done trivial
    · simp only [if_neg positive]
      refine .bind .fetch? fun answer _ => ?_
      cases answer with
      | none => exact .done trivial
      | some row => exact .bind (.ofExcept row.described_value) fun _ _ => .done trivial

theorem described_batchOfRow (row : Row) :
    Described (fun _ => True) Error.FromSession (batchOfRow row) :=
  row.described_value.bind fun _ _ => row.described_value?.bind fun _ _ => trivial

theorem described_batchTransaction {limit : Nat} {cursor : Option (List String)} {notes : List Note}
    {outcome : Except Error (Nat × Option (List String))}
    (dialogue : (batchTransaction batch limit cursor).Dialogue notes outcome) :
    Described (fun _ => True) Error.FromSession outcome := by
  cases dialogue with
  | send reply rest =>
    rcases reply with cause | ⟨_ | ⟨row, others⟩, affected⟩
    · cases rest
      exact .inr ⟨_, rfl⟩
    · cases rest
      exact .inr ⟨_, rfl⟩
    · have read := described_batchOfRow row
      have ended : (Transaction.ofExcept (batchOfRow row)).Dialogue _ outcome := rest
      cases answered : batchOfRow row with
      | ok value =>
        rw [answered] at ended
        cases ended
        trivial
      | error cause =>
        rw [answered] at ended read
        cases ended
        exact read

theorem comesTo_reportProgress (p : Progress) (first count : Nat) {kind : Error → Prop} :
    (reportProgress p first count).ComesTo (fun _ => True) kind := by
  induction count generalizing first with
  | zero => exact .done trivial
  | succ count ih => exact .bind (.emit _) fun _ _ => ih (first + 1)

/-- A batch goes on with the same table. -/
theorem comesTo_step {position : Position} (named : position.progress.table = name) :
    (step config batch position).ComesTo
      (Sum.elim (fun next => next.progress.table = name) fun progress => progress.table = name)
      Error.FromSession := by
  refine .bind (.inTransaction fun _ _ => described_batchTransaction) ?_
  rintro ⟨count, last⟩ _
  by_cases wrote : 0 < count
  case' pos =>
    simp only [if_pos wrote]
    refine .bind (comesTo_reportProgress _ _ _) fun _ _ => ?_
  case' neg => simp only [if_neg wrote]
  all_goals
    split
    · exact .done named
    · split
      · exact .bind (.wait _) fun _ _ => .done named
      · exact .done named

/-- A backfill with batches tells of its table, or fails because of the session or the database. -/
theorem comesTo_run (made : Batch.ofTable schema table = .ok batch) :
    (run config schema table).ComesTo (fun progress => progress.table = table.name)
      Error.FromSession := by
  unfold run
  rw [made]
  refine .bind (.done trivial : ComesTo _ (fun _ => True) _) fun batch _ => ?_
  exact .bind comesTo_believedRows fun _ _ => .loop (fun _ => comesTo_step) rfl

/-- Without batches a backfill fails for the reason that there are none. -/
theorem comesTo_run_of_error {cause : Error} (failed : Batch.ofTable schema table = .error cause) :
    (run config schema table).ComesTo (fun _ => False) (· = cause) := by
  unfold run
  rw [failed]
  have none : (Procedure.ofExcept (.error cause)).ComesTo (fun _ : Batch => False) (· = cause) :=
    .ofExcept rfl
  exact none.bind fun _ => False.elim

end ExpandContract.Backfill
