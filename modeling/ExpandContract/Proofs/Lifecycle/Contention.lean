import ExpandContract.Proofs.Ledger.Answers
import ExpandContract.Proofs.Lifecycle.Courses
import ExpandContract.Proofs.Lifecycle.Orderly
import ExpandContract.Proofs.Session.Withstanding

/-!
# Contention does not show

A call of the lifecycle that meets refused locks ends like one that meets none: it has the same
outcome, it leaves the same notes once the refused attempts are struck out, and no error it ends
with tells of a refused lock (`same_under_contention`). The refusals are those of a schedule, so
there are finitely many of them, and they may come anywhere: outside of transactions and inside, in
a backfill and while a failed start is undone. How long the delays between the attempts are is left
to chance and to the timer, within what the policy of the session allows.
-/

set_option autoImplicit false

namespace ExpandContract

open Session Procedure
open Time (Clock)

variable {α σ : Type}

/-- A call of the lifecycle. -/
inductive LifecycleCall : Type → Type where
  | init : LifecycleCall Unit
  | start (m : Migration) : LifecycleCall (List Backfill.Progress)
  | complete : LifecycleCall Unit
  | rollback : LifecycleCall Unit
  | recordBaseline (name : String) : LifecycleCall Unit
  | status : LifecycleCall Ledger.Status
  | history : LifecycleCall (List Ledger.Entry)
  | pendingMigrations (localMigrations : List Migration) : LifecycleCall (List Migration)
  | entriesMissingLocally (localMigrations : List Migration) : LifecycleCall (List Ledger.Entry)

namespace MigrationSession

/-- What a session does in a call. -/
def perform (s : MigrationSession) : LifecycleCall α → Procedure α
  | .init => s.ledger.init
  | .start m => s.start m
  | .complete => s.complete
  | .rollback => s.rollback
  | .recordBaseline name => s.ledger.recordBaseline s.schema name
  | .status => s.ledger.status s.schema
  | .history => s.ledger.history s.schema
  | .pendingMigrations localMigrations => s.pendingMigrations localMigrations
  | .entriesMissingLocally localMigrations => s.entriesMissingLocally localMigrations

theorem orderly_perform {s : MigrationSession} (unhooked : s.config.hooks = [])
    (call : LifecycleCall α) : (s.perform call).Orderly := by
  cases call with
  | init => exact Ledger.orderly_init
  | start m => exact orderly_start unhooked
  | complete => exact orderly_complete unhooked
  | rollback => exact orderly_rollback
  | recordBaseline name => exact Ledger.orderly_recordBaseline
  | status => exact Ledger.orderly_status
  | history => exact Ledger.orderly_history
  | pendingMigrations localMigrations => exact orderly_pendingMigrations localMigrations
  | entriesMissingLocally localMigrations => exact orderly_entriesMissingLocally localMigrations

/-- A call whose server refuses locks as scheduled comes to the outcome that it has without the
refusals, with the notes it has without the refused attempts, whatever delays are drawn for it:
where the server itself refuses no lock, these are all the notes of the other session. -/
theorem same_under_contention {s : MigrationSession} (unhooked : s.config.hooks = [])
    (call : LifecycleCall α) {runner : Runner σ} (steady : runner.server.Steady) {clock : Clock}
    (live : clock.cancelAt = none) {state : σ} {after : World σ} {outcome : Except Error α}
    (ran : (s.perform call).run runner (.at clock state) = (some outcome, after))
    (message : String) (schedule : List Bool)
    (draws : runner.policy.Draws (Wire (Contended σ))) :
    ∃ contendedAfter enough, (∀ patience, enough ≤ patience →
      (s.perform call).run (runner.contended message draws patience)
        (.at clock (.start state schedule)) = (some outcome, contendedAfter)) ∧
    settled (Server.notes (runner.server.contended message) (.start state schedule)
        contendedAfter.state.trace) =
      settled (Server.notes runner.server state after.state.trace) ∧
    ((∀ note ∈ Server.notes runner.server state after.state.trace, note.isRefusal = false) →
      settled (Server.notes (runner.server.contended message) (.start state schedule)
          contendedAfter.state.trace) =
        Server.notes runner.server state after.state.trace) ∧
    ∀ error, outcome = .error error → error.mentionsRefusedLock = false := by
  obtain ⟨faultless, contendedAfter, advance, enough, runs⟩ :=
    (orderly_perform unhooked call).withstands σ runner message draws steady ran
      (.beginning live state schedule)
  obtain ⟨_, kept, _, ⟨events, way, rfl⟩, ⟨contendedEvents, contendedWay, rfl⟩, settles,
    contendedSettles⟩ := advance.alike
  have alike : settled (Server.notes (runner.server.contended message) (.start state schedule)
      contendedAfter.state.trace) =
        settled (Server.notes runner.server state after.state.trace) := by
    rw [contendedWay.trace, way.trace]
    exact contendedSettles.settled_eq.trans settles.settled_eq.symm
  refine ⟨contendedAfter, enough, runs, alike, ?_, ?_⟩
  · intro granted
    rw [alike, settled_eq_self granted]
  · rintro error rfl
    exact faultless

/-- A server that carries out everything and has no rows for anything. -/
def willing : Request → Except ServerError Answer :=
  fun _ => .ok .none

/-- The first attempt may not begin, the second is refused the ledger, and the third may not
commit. -/
def threeRefusals : List Bool :=
  [true, false, false, true, false, false, false, true]

/-- The ledger is made in the fourth attempt, as if it were the first. -/
theorem init_after_refusals :
    ∃ contendedAfter enough, (∀ patience, enough ≤ patience →
      (usual.perform .init).run
        ((Runner.answering willing).contended "canceling statement due to lock timeout"
          (.whole Time.Backoff.standard.jitter_withJitter_zero) patience)
        (.at .start (.start () threeRefusals)) = (some (.ok ()), contendedAfter)) ∧
    settled (Server.notes
        ((Server.answering willing).contended "canceling statement due to lock timeout")
        (.start () threeRefusals) contendedAfter.state.trace) =
      (usual.perform .init).notesWith willing := by
  have steady : (Runner.answering willing).server.Steady := fun _ _ => rfl
  have ran : (usual.perform .init).run (.answering willing) (.at .start ()) =
      (some (.ok ()), ((usual.perform .init).run (.answering willing) (.at .start ())).2) := rfl
  have granted : ∀ note ∈ (usual.perform .init).notesWith willing, note.isRefusal = false := by
    decide
  obtain ⟨contendedAfter, enough, runs, _, alike, _⟩ :=
    same_under_contention rfl .init steady rfl ran _ threeRefusals
      (.whole Time.Backoff.standard.jitter_withJitter_zero)
  exact ⟨contendedAfter, enough, runs, alike granted⟩

end MigrationSession

end ExpandContract
