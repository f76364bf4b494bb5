import ExpandContract.Proofs.Lifecycle.Contention
import ExpandContract.Proofs.Session.Quitting
import ExpandContract.Proofs.Time.Schedule

/-!
# Cancellation stops the session

A call of the lifecycle looks whether the session is cancelled before it sends anything, while it
waits, and between two batches. So a session that is cancelled while the server works on a request
sends nothing more, but for the rest of the transaction that the request belongs to
(`cancellation_stops_session`): no attempt is repeated, no later operation is begun, no further
batch is filled, and a start that has failed is not even undone.
-/

set_option autoImplicit false

namespace ExpandContract

open Session Procedure
open Time (Clock)

variable {α σ : Type}

namespace MigrationSession

variable {s : MigrationSession}

/-- The events of a call, with a server in some state at some time. -/
def eventsOf (s : MigrationSession) (call : LifecycleCall α) (runner : Runner σ) (clock : Clock)
    (state : σ) : List Event :=
  ((s.perform call).run runner (.at clock state)).2.state.trace

/-- A session that is cancelled already sends nothing. Where it is cancelled while the server works
on a request, what still follows is the rest of the open transaction, and nothing where none is
open. It does not matter whether the call then comes to an end. The delays between two attempts
must not be empty. -/
theorem cancellation_stops_session (unhooked : s.config.hooks = []) (call : LifecycleCall α)
    {runner : Runner σ} (lasting : ∀ world attempt, 0 < (runner.draws.delay world attempt).nanos)
    (clock : Clock) (state : σ) :
    (clock.isCancelled = true → requests (s.eventsOf call runner clock state) = []) ∧
    ∀ before request rest,
      s.eventsOf call runner clock state = before ++ .request request :: rest →
      runner.server.CancelsAt state before request →
        EndsTransaction
          (transactionOpen
            (Server.notes runner.server state (before ++ [.request request]))) rest := by
  obtain ⟨events, quits, silent⟩ :=
    (orderly_perform unhooked call).halts lasting (.at clock state)
  have all : s.eventsOf call runner clock state = events := quits.trace
  rw [all]
  exact ⟨silent, quits.ends⟩

/-! ## A cancelled start -/

/-- A server that answers in a given way, and cancels the session while it works on
some requests. -/
def cancelling (cancels : Request → Bool) (answer : Request → Except ServerError Answer) :
    Runner Unit :=
  .plain .standard
    (fun _ request => ({ cancels := cancels request, outcome := answer request }, ())) 5

/-- It waits for a second at least before it tries again. -/
theorem nanos_pos_cancelling (cancels : Request → Bool)
    (answer : Request → Except ServerError Answer) (world : World Unit) (attempt : Nat) :
    0 < ((cancelling cancels answer).draws.delay world attempt).nanos :=
  Time.Backoff.nanos_fullDelay_pos (by decide) (by decide) attempt

/-- The start of a migration that is cancelled while its table is created, and refused a lock. -/
def cancelledStart : Runner Unit :=
  cancelling (fun
    | .change (.createTable _ _ _ _ _ _) => true
    | _ => false)
    (reporting (.ofName "public") .createsUsers fun _ => .error (refusedLock "canceling statement"))

/-- The making of the ledger, cancelled while the ledger is locked, which is refused. -/
def cancelledInit : Runner Unit :=
  cancelling (fun
    | .lockLedger _ => true
    | _ => false) fun
    | .lockLedger _ => .error ⟨"42501", "permission denied"⟩
    | _ => .ok .none

/-- The table is not created in another attempt and the start is not undone; and of the transaction
that makes the ledger, only the rollback follows. -/
theorem cancelled_calls_stop :
    (∃ before request, cancelledStart.server.CancelsAt () before request ∧
      usual.eventsOf (.start .createsUsers) cancelledStart .start () =
        before ++ [.request request] ∧
        EndsTransaction (transactionOpen
          (Server.notes cancelledStart.server () (before ++ [.request request]))) []) ∧
    (∃ before request, cancelledInit.server.CancelsAt () before request ∧
      usual.eventsOf .init cancelledInit .start () =
        before ++ [.request request, .request .rollback] ∧
        EndsTransaction (transactionOpen
          (Server.notes cancelledInit.server () (before ++ [.request request])))
          [.request .rollback]) := by
  constructor
  · refine ⟨(usual.eventsOf (.start .createsUsers) cancelledStart .start ()).take 3, _, ?_, rfl, ?_⟩
    · rfl
    · exact (cancellation_stops_session (s := usual) rfl (.start .createsUsers)
        (nanos_pos_cancelling _ _) .start ()).2 _ _ _ rfl rfl
  · refine ⟨[.request .begin], .lockLedger "pgshift", rfl, rfl, ?_⟩
    exact (cancellation_stops_session (s := usual) rfl .init (nanos_pos_cancelling _ _)
      .start ()).2 _ _ _ rfl rfl

end MigrationSession

end ExpandContract
