import ExpandContract.Time.Retry

/-!
# Rehearsals

A rehearsal runs the retry loop on a list of outcomes that is known beforehand, and notes when the
calls are made. The last outcome goes on for ever; an empty list stands for a call that succeeds.

How many calls are worth waiting for follows from the list and from the instant of cancellation:
once the list is used up the same failure comes again and again, and delays only grow.
-/

set_option autoImplicit false

namespace ExpandContract.Time

/-- The outcome of one call of a rehearsal. -/
inductive Outcome where
  | success
  | failure (error : Error)
deriving DecidableEq, Repr

/-- A list of outcomes for the calls to come, with the delays between them: those of a policy
without jitter, on an exact timer. -/
structure Rehearsal where
  policy : Backoff
  still : policy.jitter ≤ 0
  mayPass : Error → Bool
  outcomes : List Outcome
  /-- The instant at which the session is cancelled. -/
  cancelAt : Option Nat

/-- What a rehearsal showed. -/
structure Rehearsal.Report where
  /-- The outcome: the number of calls, if the last one succeeded. -/
  outcome : Option (Except Error Nat)
  /-- The instants of the calls. -/
  calls : List Nat
  /-- The instant at which it was over. -/
  finish : Nat

namespace Rehearsal

/-- The outcome of call number `n`, counted from zero. -/
def outcomeAt (r : Rehearsal) (n : Nat) : Outcome :=
  match r.outcomes[n]? with
  | some outcome => outcome
  | none => r.outcomes.getLastD .success

/-- One call: its instant is noted, and it has the outcome of its place in the list. -/
def call (r : Rehearsal) (world : Timed (List Nat)) : Except Error Nat × Timed (List Nat) :=
  let calls := world.state ++ [world.clock.now]
  let world : Timed (List Nat) := { world with state := calls }
  match r.outcomeAt (calls.length - 1) with
  | .success => (.ok calls.length, world)
  | .failure error => (.error error, world)

/-- A number of calls after which nothing new can happen. -/
def patience (r : Rehearsal) : Nat :=
  r.outcomes.length + 2 + r.cancelAt.getD 0 / max 1 (r.policy.fullDelay 0).nanos

/-- Runs a rehearsal. -/
def run (r : Rehearsal) : Report :=
  let world : Timed (List Nat) := { clock := { now := 0, cancelAt := r.cancelAt }, state := [] }
  let (outcome, world) := retry .exact (.whole r.still) r.mayPass (fun _ => r.call) r.patience world
  { outcome, calls := world.state, finish := world.clock.now }

end Rehearsal

end ExpandContract.Time
