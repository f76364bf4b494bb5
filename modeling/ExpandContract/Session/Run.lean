import ExpandContract.Session.Procedure
import ExpandContract.Time.Retry

/-!
# Running procedures

A procedure is run against a server: a function that answers a request, with a state of its own. The
run records every request and every other event in a trace. A server may also cancel the session
while it works on a request; the request is then still answered.

Requests and transactions are repeated while a lock is refused, and a loop goes on as long as its
step asks for it. How many rounds an observer waits for is the patience of the run. When it is used
up there is no outcome: the call is still under way.
-/

set_option autoImplicit false

namespace ExpandContract.Session

open Time (Backoff Clock Timed Timer)

/-! ## Servers and worlds -/

/-- What a server does with a request. -/
structure Reply where
  /-- Whether the session is cancelled while the server works on the request. -/
  cancels : Bool
  outcome : Except ServerError Answer

/-- A server, with a state that tells it how to go on. -/
abbrev Server (σ : Type) := σ → Request → Reply × σ

/-- The state of a server, and what has been observed so far. -/
structure Wire (σ : Type) where
  server : σ
  trace : List Event

/-- The server, the observations and the time. -/
abbrev World (σ : Type) := Timed (Wire σ)

variable {σ α β τ : Type}

/-- The beginning of a session with a server. -/
def World.start (server : σ) : World σ :=
  { clock := .start, state := { server, trace := [] } }

/-- The world after an observation. -/
def World.observe (world : World σ) (event : Event) : World σ :=
  { world with state := { world.state with trace := world.state.trace ++ [event] } }

/-! ## Requests and transactions, once -/

/-- Sends a request to the server. -/
def deliver (server : Server σ) (request : Request) (world : World σ) :
    Except DatabaseError Answer × World σ :=
  let world := world.observe (.request request)
  let (reply, state) := server world.state.server request
  (reply.outcome.mapError .server,
    { clock := if reply.cancels then world.clock.cancel else world.clock
      state := { world.state with server := state } })

/-- Makes a request once. -/
def sendOnce (server : Server σ) (request : Request) (world : World σ) :
    Except Error Answer × World σ :=
  let (outcome, world) := deliver server request world
  (outcome.mapError .database, world)

/-- Runs the body of a transaction. -/
def Transaction.run (server : Server σ) :
    Transaction α → World σ → Except Error α × World σ
  | .done value, world => (.ok value, world)
  | .fail error, world => (.error error, world)
  | .send request next, world =>
      let (outcome, world) := deliver server request world
      (next outcome).run server world

/-- Runs a transaction once: a body that gives a value is committed, one that fails is rolled back,
and whether the server carries out the rollback makes no difference. -/
def transactOnce (server : Server σ) (body : Transaction α) (world : World σ) :
    Except Error α × World σ :=
  match deliver server .begin world with
  | (.error cause, world) => (.error (.database cause), world)
  | (.ok _, world) =>
      match body.run server world with
      | (.ok value, world) =>
          match deliver server .commit world with
          | (.ok _, world) => (.ok value, world)
          | (.error cause, world) => (.error (.database cause), world)
      | (.error error, world) => (.error error, (deliver server .rollback world).2)

/-! ## Procedures -/

/-- Repeats a step until it gives a result. -/
def repeatStep (step : τ → World σ → Option (Except Error (τ ⊕ β)) × World σ) :
    Nat → τ → World σ → Option (Except Error β) × World σ
  | 0, _, world => (none, world)
  | patience + 1, state, world =>
      match step state world with
      | (none, world) => (none, world)
      | (some (.error error), world) => (some (.error error), world)
      | (some (.ok (.inl state)), world) => repeatStep step patience state world
      | (some (.ok (.inr result)), world) => (some (.ok result), world)

/-- How procedures are run. -/
structure Runner (σ : Type) where
  server : Server σ
  /-- The delays between two attempts. -/
  policy : Backoff
  /-- The delays that chance chooses among them. -/
  draws : policy.Draws (Wire σ)
  timer : Timer
  /-- How many rounds of each loop an observer waits for. -/
  patience : Nat

/-- Running against a server with the delays of a policy, of which nothing is cut off, on an exact
timer. -/
def Runner.plain (policy : Backoff) (server : Server σ) (patience : Nat) : Runner σ :=
  { server
    policy := policy.withJitter 0
    draws := .whole policy.jitter_withJitter_zero
    timer := .exact
    patience }

/-- Runs a procedure. There is no outcome when some loop needs more rounds than the patience. -/
def Procedure.run {α : Type} (runner : Runner σ) :
    Procedure α → World σ → Option (Except Error α) × World σ
  | .done value, world => (some (.ok value), world)
  | .fail error, world => (some (.error error), world)
  | .send request next, world =>
      match Time.retry runner.timer runner.draws Error.isRefusedLock
        (fun _ => sendOnce runner.server request) runner.patience world with
      | (some outcome, world) => (next outcome).run runner world
      | (none, world) => (none, world)
  | .transaction body next, world =>
      match Time.retry runner.timer runner.draws Error.isRefusedLock
        (fun attempt => transactOnce runner.server (body attempt)) runner.patience world with
      | (some outcome, world) => (next outcome).run runner world
      | (none, world) => (none, world)
  | .pause delay next, world =>
      match runner.timer.wait world.clock delay.val with
      | (true, clock) => (next (.ok ())).run runner { world with clock }
      | (false, clock) => (next (.error .cancelled)).run runner { world with clock }
  | .observe sight next, world => next.run runner (world.observe (.sight sight))
  | .cancel next, world => next.run runner { world with clock := world.clock.cancel }
  | .iterate step state next, world =>
      match repeatStep (fun state world => (step state).run runner world) runner.patience state
        world with
      | (some outcome, world) => (next outcome).run runner world
      | (none, world) => (none, world)

/-! ## Runs of parts -/

/-- The run of a body that is followed by something: what follows begins in the world that the body
leaves, with the value it gives, and a body that fails is the end. -/
theorem Transaction.run_bind (server : Server σ) (body : Transaction α) (f : α → Transaction β)
    (world : World σ) :
    (body.bind f).run server world =
      match body.run server world with
      | (.ok value, world) => (f value).run server world
      | (.error error, world) => (.error error, world) := by
  induction body generalizing world with
  | done value => rfl
  | fail error => rfl
  | send request next ih => simp only [bind, run, ih]

/-- The run of a procedure that is followed by something: what follows begins in the world that the
procedure leaves, with the value it gives, and one that fails or is still under way is the end. -/
theorem Procedure.run_bind (runner : Runner σ) (p : Procedure α) (f : α → Procedure β)
    (world : World σ) :
    (p.bind f).run runner world =
      match p.run runner world with
      | (some (.ok value), world) => (f value).run runner world
      | (some (.error error), world) => (some (.error error), world)
      | (none, world) => (none, world) := by
  induction p generalizing world with
  | done value => rfl
  | fail error => rfl
  | send request next ih =>
      simp only [bind, run]
      split
      · exact ih _ _ _
      · rfl
  | transaction body next ih =>
      simp only [bind, run]
      split
      · exact ih _ _ _
      · rfl
  | pause delay next ih =>
      simp only [bind, run]
      split <;> exact ih _ _ _
  | observe sight next ih => exact ih _ _
  | cancel next ih => exact ih _ _
  | iterate step state next _ ih =>
      simp only [bind, run]
      split
      · exact ih _ _ _
      · rfl

/-- A caught failure changes the outcome and nothing else: the world afterwards is the one that the
procedure leaves. -/
theorem Procedure.run_attempt (runner : Runner σ) (p : Procedure α) (world : World σ) :
    p.attempt.run runner world =
      match p.run runner world with
      | (some outcome, world) => (some (.ok outcome), world)
      | (none, world) => (none, world) := by
  induction p generalizing world with
  | done value => rfl
  | fail error => rfl
  | send request next ih =>
      simp only [attempt, run]
      split
      · exact ih _ _
      · rfl
  | transaction body next ih =>
      simp only [attempt, run]
      split
      · exact ih _ _
      · rfl
  | pause delay next ih =>
      simp only [attempt, run]
      split <;> exact ih _ _
  | observe sight next ih => exact ih _
  | cancel next ih => exact ih _
  | iterate step state next _ ih =>
      simp only [attempt, run]
      split
      · exact ih _ _
      · rfl

end ExpandContract.Session
