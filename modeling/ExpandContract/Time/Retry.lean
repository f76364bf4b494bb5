import ExpandContract.Error
import ExpandContract.Time.Backoff
import ExpandContract.Time.Clock

/-!
# Trying again

A call that fails for a reason that may pass is made again after a delay, until it succeeds, fails
for another reason, or the session is cancelled. The reasons that may pass are a parameter, and so
are the timer and the choices of chance among the delays of the policy.

Nothing bounds the number of attempts, so the loop is run with a patience: the number of attempts
that an observer waits for. While more attempts are needed there is no outcome.
-/

set_option autoImplicit false

namespace ExpandContract.Time

variable {σ α : Type}

/-- What chance chooses: a delay for each attempt in each world. -/
structure Backoff.Draws (policy : Backoff) (σ : Type) where
  delay : Timed σ → Nat → Duration
  allowed : ∀ world attempt, policy.Allows attempt (delay world attempt)

/-- Without jitter there is nothing to choose. -/
def Backoff.Draws.whole {policy : Backoff} (still : policy.jitter ≤ 0) : policy.Draws σ where
  delay _ attempt := policy.fullDelay attempt
  allowed _ _ := (Backoff.allows_iff still).mpr rfl

/-- The same choices in other worlds, by what they have in common. -/
def Backoff.Draws.comap {policy : Backoff} {τ : Type} (draws : policy.Draws σ)
    (common : Timed τ → Timed σ) : policy.Draws τ where
  delay world := draws.delay (common world)
  allowed world := draws.allowed (common world)

/-- Makes a call until it has an outcome; `attempt` counts the repetitions so far, and the call may
depend on it. -/
def repeatCall (timer : Timer) {policy : Backoff} (draws : policy.Draws σ) (mayPass : Error → Bool)
    (call : Nat → Timed σ → Except Error α × Timed σ) :
    Nat → Nat → Timed σ → Option (Except Error α) × Timed σ
  | 0, _, world => (none, world)
  | patience + 1, attempt, world =>
      match call attempt world with
      | (.ok value, world) => (some (.ok value), world)
      | (.error error, world) =>
          if mayPass error then
            match timer.wait world.clock (draws.delay world attempt) with
            | (true, clock) =>
                repeatCall timer draws mayPass call patience (attempt + 1) { world with clock }
            | (false, clock) => (some (.error .cancelled), { world with clock })
          else (some (.error error), world)

/-- Makes a call until it has an outcome, unless the session is cancelled already. -/
def retry (timer : Timer) {policy : Backoff} (draws : policy.Draws σ) (mayPass : Error → Bool)
    (call : Nat → Timed σ → Except Error α × Timed σ) (patience : Nat) (world : Timed σ) :
    Option (Except Error α) × Timed σ :=
  if world.clock.isCancelled then (some (.error .cancelled), world)
  else repeatCall timer draws mayPass call patience 0 world

end ExpandContract.Time
