import ExpandContract.Time.Duration

/-!
# Time and cancellation

A session lives in time: calls happen at instants, and between two attempts of a call there is a
delay. Instants are counted in nanoseconds from the beginning of the session. Calls take no time,
so that only delays move the clock.

A session can be cancelled at some instant. A delay ends early when the session is cancelled before
the delay is over.

How long a delay really lasts is up to the timer of the machine, and so is what happens when a delay
is over just when the session is cancelled. A `Timer` is any timer that keeps what a timer promises:
no delay is over before it has passed.
-/

set_option autoImplicit false

namespace ExpandContract.Time

/-- The present instant, and the instant at which the session is cancelled, if it ever is. -/
structure Clock where
  now : Nat
  cancelAt : Option Nat
deriving DecidableEq, Repr

namespace Clock

/-- The beginning of a session that nobody cancels. -/
def start : Clock := { now := 0, cancelAt := none }

/-- Whether the session is cancelled at the present instant. -/
def isCancelled (c : Clock) : Bool :=
  match c.cancelAt with
  | some instant => instant ≤ c.now
  | none => false

/-- Cancels the session now; one that is cancelled already stays so. -/
def cancel (c : Clock) : Clock :=
  { c with
    cancelAt := some (match c.cancelAt with
      | some instant => min instant c.now
      | none => c.now) }

end Clock

/-! ## Timers -/

/-- What measures the delays of a session. -/
structure Timer where
  /-- The instant at which a delay that begins now is over, if nothing ends it before. -/
  wake : Clock → Duration → Nat
  /-- No delay is over before it has passed. -/
  le_wake : ∀ clock delay, clock.now + delay.nanos ≤ wake clock delay
  /-- Whether a delay has passed that is over at the very instant of the cancellation. -/
  passesAtOnce : Clock → Duration → Bool

namespace Timer

/-- A timer that wakes at the instant that is asked for, and for which the cancellation comes first
where both come at once. -/
def exact : Timer where
  wake clock delay := clock.now + delay.nanos
  le_wake _ _ := Nat.le_refl _
  passesAtOnce _ _ := false

/-- Waits for the delay to pass: whether it passed, and the clock afterwards. A delay that begins in
a cancelled session could end at once. -/
def wait (timer : Timer) (c : Clock) (delay : Duration) : Bool × Clock :=
  match c.cancelAt with
  | none => (true, { c with now := timer.wake c delay })
  | some instant =>
      let ends := max c.now instant
      if ends < timer.wake c delay then (false, { c with now := ends })
      else
        (timer.wake c delay < ends || timer.passesAtOnce c delay,
          { c with now := timer.wake c delay })

variable (timer : Timer) (c : Clock) (delay : Duration)

theorem now_le_wake : c.now ≤ timer.wake c delay :=
  Nat.le_trans (Nat.le_add_right _ _) (timer.le_wake c delay)

/-- A delay makes no difference to when the session is cancelled. -/
theorem cancelAt_wait : (timer.wait c delay).2.cancelAt = c.cancelAt := by
  unfold wait
  split
  · rfl
  · dsimp only
    split <;> rfl

/-- Time never runs back during a delay. -/
theorem now_le_wait : c.now ≤ (timer.wait c delay).2.now := by
  unfold wait
  split
  · exact timer.now_le_wake c delay
  · dsimp only
    split
    · exact Nat.le_max_left _ _
    · exact timer.now_le_wake c delay

end Timer

/-- A state together with the time. -/
structure Timed (σ : Type) where
  clock : Clock
  state : σ

end ExpandContract.Time
