import ExpandContract.Decimal.Shortest
import ExpandContract.Time.Duration

/-!
# Growing delays

The delays between the attempts of a call that waits for a lock. The base delay doubles with every
attempt, sixteen times at most, and never exceeds a ceiling. A fraction of it, the jitter, is cut
off at random when a delay is used; where nothing is cut the delay is the base delay.

The jitter is a floating-point number, and so is the product that says how much may be cut off. No
delay belongs to a policy for which this product is no length of time, such as one whose jitter is
not a number.
-/

set_option autoImplicit false

namespace ExpandContract.Time

/-! ## Products with floating-point numbers -/

/-- A quotient, rounded to the nearest whole number and to the even one between two of them. -/
def roundedDiv (n d : Nat) : Nat :=
  if 2 * (n % d) < d then n / d
  else if d < 2 * (n % d) then n / d + 1
  else n / d + n / d % 2

/-- The nanoseconds in a number of seconds, where they are the length of a duration. -/
def nanosOf? (seconds : Float) : Option Nat :=
  if seconds < 0 then none
  else
    let (m, q) := Decimal.decode (seconds.toBits.toNat % Nat.pow 2 63)
    let nanos :=
      if 0 ≤ q then m * nanosPerSecond * Nat.pow 2 q.toNat
      else roundedDiv (m * nanosPerSecond) (Nat.pow 2 (-q).toNat)
    if nanos < Duration.limit then some nanos else none

/-- The length of a duration in seconds. -/
def Duration.inSeconds (d : Duration) : Float :=
  Float.ofNat d.seconds + Float.ofNat d.subsecond / Float.ofNat nanosPerSecond

/-! ## Policies -/

/-- A policy for the delays between attempts. -/
structure Backoff where
  /-- The base delay before the first repetition. -/
  initial : Duration
  /-- The ceiling of every delay. -/
  max : Duration
  /-- The fraction of a delay, between zero and one, that may be cut off at random. -/
  jitter : Float

namespace Backoff

/-- The fraction that may be cut off when none is asked for. -/
def defaultJitter : Float := 0.25

/-- A policy with the usual jitter. -/
def ofBounds (initial max : Duration) : Backoff :=
  { initial, max, jitter := defaultJitter }

/-- The usual policy: from one second to one minute. -/
def standard : Backoff :=
  ofBounds (.ofSeconds 1) (.ofSeconds 60)

/-- The policy with another jitter, brought between zero and one. -/
def withJitter (b : Backoff) (jitter : Float) : Backoff :=
  { b with jitter := if jitter < 0 then 0 else if 1 < jitter then 1 else jitter }

/-- The delay before repetition number `attempt`, counted from zero, with nothing cut off. -/
def fullDelay (b : Backoff) (attempt : Nat) : Duration :=
  (b.initial.saturatingMul (Nat.pow 2 (min attempt 16))).shorter b.max

/-- How many nanoseconds may be cut off at most: the jitter times the delay. -/
def spread? (b : Backoff) (attempt : Nat) : Option Nat :=
  nanosOf? (b.jitter * (b.fullDelay attempt).inSeconds)

/-- The delays that chance may choose before repetition number `attempt`. -/
def Allows (b : Backoff) (attempt : Nat) (delay : Duration) : Prop :=
  if b.jitter ≤ 0 then delay = b.fullDelay attempt
  else ∃ spread, b.spread? attempt = some spread ∧
    ∃ cut ≤ spread, delay.nanos + cut = (b.fullDelay attempt).nanos

/-- The delay before repetition number `attempt`, where chance has no part in it. -/
def certainDelay? (b : Backoff) (attempt : Nat) : Option Duration :=
  if b.jitter ≤ 0 || 0 < b.jitter && (b.initial.isZero || b.max.isZero) then
    some (b.fullDelay attempt)
  else none

variable {b : Backoff} {attempt : Nat} {delay : Duration}

/-- Without jitter there is one delay. -/
theorem allows_iff (still : b.jitter ≤ 0) :
    b.Allows attempt delay ↔ delay = b.fullDelay attempt := by
  rw [Allows, if_pos still]

/-- Chance can only shorten a delay. -/
theorem Allows.nanos_le (allowed : b.Allows attempt delay) :
    delay.nanos ≤ (b.fullDelay attempt).nanos := by
  unfold Allows at allowed
  split at allowed
  · exact Nat.le_of_eq (congrArg _ allowed)
  · obtain ⟨_, _, cut, _, rest⟩ := allowed
    omega

/-- A policy whose jitter is set to zero has none. -/
theorem jitter_withJitter_zero (b : Backoff) : (b.withJitter 0).jitter ≤ 0 := by
  change (if (0 : Float) < 0 then (0 : Float) else if (1 : Float) < 0 then 1 else 0) ≤ 0
  decide

/-- One half of three seconds may be cut off. -/
example : spread? { initial := .ofSeconds 3, max := .ofSeconds 60, jitter := 0.5 } 0 =
    some 1500000000 := by
  decide +kernel

end Backoff

/-! ## Texts -/

/-- The digits after the point, without the zeros at their end and with the point before them; the
number of places is fixed. -/
def shownPlaces (places fraction : Nat) : String :=
  let digits := Nat.toDigits 10 fraction
  let padded := List.replicate (places - digits.length) '0' ++ digits
  let kept := (padded.reverse.dropWhile (· == '0')).reverse
  if kept.isEmpty then "" else String.ofList ('.' :: kept)

/-- A duration as it is shown to people. -/
def Duration.shown (d : Duration) : String :=
  if 0 < d.seconds then toString d.seconds ++ shownPlaces 9 d.subsecond ++ "s"
  else if 1000000 ≤ d.subsecond then
    toString (d.subsecond / 1000000) ++ shownPlaces 6 (d.subsecond % 1000000) ++ "ms"
  else if 1000 ≤ d.subsecond then
    toString (d.subsecond / 1000) ++ shownPlaces 3 (d.subsecond % 1000) ++ "µs"
  else toString d.subsecond ++ "ns"

/-- A policy as it is shown to people. -/
def Backoff.shown (b : Backoff) : String :=
  "Backoff \x7b initial: " ++ b.initial.shown ++ ", max: " ++ b.max.shown ++ ", jitter: " ++
    Decimal.ofFloat b.jitter ++ " \x7d"

end ExpandContract.Time
