/-!
# Durations

A span of time as whole seconds, at most what 64 bits hold, and nanoseconds below one second. Two
operations are needed: the product with a number, which stays at the longest duration when it would
not fit, and the order. Both are stated through `nanos`, the length of a duration in nanoseconds,
in which a duration is a number below `limit`.
-/

set_option autoImplicit false

namespace ExpandContract.Time

/-- The nanoseconds of one second. -/
def nanosPerSecond : Nat := 1000000000

/-- The first number of seconds that 64 bits do not hold. -/
def secondsLimit : Nat := 18446744073709551616

/-- A span of time. -/
structure Duration where
  seconds : Nat
  subsecond : Nat
  seconds_lt : seconds < secondsLimit
  subsecond_lt : subsecond < nanosPerSecond
deriving DecidableEq

namespace Duration

/-- The length in nanoseconds. -/
def nanos (d : Duration) : Nat :=
  d.seconds * nanosPerSecond + d.subsecond

/-- The first length, in nanoseconds, that no duration has. -/
def limit : Nat := secondsLimit * nanosPerSecond

/-- The longest duration. -/
def longest : Duration where
  seconds := secondsLimit - 1
  subsecond := nanosPerSecond - 1
  seconds_lt := by decide
  subsecond_lt := by decide

/-- The duration of a number of seconds and nanoseconds; whole seconds among the nanoseconds are
carried, and a sum that does not fit is the longest duration. -/
def ofParts (seconds nanoseconds : Nat) : Duration :=
  if fits : seconds + nanoseconds / nanosPerSecond < secondsLimit then
    { seconds := seconds + nanoseconds / nanosPerSecond
      subsecond := nanoseconds % nanosPerSecond
      seconds_lt := fits
      subsecond_lt := Nat.mod_lt _ (by decide) }
  else longest

/-- The empty span. -/
def zero : Duration := ofParts 0 0

/-- A span of whole seconds. -/
def ofSeconds (n : Nat) : Duration := ofParts n 0

/-- A span of milliseconds. -/
def ofMillis (n : Nat) : Duration := ofParts (n / 1000) (n % 1000 * 1000000)

/-- The whole milliseconds of a span. -/
def wholeMillis (d : Duration) : Nat :=
  d.seconds * 1000 + d.subsecond / 1000000

/-- Whether the span is empty. -/
def isZero (d : Duration) : Bool :=
  d.seconds == 0 && d.subsecond == 0

/-- The shorter of two spans: seconds decide, and nanoseconds where the seconds agree. -/
def shorter (a b : Duration) : Duration :=
  if a.seconds < b.seconds then a
  else if b.seconds < a.seconds then b
  else if a.subsecond ≤ b.subsecond then a else b

/-- A multiple of a span: nanoseconds and seconds are multiplied apart, the whole seconds among the
nanoseconds are carried, and a product that does not fit is the longest duration. -/
def saturatingMul (d : Duration) (factor : Nat) : Duration :=
  ofParts (d.seconds * factor) (d.subsecond * factor)

/-! ## Lengths -/

/-- Every duration is shorter than the limit. -/
theorem nanos_lt_limit (d : Duration) : d.nanos < limit := by
  have := d.seconds_lt
  have := d.subsecond_lt
  unfold nanos limit
  simp only [nanosPerSecond, secondsLimit] at *
  omega

/-- Durations of one length are equal. -/
theorem eq_of_nanos_eq {a b : Duration} (same : a.nanos = b.nanos) : a = b := by
  have ha := a.subsecond_lt
  have hb := b.subsecond_lt
  unfold nanos at same
  simp only [nanosPerSecond] at *
  cases a
  cases b
  simp_all
  omega

/-- A sum that fits has the length of its parts. -/
theorem nanos_ofParts {seconds nanoseconds : Nat}
    (fits : seconds * nanosPerSecond + nanoseconds < limit) :
    (ofParts seconds nanoseconds).nanos = seconds * nanosPerSecond + nanoseconds := by
  have carried : seconds + nanoseconds / nanosPerSecond < secondsLimit := by
    simp only [limit, nanosPerSecond, secondsLimit] at *
    omega
  unfold ofParts
  rw [dif_pos carried]
  simp only [nanos, nanosPerSecond]
  omega

/-- A sum that does not fit is the longest duration. -/
theorem ofParts_eq_longest {seconds nanoseconds : Nat}
    (overflows : limit ≤ seconds * nanosPerSecond + nanoseconds) :
    ofParts seconds nanoseconds = longest := by
  have carried : ¬ seconds + nanoseconds / nanosPerSecond < secondsLimit := by
    simp only [limit, nanosPerSecond, secondsLimit] at *
    omega
  unfold ofParts
  rw [dif_neg carried]

/-- The shorter of two spans has the smaller length. -/
theorem nanos_shorter (a b : Duration) : (a.shorter b).nanos = min a.nanos b.nanos := by
  have ha := a.subsecond_lt
  have hb := b.subsecond_lt
  unfold shorter nanos
  simp only [nanosPerSecond] at *
  split
  · omega
  · split
    · omega
    · split <;> omega

theorem nanos_eq_zero {d : Duration} (empty : d.isZero = true) : d.nanos = 0 := by
  simp only [isZero, Bool.and_eq_true, beq_iff_eq] at empty
  simp [nanos, empty]

end Duration

/-- A span of time that is not empty. -/
def Pause : Type :=
  { delay : Duration // delay.isZero = false }

end ExpandContract.Time
