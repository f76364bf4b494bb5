import ExpandContract.Proofs.Time.Schedule

/-!
# How delays grow

The base delay of an attempt is what it would be if lengths had no bound: the first delay, doubled
with every attempt but sixteen times at most, or the ceiling if that is less
(`Backoff.nanos_fullDelay`). The product of a duration stays at the longest duration when it does
not fit. That is never seen in a delay, because no ceiling is longer than the longest duration.

So delays never decrease and never exceed the ceiling, and they are the delays that are used where
chance has no part (`Backoff.fullDelay_exact`).
-/

set_option autoImplicit false

namespace ExpandContract.Time

/-! ## The length of a delay -/

theorem Duration.nanos_le_longest (d : Duration) : d.nanos ≤ longest.nanos := by
  have bound := d.nanos_lt_limit
  have last : longest.nanos + 1 = limit := by decide
  omega

namespace Backoff

/-- The length of a delay is that of the formula without bounds. -/
theorem nanos_fullDelay (b : Backoff) (attempt : Nat) :
    (b.fullDelay attempt).nanos = min (b.initial.nanos * 2 ^ min attempt 16) b.max.nanos := by
  have ceiling : min Duration.longest.nanos b.max.nanos = b.max.nanos :=
    Nat.min_eq_right b.max.nanos_le_longest
  calc (b.fullDelay attempt).nanos
      = min (min (b.initial.nanos * 2 ^ min attempt 16) Duration.longest.nanos) b.max.nanos := by
        rw [fullDelay, Duration.nanos_shorter, Duration.nanos_saturatingMul]
        rfl
    _ = min (b.initial.nanos * 2 ^ min attempt 16) b.max.nanos := by
        rw [Nat.min_assoc, ceiling]

/-- Delays never decrease. -/
theorem nanos_fullDelay_mono (b : Backoff) :
    Monotone fun attempt => (b.fullDelay attempt).nanos := by
  intro attempt later ordered
  have exponents : min attempt 16 ≤ min later 16 := min_le_min_right 16 ordered
  have factors : 2 ^ min attempt 16 ≤ 2 ^ min later 16 := Nat.pow_le_pow_right (by decide) exponents
  simp only [nanos_fullDelay]
  exact min_le_min_right _ (Nat.mul_le_mul_left _ factors)

/-- The delay is the ceiling itself where the product does not fit. -/
theorem fullDelay_eq_max {b : Backoff} {attempt : Nat}
    (overflows : Duration.limit ≤ b.initial.nanos * 2 ^ min attempt 16) :
    b.fullDelay attempt = b.max := by
  have bound := b.max.nanos_lt_limit
  refine Duration.eq_of_nanos_eq ?_
  rw [nanos_fullDelay, Nat.min_eq_right (by omega)]

/-- Without jitter the delay is certain. -/
theorem certainDelay?_of_nonpos {b : Backoff} (still : b.jitter ≤ 0) (attempt : Nat) :
    b.certainDelay? attempt = some (b.fullDelay attempt) := by
  rw [certainDelay?, if_pos (by simp [still])]

/-! ## Words -/

/-- The factor of a delay as a word of 32 bits: one, shifted by the number of the attempt, and by
sixteen at most. -/
def factorWord (attempt : UInt32) : UInt32 :=
  1 <<< (if attempt < 16 then attempt else 16)

/-- No bit is shifted out of the word. -/
theorem toNat_factorWord (attempt : UInt32) :
    (factorWord attempt).toNat = 2 ^ min attempt.toNat 16 := by
  have shift : (if attempt < 16 then attempt else 16).toNat = min attempt.toNat 16 := by
    split
    · rename_i early
      have early : attempt.toNat < 16 := UInt32.lt_iff_toNat_lt.mp early
      omega
    · rename_i late
      have late : ¬attempt.toNat < 16 := fun early => late (UInt32.lt_iff_toNat_lt.mpr early)
      rw [Nat.min_eq_right (by omega)]
      rfl
  have small : 2 ^ min attempt.toNat 16 < 2 ^ 32 := Nat.pow_lt_pow_right (by decide) (by omega)
  have places : min attempt.toNat 16 % 32 = min attempt.toNat 16 := Nat.mod_eq_of_lt (by omega)
  rw [factorWord, UInt32.toNat_shiftLeft, shift, places, UInt32.toNat_one, Nat.one_shiftLeft,
    Nat.mod_eq_of_lt small]

/-- A delay, counted in nanoseconds, is the first delay times a power of two with an exponent of
sixteen at most, or the ceiling if that is less. Its factor is computed in 32 bits and the product
with the nanoseconds below one second in 64 bits, and both fit; where the product with the whole
duration does not fit, the delay is the ceiling. So delays never decrease and never exceed the
ceiling. Chance can only shorten them, and without jitter each of them is the one that is used. -/
theorem fullDelay_exact (b : Backoff) :
    (∀ attempt, (b.fullDelay attempt).nanos =
      min (b.initial.nanos * 2 ^ min attempt 16) b.max.nanos) ∧
    (∀ attempt : UInt32,
      (factorWord attempt).toNat = 2 ^ min attempt.toNat 16 ∧
      b.initial.subsecond * (factorWord attempt).toNat < 2 ^ 64) ∧
    (∀ attempt, Duration.limit ≤ b.initial.nanos * 2 ^ min attempt 16 →
      b.fullDelay attempt = b.max) ∧
    (∀ attempt later, attempt ≤ later →
      (b.fullDelay attempt).nanos ≤ (b.fullDelay later).nanos) ∧
    (∀ attempt, (b.fullDelay attempt).nanos ≤ b.max.nanos) ∧
    (∀ attempt delay, b.Allows attempt delay →
      delay.nanos ≤ (b.fullDelay attempt).nanos) ∧
    (b.jitter ≤ 0 → ∀ attempt, b.certainDelay? attempt = some (b.fullDelay attempt) ∧
      ∀ delay, b.Allows attempt delay ↔ delay = b.fullDelay attempt) := by
  refine ⟨b.nanos_fullDelay, fun attempt => ⟨toNat_factorWord attempt, ?_⟩,
    fun attempt => fullDelay_eq_max, fun attempt later ordered => b.nanos_fullDelay_mono ordered,
    fun attempt => ?_, fun attempt delay allowed => allowed.nanos_le,
    fun still attempt => ⟨certainDelay?_of_nonpos still attempt, fun delay => allows_iff still⟩⟩
  · have part : b.initial.subsecond < 2 ^ 30 := b.initial.subsecond_lt.trans (by decide)
    have factor : 2 ^ min attempt.toNat 16 ≤ 2 ^ 16 :=
      Nat.pow_le_pow_right (by decide) (by omega)
    rw [toNat_factorWord]
    calc b.initial.subsecond * 2 ^ min attempt.toNat 16
        ≤ 2 ^ 30 * 2 ^ 16 := Nat.mul_le_mul part.le factor
      _ < 2 ^ 64 := by decide
  · rw [nanos_fullDelay]
    exact Nat.min_le_right _ _

/-- A policy whose first delay is the longest duration, so that no product with it fits. -/
def immense : Backoff :=
  (ofBounds .longest (.ofSeconds 60)).withJitter 0

/-- The delay that is used is the ceiling, although the product does not fit. -/
theorem fullDelay_exact_immense :
    immense.jitter ≤ 0 ∧
    Duration.limit ≤ immense.initial.nanos * 2 ^ min 40 16 ∧
    immense.certainDelay? 40 = some (.ofSeconds 60) ∧
    (immense.fullDelay 3).nanos ≤ (immense.fullDelay 40).nanos := by
  have still : immense.jitter ≤ 0 := by decide
  have overflows : Duration.limit ≤ immense.initial.nanos * 2 ^ min 40 16 := by decide
  obtain ⟨_, _, saturated, grows, _, _, certain⟩ := immense.fullDelay_exact
  refine ⟨still, overflows, ?_, grows 3 40 (by decide)⟩
  rw [(certain still 40).1, saturated 40 overflows]
  rfl

end Backoff

end ExpandContract.Time
