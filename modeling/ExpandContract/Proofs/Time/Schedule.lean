import ExpandContract.Time.Rehearsal
import Mathlib.Algebra.BigOperators.Intervals
import Mathlib.Order.Monotone.Basic

/-!
# When a call is made again

A call that is repeated has its attempts at instants that are known beforehand: the first at once,
and each other one when the delays before it have passed (`callAt`). It is over with the first
outcome that does not pass. If the session is cancelled before that, it is over at the instant of
the cancellation, and the attempts that were made are those of which the instant had come
(`retry_keeps_schedule`).

This is followed on calls whose outcomes are given beforehand, as those of a rehearsal are
(`Rehearsal.call_eq_noting`). The sessions after so many calls are written down once (`worldAfter`),
one round leads from each to the next one, and so all rounds do that pass.
-/

set_option autoImplicit false

namespace ExpandContract.Time

variable {α σ : Type}

/-! ## Delays -/

namespace Duration

/-- The length of a multiple is the multiple of the length, if that fits. -/
theorem nanos_saturatingMul (d : Duration) (factor : Nat) :
    (d.saturatingMul factor).nanos = min (d.nanos * factor) longest.nanos := by
  have parts : d.seconds * factor * nanosPerSecond + d.subsecond * factor = d.nanos * factor := by
    unfold nanos
    rw [Nat.add_mul, Nat.mul_right_comm]
  have longest_succ : longest.nanos + 1 = limit := by decide
  unfold saturatingMul
  by_cases fits : d.nanos * factor < limit
  · rw [nanos_ofParts (parts ▸ fits), parts]
    omega
  · rw [ofParts_eq_longest (by omega)]
    omega

end Duration

/-- No delay is empty where neither the first one nor the ceiling is. -/
theorem Backoff.nanos_fullDelay_pos {b : Backoff} (initial : 0 < b.initial.nanos)
    (ceiling : 0 < b.max.nanos) (attempt : Nat) : 0 < (b.fullDelay attempt).nanos := by
  have factor : 0 < Nat.pow 2 (min attempt 16) := Nat.pow_pos (by decide)
  have product := Nat.mul_pos initial factor
  have longest : 0 < Duration.longest.nanos := by decide
  rw [fullDelay, Duration.nanos_shorter, Duration.nanos_saturatingMul]
  omega

/-- A delay in which chance has no part is the only one. -/
theorem Backoff.eq_of_certain {b : Backoff} {attempt : Nat} {certainly delay : Duration}
    (certain : b.certainDelay? attempt = some certainly) (allowed : b.Allows attempt delay) :
    delay = certainly := by
  unfold certainDelay? at certain
  split at certain
  · rename_i sure
    cases certain
    simp only [Bool.or_eq_true, Bool.and_eq_true, decide_eq_true_eq] at sure
    rcases sure with still | ⟨_, empty⟩
    · exact (allows_iff still).mp allowed
    · have initial : b.initial.isZero = true → b.initial.nanos = 0 := Duration.nanos_eq_zero
      have ceiling : b.max.isZero = true → b.max.nanos = 0 := Duration.nanos_eq_zero
      have nothing : (b.fullDelay attempt).nanos = 0 := by
        rw [fullDelay, Duration.nanos_shorter, Duration.nanos_saturatingMul]
        rcases empty with none | none
        · simp [initial none]
        · simp [ceiling none]
      have short := allowed.nanos_le
      exact Duration.eq_of_nanos_eq (by omega)
  · cases certain

namespace Timer

variable {timer : Timer} {clock : Clock} {delay : Duration} {instant : Nat}

/-- The timer wakes at the instant that is asked for. -/
def Punctual (timer : Timer) : Prop :=
  ∀ clock delay, timer.wake clock delay = clock.now + delay.nanos

/-- A delay passes if the session is not cancelled before it is over. -/
theorem Punctual.wait_of_later (punctual : timer.Punctual)
    (later : ∀ instant, clock.cancelAt = some instant → clock.now + delay.nanos < instant) :
    timer.wait clock delay = (true, { clock with now := clock.now + delay.nanos }) := by
  unfold wait
  rw [punctual]
  cases planned : clock.cancelAt with
  | none => rfl
  | some instant =>
      have late := later instant planned
      have behind : clock.now + delay.nanos < max clock.now instant := by omega
      simp [Nat.lt_asymm behind, behind]

/-- A delay ends at the instant at which the session is cancelled meanwhile. -/
theorem Punctual.wait_of_within (punctual : timer.Punctual)
    (planned : clock.cancelAt = some instant)
    (ahead : clock.now ≤ instant) (within : instant < clock.now + delay.nanos) :
    timer.wait clock delay = (false, { clock with now := instant }) := by
  unfold wait
  simp [punctual clock delay, planned, Nat.max_eq_right ahead, within]

end Timer

/-! ## Calls with known outcomes -/

/-- A call that has these outcomes one after the other, and notes when it is made. -/
def noting (outcomes : Nat → Except Error α) (world : Timed (List Nat)) :
    Except Error α × Timed (List Nat) :=
  (outcomes world.state.length, { world with state := world.state ++ [world.clock.now] })

/-- The calls of a rehearsal are of this kind. -/
theorem Rehearsal.call_eq_noting (r : Rehearsal) :
    r.call = noting fun n => match r.outcomeAt n with
      | .success => .ok (n + 1)
      | .failure error => .error error := by
  funext world
  unfold call noting
  simp only [List.length_append, List.length_singleton, Nat.add_sub_cancel]
  cases r.outcomeAt world.state.length <;> rfl

/-- Whether a call with this outcome is made again. -/
def mayFollow (mayPass : Error → Bool) : Except Error α → Bool
  | .ok _ => false
  | .error error => mayPass error

/-- This is the first of the outcomes after which the call is not made again. -/
structure FirstLasting (mayPass : Error → Bool) (outcomes : Nat → Except Error α) (k : Nat) :
    Prop where
  lasting : mayFollow mayPass (outcomes k) = false
  before : ∀ j < k, mayFollow mayPass (outcomes j) = true

/-- Where no outcome before this one is the first that lasts, all of them pass. -/
theorem mayFollow_of_lt {mayPass : Error → Bool} {outcomes : Nat → Except Error α} {n : Nat}
    (none : ∀ k < n, ¬FirstLasting mayPass outcomes k) :
    ∀ j < n, mayFollow mayPass (outcomes j) = true := by
  intro j
  induction j using Nat.strong_induction_on with
  | _ j ih =>
      intro earlier
      by_contra lasts
      exact none j earlier
        ⟨Bool.eq_false_iff.mpr lasts, fun i before => ih i before (before.trans earlier)⟩

/-! ## Instants -/

/-- When call number `n` is made, counted from the first one: the delays before it have passed. -/
def callAt (delays : Nat → Duration) (n : Nat) : Nat :=
  ∑ j ∈ Finset.range n, (delays j).nanos

variable {delays : Nat → Duration}

theorem callAt_succ (delays : Nat → Duration) (n : Nat) :
    callAt delays (n + 1) = callAt delays n + (delays n).nanos :=
  Finset.sum_range_succ _ n

theorem callAt_strictMono (lasting : ∀ attempt, 0 < (delays attempt).nanos) :
    StrictMono (callAt delays) := by
  refine strictMono_nat_of_lt_succ fun n => ?_
  rw [callAt_succ]
  exact Nat.lt_add_of_pos_right (lasting n)

/-- An instant after the first call lies between two calls that follow each other. -/
theorem exists_callAt_between (lasting : ∀ attempt, 0 < (delays attempt).nanos) {instant : Nat}
    (positive : 0 < instant) :
    ∃ n, callAt delays n < instant ∧ instant ≤ callAt delays (n + 1) := by
  have reached : ∃ n, instant ≤ callAt delays n := ⟨instant, (callAt_strictMono lasting).le_apply⟩
  obtain ⟨n, first⟩ := Nat.exists_eq_succ_of_ne_zero (n := Nat.find reached) fun zero => by
    have started := Nat.find_spec reached
    rw [zero] at started
    exact absurd started (Nat.not_le.mpr positive)
  have found := Nat.find_spec reached
  rw [first] at found
  exact ⟨n, Nat.lt_of_not_le (Nat.find_min reached (first ▸ Nat.lt_succ_self n)), found⟩

/-! ## Rounds -/

/-- The instants of the first so many calls. -/
def instants (start : Nat) (delays : Nat → Duration) (calls : Nat) : List Nat :=
  (List.range calls).map fun i => start + callAt delays i

/-- The session at some instant, after the first so many calls. -/
def worldAfter (clock : Clock) (delays : Nat → Duration) (calls instant : Nat) : Timed (List Nat) :=
  { clock := { clock with now := instant }, state := instants clock.now delays calls }

variable {timer : Timer} {policy : Backoff} {draws : policy.Draws (List Nat)}
  {mayPass : Error → Bool} {outcomes : Nat → Except Error α}
  {clock : Clock} {n patience : Nat}

theorem noting_worldAfter (outcomes : Nat → Except Error α) (clock : Clock)
    (delays : Nat → Duration) (n : Nat) :
    noting outcomes (worldAfter clock delays n (clock.now + callAt delays n)) =
      (outcomes n, worldAfter clock delays (n + 1) (clock.now + callAt delays n)) := by
  simp [noting, worldAfter, instants, List.range_succ]

/-- A call that is not made again is the last one. -/
theorem repeatCall_last (lasts : mayFollow mayPass (outcomes n) = false) :
    repeatCall timer draws mayPass (fun _ => noting outcomes) (patience + 1) n
      (worldAfter clock delays n (clock.now + callAt delays n)) =
      (some (outcomes n), worldAfter clock delays (n + 1) (clock.now + callAt delays n)) := by
  rw [repeatCall, noting_worldAfter]
  cases outcome : outcomes n with
  | ok value => rfl
  | error error =>
      rw [outcome] at lasts
      exact if_neg (Bool.eq_false_iff.mp lasts)

/-- A call that passes is followed by a delay, and what comes then depends on whether the delay
passes. -/
theorem repeatCall_wait (same : ∀ world, draws.delay world n = delays n)
    (passes : mayFollow mayPass (outcomes n) = true) :
    repeatCall timer draws mayPass (fun _ => noting outcomes) (patience + 1) n
      (worldAfter clock delays n (clock.now + callAt delays n)) =
      match timer.wait { clock with now := clock.now + callAt delays n } (delays n) with
      | (true, later) => repeatCall timer draws mayPass (fun _ => noting outcomes) patience (n + 1)
          { clock := later, state := instants clock.now delays (n + 1) }
      | (false, later) => (some (.error .cancelled),
          { clock := later, state := instants clock.now delays (n + 1) }) := by
  rw [repeatCall, noting_worldAfter]
  cases outcome : outcomes n with
  | ok value =>
      rw [outcome] at passes
      cases passes
  | error error =>
      rw [outcome] at passes
      dsimp only
      rw [if_pos (show mayPass error = true from passes), same]
      rfl

/-- There is a next call if the session is not cancelled by then. -/
theorem repeatCall_next (punctual : timer.Punctual) (same : ∀ world, draws.delay world n = delays n)
    (passes : mayFollow mayPass (outcomes n) = true)
    (awake : ∀ instant, clock.cancelAt = some instant →
      clock.now + callAt delays (n + 1) < instant) :
    repeatCall timer draws mayPass (fun _ => noting outcomes) (patience + 1) n
      (worldAfter clock delays n (clock.now + callAt delays n)) =
      repeatCall timer draws mayPass (fun _ => noting outcomes) patience (n + 1)
        (worldAfter clock delays (n + 1) (clock.now + callAt delays (n + 1))) := by
  rw [callAt_succ, ← Nat.add_assoc] at awake ⊢
  rw [repeatCall_wait same passes, punctual.wait_of_later awake]
  rfl

/-- The session is over when it is cancelled before the next call. -/
theorem repeatCall_cancelled (punctual : timer.Punctual)
    (same : ∀ world, draws.delay world n = delays n)
    (passes : mayFollow mayPass (outcomes n) = true) {instant : Nat}
    (planned : clock.cancelAt = some instant) (ahead : clock.now + callAt delays n < instant)
    (within : instant < clock.now + callAt delays (n + 1)) :
    repeatCall timer draws mayPass (fun _ => noting outcomes) (patience + 1) n
      (worldAfter clock delays n (clock.now + callAt delays n)) =
      (some (.error .cancelled), worldAfter clock delays (n + 1) instant) := by
  rw [callAt_succ, ← Nat.add_assoc] at within
  have waited : timer.wait { clock with now := clock.now + callAt delays n } (delays n) =
      (false, { clock with now := instant }) :=
    punctual.wait_of_within planned ahead.le within
  rw [repeatCall_wait same passes, waited]
  rfl

/-- The calls before one of the calls are made, if all of them pass and the session is not cancelled
by then. -/
theorem repeatCall_through (punctual : timer.Punctual)
    (same : ∀ attempt world, draws.delay world attempt = delays attempt)
    (passes : ∀ j < n, mayFollow mayPass (outcomes j) = true)
    (awake : ∀ j < n, ∀ instant, clock.cancelAt = some instant →
      clock.now + callAt delays (j + 1) < instant) (patience : Nat) :
    repeatCall timer draws mayPass (fun _ => noting outcomes) (patience + n) 0
      { clock, state := [] } =
      repeatCall timer draws mayPass (fun _ => noting outcomes) patience n
        (worldAfter clock delays n (clock.now + callAt delays n)) := by
  induction n generalizing patience with
  | zero => rfl
  | succ n ih =>
      have earlier := ih (fun j before => passes j (before.trans (Nat.lt_succ_self n)))
        (fun j before => awake j (before.trans (Nat.lt_succ_self n))) (patience + 1)
      rw [Nat.add_right_comm] at earlier
      rw [← Nat.add_assoc, earlier,
        repeatCall_next punctual (same n) (passes n (Nat.lt_succ_self n))
          (awake n (Nat.lt_succ_self n))]

/-- An error that a repeated call ends with does not pass, unless it is that of the cancelled
session. -/
theorem lasting_of_repeatCall {draws : policy.Draws σ}
    {call : Nat → Timed σ → Except Error α × Timed σ} {attempt : Nat} {world after : Timed σ}
    {error : Error}
    (ended : repeatCall timer draws mayPass call patience attempt world =
      (some (.error error), after)) :
    mayPass error = false ∨ error = .cancelled := by
  induction patience generalizing attempt world with
  | zero => cases ended
  | succ patience ih =>
      rw [repeatCall] at ended
      rcases called : call attempt world with ⟨cause | value, left⟩
      · rw [called] at ended
        dsimp only at ended
        by_cases passes : mayPass cause = true
        · rw [if_pos passes] at ended
          rcases waited : timer.wait left.clock (draws.delay left attempt) with ⟨_ | _, later⟩
          · rw [waited] at ended
            cases ended
            exact .inr rfl
          · rw [waited] at ended
            exact ih ended
        · rw [if_neg passes] at ended
          cases ended
          exact .inl (Bool.eq_false_iff.mpr passes)
      · rw [called] at ended
        cases ended

/-! ## The schedule -/

/-- Makes a call with known outcomes until one of them lasts, from some time on. -/
def retryNoting (timer : Timer) (draws : policy.Draws (List Nat)) (mayPass : Error → Bool)
    (outcomes : Nat → Except Error α) (clock : Clock) (patience : Nat) :
    Option (Except Error α) × Timed (List Nat) :=
  retry timer draws mayPass (fun _ => noting outcomes) patience { clock, state := [] }

theorem retryNoting_of_live (live : clock.isCancelled = false) :
    retryNoting timer draws mayPass outcomes clock patience =
      repeatCall timer draws mayPass (fun _ => noting outcomes) patience 0 { clock, state := [] } :=
  if_neg (Bool.eq_false_iff.mp live)

theorem lasting_of_retryNoting {error : Error}
    (ended : (retryNoting timer draws mayPass outcomes clock patience).1 = some (.error error)) :
    mayPass error = false ∨ error = .cancelled := by
  by_cases cancelled : clock.isCancelled = true
  · rw [retryNoting, retry, if_pos cancelled] at ended
    cases ended
    exact .inr rfl
  · rw [retryNoting_of_live (Bool.eq_false_iff.mpr cancelled)] at ended
    exact lasting_of_repeatCall (Prod.ext ended rfl)

/-- The call with the first outcome that lasts is the last one, if the session is not cancelled by
then. -/
theorem retryNoting_of_lasting (punctual : timer.Punctual)
    (same : ∀ attempt world, draws.delay world attempt = delays attempt)
    (live : clock.isCancelled = false) {k : Nat} (first : FirstLasting mayPass outcomes k)
    (awake : ∀ j < k, ∀ instant, clock.cancelAt = some instant →
      clock.now + callAt delays (j + 1) < instant) (enough : k < patience) :
    retryNoting timer draws mayPass outcomes clock patience =
      (some (outcomes k), worldAfter clock delays (k + 1) (clock.now + callAt delays k)) := by
  obtain ⟨more, rfl⟩ := Nat.exists_eq_add_of_lt enough
  rw [retryNoting_of_live live, show k + more + 1 = more + 1 + k by omega,
    repeatCall_through punctual same first.before awake, repeatCall_last first.lasting]

/-- If the session is cancelled between two calls, the first of these is the last one. -/
theorem retryNoting_of_cancelled (punctual : timer.Punctual)
    (same : ∀ attempt world, draws.delay world attempt = delays attempt)
    (live : clock.isCancelled = false) (monotone : Monotone (callAt delays))
    (passes : ∀ j < n + 1, mayFollow mayPass (outcomes j) = true) {instant : Nat}
    (planned : clock.cancelAt = some instant) (ahead : clock.now + callAt delays n < instant)
    (within : instant < clock.now + callAt delays (n + 1)) (enough : n < patience) :
    retryNoting timer draws mayPass outcomes clock patience =
      (some (.error .cancelled), worldAfter clock delays (n + 1) instant) := by
  have awake (j : Nat) (earlier : j < n) (other : Nat) (alike : clock.cancelAt = some other) :
      clock.now + callAt delays (j + 1) < other := by
    cases planned.symm.trans alike
    have reached : callAt delays (j + 1) ≤ callAt delays n := monotone earlier
    omega
  have earlier (j : Nat) (before : j < n) : mayFollow mayPass (outcomes j) = true :=
    passes j (before.trans (Nat.lt_succ_self n))
  obtain ⟨more, rfl⟩ := Nat.exists_eq_add_of_lt enough
  rw [retryNoting_of_live live, show n + more + 1 = more + 1 + n by omega,
    repeatCall_through punctual same earlier awake,
    repeatCall_cancelled punctual (same n) (passes n (Nat.lt_succ_self n)) planned ahead within]

/-- Where no chance is involved, no delay is empty and the timer is punctual, a repeated call
keeps to its schedule. In a session that is cancelled already there is no call. If the session is
not cancelled before the call with the first outcome that lasts, the calls up to this one are made
at their instants and the outcome is that one. If it is cancelled before, at an instant at which
no call is due, then this is the instant at which it is over, and the calls are made of which the
instant has come. The outcome is never an error that passes, but for a caller that would have even
the cancellation pass. -/
theorem retry_keeps_schedule
    (certain : ∀ attempt, policy.certainDelay? attempt = some (delays attempt))
    (lasting : ∀ attempt, 0 < (delays attempt).nanos) (draws : policy.Draws (List Nat))
    (punctual : timer.Punctual) (mayPass : Error → Bool) (outcomes : Nat → Except Error α)
    (apart : ∀ n, clock.cancelAt ≠ some (clock.now + callAt delays (n + 1))) :
    (clock.isCancelled = true → ∀ patience,
      retryNoting timer draws mayPass outcomes clock patience =
        (some (.error .cancelled), { clock, state := [] })) ∧
    (clock.isCancelled = false → ∀ k, FirstLasting mayPass outcomes k →
      (∀ instant, clock.cancelAt = some instant → clock.now + callAt delays k ≤ instant) →
      ∀ patience, k < patience → retryNoting timer draws mayPass outcomes clock patience =
        (some (outcomes k), worldAfter clock delays (k + 1) (clock.now + callAt delays k))) ∧
    (clock.isCancelled = false → ∀ instant, clock.cancelAt = some instant →
      (∀ k, FirstLasting mayPass outcomes k → instant < clock.now + callAt delays k) →
      ∃ calls, (∀ i, i < calls ↔ clock.now + callAt delays i < instant) ∧
        ∀ patience, calls ≤ patience → retryNoting timer draws mayPass outcomes clock patience =
          (some (.error .cancelled), worldAfter clock delays calls instant)) ∧
    ∀ patience error,
      (retryNoting timer draws mayPass outcomes clock patience).1 = some (.error error) →
        mayPass error = false ∨ error = .cancelled ∧ mayPass .cancelled = true := by
  have same (attempt : Nat) (world : Timed (List Nat)) :
      draws.delay world attempt = delays attempt :=
    Backoff.eq_of_certain (certain attempt) (draws.allowed world attempt)
  have strict := callAt_strictMono lasting
  refine ⟨fun cancelled patience => if_pos cancelled, ?_, ?_, ?_⟩
  · intro live k first later patience enough
    refine retryNoting_of_lasting punctual same live first
      (fun j earlier instant planned => ?_) enough
    have reached : callAt delays (j + 1) ≤ callAt delays k := strict.monotone earlier
    have different : clock.now + callAt delays (j + 1) ≠ instant :=
      fun due => apart j (due ▸ planned)
    have := later instant planned
    omega
  · intro live instant planned before
    have ahead : clock.now < instant := by simpa [Clock.isCancelled, planned] using live
    obtain ⟨n, behind, within⟩ := exists_callAt_between lasting (Nat.sub_pos_of_lt ahead)
    have passes : ∀ j < n + 1, mayFollow mayPass (outcomes j) = true := by
      refine mayFollow_of_lt fun k early first => ?_
      have := before k first
      have := strict.monotone (Nat.le_of_lt_succ early)
      omega
    refine ⟨n + 1, fun i => ?_, fun patience enough => ?_⟩
    · rw [← strict.lt_iff_lt (a := i)]
      constructor
      · intro early
        have := strict.monotone (Nat.le_of_lt_succ (strict.lt_iff_lt.mp early))
        omega
      · intro due
        omega
    · have different : clock.now + callAt delays (n + 1) ≠ instant :=
        fun due => apart n (due ▸ planned)
      exact retryNoting_of_cancelled punctual same live strict.monotone passes planned (by omega)
        (by omega) enough
  · intro patience error ended
    rcases lasting_of_retryNoting ended with lasts | rfl
    · exact .inl lasts
    · cases passes : mayPass .cancelled with
      | false => exact .inl rfl
      | true => exact .inr ⟨rfl, rfl⟩

/-- The usual policy, without chance. -/
def doubling : Backoff :=
  Backoff.standard.withJitter 0

/-- Its delays, from which chance takes nothing. -/
def undiminished : doubling.Draws σ :=
  .whole Backoff.standard.jitter_withJitter_zero

/-- The outcomes of a call that is always refused a lock. -/
def refusals : Nat → Except Error Unit :=
  fun _ => .error (.database (.server { code := Error.refusedLockCode, message := "lock timeout" }))

/-- A session that is cancelled after two and a half seconds. -/
def cancelledSoon : Clock := { now := 0, cancelAt := some 2500000000 }

theorem apart_cancelledSoon (n : Nat) :
    cancelledSoon.cancelAt ≠ some (cancelledSoon.now + callAt doubling.fullDelay (n + 1)) := by
  have strict : StrictMono (callAt doubling.fullDelay) :=
    callAt_strictMono (Backoff.nanos_fullDelay_pos (by decide) (by decide))
  have first : callAt doubling.fullDelay 1 = 1000000000 := by decide
  have second : callAt doubling.fullDelay 2 = 3000000000 := by decide
  intro due
  have due : 2500000000 = 0 + callAt doubling.fullDelay (n + 1) := Option.some.inj due
  cases n with
  | zero =>
      rw [first] at due
      omega
  | succ n =>
      have := strict.monotone (show 2 ≤ n + 1 + 1 by omega)
      omega

/-- The session is over when it is cancelled, after the calls that were due by then. -/
theorem retry_keeps_schedule_cancelledSoon :
    (∀ attempt, doubling.certainDelay? attempt = some (doubling.fullDelay attempt)) ∧
    (∀ attempt, 0 < (doubling.fullDelay attempt).nanos) ∧
    (∀ n, cancelledSoon.cancelAt ≠
      some (cancelledSoon.now + callAt doubling.fullDelay (n + 1))) ∧
    ∃ calls, (∀ i, i < calls ↔
        cancelledSoon.now + callAt doubling.fullDelay i < 2500000000) ∧
      ∀ patience, calls ≤ patience →
        retryNoting .exact undiminished Error.isRefusedLock refusals cancelledSoon patience =
          (some (.error .cancelled),
            worldAfter cancelledSoon doubling.fullDelay calls 2500000000) := by
  have certain (attempt : Nat) :
      doubling.certainDelay? attempt = some (doubling.fullDelay attempt) := by
    have still : doubling.jitter ≤ 0 := Backoff.standard.jitter_withJitter_zero
    rw [Backoff.certainDelay?, if_pos (by simp [still])]
  have lasting : ∀ attempt, 0 < (doubling.fullDelay attempt).nanos :=
    Backoff.nanos_fullDelay_pos (by decide) (by decide)
  have passes (k : Nat) : ¬FirstLasting Error.isRefusedLock refusals k :=
    fun first => Bool.noConfusion first.lasting
  have punctual : Timer.exact.Punctual := fun _ _ => rfl
  obtain ⟨_, _, cancelled, _⟩ := retry_keeps_schedule certain lasting undiminished
    punctual Error.isRefusedLock refusals apart_cancelledSoon
  exact ⟨certain, lasting, apart_cancelledSoon,
    cancelled rfl 2500000000 rfl fun k first => absurd first (passes k)⟩

end ExpandContract.Time
