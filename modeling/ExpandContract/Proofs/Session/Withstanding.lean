import ExpandContract.Proofs.Session.Orderly

/-!
# Procedures that withstand contention

A procedure withstands contention (`Procedure.Withstands`) if a server that refuses locks for a
while makes no difference: where it has an outcome with the calm server, it has the same outcome
with the contended one, given enough patience, and the notes of both are settled alike. The outcome
does not mention a refused lock, and what is known of its value besides is part of the statement,
because a procedure may go on with the error that another one ended with.

Orderly procedures do so (`OrderlyWith.withstands`), by induction along the tree. A request or a
transaction is repeated until the schedule lets it pass (`match_repeatCall`), and a loop takes as
many rounds as with the calm server (`match_repeatStep`).
-/

set_option autoImplicit false

namespace ExpandContract.Session

open Time (Backoff Clock Timer)

variable {σ α β τ : Type}

/-- Running against the contended server, with more or less patience. -/
def Runner.contended (runner : Runner σ) (message : String)
    (draws : runner.policy.Draws (Wire (Contended σ))) (patience : Nat) : Runner (Contended σ) :=
  { server := runner.server.contended message
    policy := runner.policy
    draws
    timer := runner.timer
    patience }

theorem Runner.contended_patience (runner : Runner σ) (message : String)
    (draws : runner.policy.Draws (Wire (Contended σ))) (patience : Nat) :
    (runner.contended message draws patience).patience = patience := rfl

/-! ## Repeated attempts -/

variable {server : Server σ} {message : String} {plain plainAfter : World σ}
  {crowded : World (Contended σ)}

/-- Nothing ends a delay early in a session that nobody cancels. -/
theorem wait_of_live (timer : Timer) {clock : Clock} (live : clock.cancelAt = none)
    (delay : Time.Duration) :
    ∃ later : Clock, later.cancelAt = none ∧ timer.wait clock delay = (true, later) := by
  refine ⟨{ clock with now := timer.wake clock delay }, live, ?_⟩
  unfold Timer.wait
  rw [live]

theorem run_wait (runner : Runner σ) (delay : Time.Pause) {world : World σ}
    (live : world.clock.cancelAt = none) :
    ∃ later : Clock, later.cancelAt = none ∧
      (Procedure.wait delay).run runner world = (some (.ok ()), { world with clock := later }) := by
  obtain ⟨later, lives, waited⟩ := wait_of_live runner.timer live delay.val
  refine ⟨later, lives, ?_⟩
  rw [Procedure.wait, Procedure.run, waited]
  rfl

theorem not_isCancelled {clock : Clock} (live : clock.cancelAt = none) :
    clock.isCancelled = false := by
  unfold Clock.isCancelled
  rw [live]

/-- An attempt that is refused a lock is followed by another one. -/
theorem repeatCall_of_refused (timer : Timer) {policy : Backoff} (draws : policy.Draws (Wire σ))
    (attempt : Nat) {call : World σ → Except Error α × World σ} {next : World σ} {error : Error}
    (called : call plain = (.error error, next)) (refused : error.isRefusedLock = true)
    (live : next.clock.cancelAt = none) :
    ∃ clock : Clock, clock.cancelAt = none ∧ ∀ patience,
      Time.repeatCall timer draws Error.isRefusedLock (fun _ => call) (patience + 1) attempt plain =
        Time.repeatCall timer draws Error.isRefusedLock (fun _ => call) patience (attempt + 1)
          { next with clock } := by
  obtain ⟨later, lives, waited⟩ := wait_of_live timer live (draws.delay next attempt)
  refine ⟨later, lives, fun patience => ?_⟩
  rw [Time.repeatCall, called]
  dsimp only
  rw [if_pos refused, waited]

/-- Any other attempt is the last. -/
theorem repeatCall_of_granted {timer : Timer} {policy : Backoff}
    {draws : policy.Draws (Wire σ)} {call : World σ → Except Error α × World σ}
    {patience attempt : Nat} {next : World σ} {outcome : Except Error α}
    (called : call plain = (outcome, next))
    (granted : ∀ error, outcome = .error error → error.isRefusedLock = false) :
    Time.repeatCall timer draws Error.isRefusedLock (fun _ => call) (patience + 1) attempt plain =
      (some outcome, next) := by
  rw [Time.repeatCall, called]
  cases outcome with
  | ok value => rfl
  | error error =>
      dsimp only
      rw [granted error rfl, if_neg Bool.false_ne_true]

/-- What another attempt leaves to be done takes one less of the patience. -/
theorem patient_succ {enough : Nat} {comes : Nat → Prop}
    (later : ∀ more, enough ≤ more → comes (more + 1)) :
    ∀ more, enough + 1 ≤ more → comes more := by
  rintro (_ | more) large
  · cases large
  · exact later more (Nat.le_of_succ_le_succ large)

/-- Attempts that match are repeated until one of them is not refused a lock, and then the outcome
is the same. Each attempt takes either patience in the calm session or a turn of the schedule. -/
theorem match_repeatCall {timer : Timer} {policy : Backoff} {draws : policy.Draws (Wire σ)}
    (crowdedDraws : policy.Draws (Wire (Contended σ))) {call : World σ → Except Error α × World σ}
    {crowdedCall : World (Contended σ) → Except Error α × World (Contended σ)}
    (matched : ∀ {plain crowded}, Level .outside plain crowded →
      Matched server message plain crowded (call plain) (crowdedCall crowded))
    {enough patience attempt : Nat} (crowdedAttempt : Nat) {outcome : Except Error α}
    (level : Level .outside plain crowded) (bound : patience + crowded.scheduled ≤ enough)
    (reached : Time.repeatCall timer draws Error.isRefusedLock (fun _ => call) patience attempt
      plain = (some outcome, plainAfter)) :
    Faultless (fun _ => True) outcome ∧
    ∃ after, Advance server message plain plainAfter crowded after ∧ ∀ more, enough ≤ more →
      Time.repeatCall timer crowdedDraws Error.isRefusedLock (fun _ => crowdedCall) more
        crowdedAttempt crowded = (some outcome, after) := by
  induction enough generalizing patience attempt crowdedAttempt plain crowded with
  | zero =>
      have exhausted : patience = 0 := by omega
      rw [exhausted] at reached
      cases reached
  | succ enough ih =>
      cases patience with
      | zero => cases reached
      | succ patience =>
          rcases called : crowdedCall crowded with ⟨crowdedOutcome, next⟩
          rcases plainCalled : call plain with ⟨plainOutcome, plainNext⟩
          have attempted := matched level
          rw [called, plainCalled] at attempted
          cases attempted with
          | retreat retreat =>
              obtain ⟨clock, live, again⟩ :=
                repeatCall_of_refused timer crowdedDraws crowdedAttempt called rfl
                  retreat.level.crowdedLive
              have retreat := retreat.withClock live
              have fewer := retreat.fewer
              obtain ⟨faultless, after, advance, repeats⟩ :=
                ih (crowdedAttempt + 1) retreat.level (by omega) reached
              refine ⟨faultless, after, .after_retreat retreat advance, ?_⟩
              exact patient_succ fun more large => (again more).trans (repeats more large)
          | advance advance surface =>
              by_cases refused : ∃ error, crowdedOutcome = .error error ∧ error.isRefusedLock = true
              · obtain ⟨error, rfl, refused⟩ := refused
                obtain ⟨clock, live, again⟩ := repeatCall_of_refused timer crowdedDraws
                  crowdedAttempt called refused advance.level.crowdedLive
                obtain ⟨plainClock, plainLive, plainAgain⟩ :=
                  repeatCall_of_refused timer draws attempt plainCalled refused
                    advance.level.plainLive
                have advance := advance.withClocks plainLive live
                have fewer := advance.fewer
                obtain ⟨faultless, after, later, repeats⟩ :=
                  ih (crowdedAttempt + 1) advance.level (by omega) (plainAgain patience ▸ reached)
                refine ⟨faultless, after, advance.trans later, ?_⟩
                exact patient_succ fun more large => (again more).trans (repeats more large)
              · have granted (error : Error) (failed : crowdedOutcome = .error error) :
                    error.isRefusedLock = false :=
                  Bool.eq_false_iff.mpr fun isRefused => refused ⟨error, failed, isRefused⟩
                rw [repeatCall_of_granted plainCalled granted] at reached
                cases reached
                refine ⟨.of_surface surface granted, next, advance, ?_⟩
                exact patient_succ fun _ _ => repeatCall_of_granted called granted

/-- The contended session comes to this outcome once it is patient enough, and the outcome is
without fault. -/
structure Reaches (server : Server σ) (message : String) (known : α → Prop)
    (plain plainAfter : World σ) (crowded : World (Contended σ)) (outcome : Except Error α)
    (run : Nat → Option (Except Error α) × World (Contended σ)) : Prop where
  faultless : Faultless known outcome
  comes : ∃ after, Advance server message plain plainAfter crowded after ∧
    ∃ enough, ∀ patience, enough ≤ patience → run patience = (some outcome, after)

theorem match_retry {timer : Timer} {policy : Backoff} {draws : policy.Draws (Wire σ)}
    (crowdedDraws : policy.Draws (Wire (Contended σ))) {call : World σ → Except Error α × World σ}
    {crowdedCall : World (Contended σ) → Except Error α × World (Contended σ)}
    (matched : ∀ {plain crowded}, Level .outside plain crowded →
      Matched server message plain crowded (call plain) (crowdedCall crowded))
    {patience : Nat} {outcome : Except Error α} (level : Level .outside plain crowded)
    (reached : Time.retry timer draws Error.isRefusedLock (fun _ => call) patience plain =
      (some outcome, plainAfter)) :
    Reaches server message (fun _ => True) plain plainAfter crowded outcome fun patience =>
      Time.retry timer crowdedDraws Error.isRefusedLock (fun _ => crowdedCall)
        patience crowded := by
  unfold Time.retry at reached ⊢
  rw [not_isCancelled level.plainLive, if_neg Bool.false_ne_true] at reached
  obtain ⟨faultless, after, advance, repeats⟩ := match_repeatCall crowdedDraws matched 0 level
    (Nat.le_refl _) reached
  refine ⟨faultless, after, advance, patience + crowded.scheduled, fun more large => ?_⟩
  rw [not_isCancelled level.crowdedLive, if_neg Bool.false_ne_true]
  exact repeats more large

/-- A run of the contended session whose first stage is followed by the rest. -/
theorem Reaches.staged {γ : Type} {plainBetween : World σ} {earlier : Except Error γ}
    {outcome : Except Error α} {tried : γ → Prop} {known : α → Prop}
    {stage : Nat → Option (Except Error γ) × World (Contended σ)}
    (rest : Except Error γ → World (Contended σ) → Nat →
      Option (Except Error α) × World (Contended σ))
    {run : Nat → Option (Except Error α) × World (Contended σ)}
    (early : Reaches server message tried plain plainBetween crowded earlier stage)
    (late : ∀ between, Faultless tried earlier → Level .outside plainBetween between →
      Reaches server message known plainBetween plainAfter between outcome (rest earlier between))
    (follows : ∀ patience earlier between, stage patience = (some earlier, between) →
      run patience = rest earlier between patience) :
    Reaches server message known plain plainAfter crowded outcome run := by
  obtain ⟨granted, between, advance, enough, stages⟩ := early
  obtain ⟨faultless, after, later, more, runs⟩ := late between granted advance.level
  refine ⟨faultless, after, advance.trans later, max enough more, fun patience large => ?_⟩
  rw [follows patience _ _ (stages patience (Nat.le_trans (Nat.le_max_left ..) large))]
  exact runs patience (Nat.le_trans (Nat.le_max_right ..) large)

/-! ## Procedures -/

/-- The procedure has the same outcome with the contended server as with the calm one. It does not
mention a refused lock, and a value is known to be as described. -/
def Procedure.Withstands (p : Procedure α) (known : α → Prop) : Prop :=
  ∀ (σ : Type) (runner : Runner σ) (message : String)
      (draws : runner.policy.Draws (Wire (Contended σ))), runner.server.Steady →
    ∀ {plain plainAfter : World σ} {outcome : Except Error α},
      p.run runner plain = (some outcome, plainAfter) →
      ∀ {crowded : World (Contended σ)}, Level .outside plain crowded →
        Reaches runner.server message known plain plainAfter crowded outcome fun patience =>
          p.run (runner.contended message draws patience) crowded

/-- A loop whose steps withstand contention takes the same rounds in both sessions. -/
theorem match_repeatStep {runner : Runner σ} (draws : runner.policy.Draws (Wire (Contended σ)))
    {step : τ → Procedure (τ ⊕ β)} (each : ∀ state, (step state).Withstands fun _ => True)
    (steady : runner.server.Steady) {rounds : Nat} {state : τ} {outcome : Except Error β}
    (level : Level .outside plain crowded)
    (reached : repeatStep (fun state world => (step state).run runner world) rounds state plain =
      (some outcome, plainAfter)) :
    Faultless (fun _ => True) outcome ∧
    ∃ after, Advance runner.server message plain plainAfter crowded after ∧ ∃ enough,
      ∀ patience, enough ≤ patience → ∀ more, enough ≤ more →
        repeatStep (fun state world => (step state).run (runner.contended message draws patience)
          world) more state crowded = (some outcome, after) := by
  induction rounds generalizing state plain crowded with
  | zero => cases reached
  | succ rounds ih =>
      rw [repeatStep] at reached
      rcases stepped : (step state).run runner plain with ⟨_ | tried, plainNext⟩
      · rw [stepped] at reached
        cases reached
      obtain ⟨faultless, next, advance, enough, runs⟩ :=
        each state σ runner message draws steady stepped level
      rw [stepped] at reached
      rcases tried with error | goesOn | result
      · cases reached
        refine ⟨faultless, next, advance, enough + 1, fun patience large =>
          patient_succ fun more _ => ?_⟩
        rw [repeatStep, runs patience (Nat.le_of_succ_le large)]
      · obtain ⟨ends, after, later, others, repeats⟩ := ih advance.level reached
        refine ⟨ends, after, advance.trans later, max enough others + 1, fun patience large =>
          patient_succ fun more larger => ?_⟩
        rw [repeatStep, runs patience (by omega)]
        exact repeats patience (by omega) more (by omega)
      · cases reached
        refine ⟨trivial, next, advance, enough + 1, fun patience large =>
          patient_succ fun more _ => ?_⟩
        rw [repeatStep, runs patience (Nat.le_of_succ_le large)]

namespace Procedure

namespace Withstands

variable {known : α → Prop}

theorem done {value : α} (holds : known value) : (Procedure.done value).Withstands known := by
  intro σ runner message draws steady plain plainAfter outcome ran crowded level
  cases ran
  exact ⟨holds, crowded, .refl level, 0, fun _ _ => rfl⟩

theorem fail {error : Error} (granted : error.mentionsRefusedLock = false) :
    (Procedure.fail error : Procedure α).Withstands known := by
  intro σ runner message draws steady plain plainAfter outcome ran crowded level
  cases ran
  exact ⟨granted, crowded, .refl level, 0, fun _ _ => rfl⟩

theorem send {request : Request} {next : Except Error Answer → Procedure α}
    (works : request.part = .works)
    (rest : ∀ outcome, Faultless (fun _ => True) outcome → (next outcome).Withstands known) :
    (Procedure.send request next).Withstands known := by
  intro σ runner message draws steady plain plainAfter outcome ran crowded level
  rw [run] at ran
  split at ran
  · rename_i sent plainBetween reached
    refine .staged (fun sent between patience =>
        (next sent).run (runner.contended message draws patience) between)
      (match_retry draws (match_sendOnce steady works) level reached) ?_ ?_
    · exact fun between faultless level =>
        rest sent faultless σ runner message draws steady ran level
    · intro patience sent between reached
      simp only [run, Runner.contended, reached]
  · cases ran

theorem transaction {body : Transaction β} {next : Except Error β → Procedure α}
    (orderly : body.Orderly)
    (rest : ∀ outcome, Faultless (fun _ => True) outcome → (next outcome).Withstands known) :
    (Procedure.transaction (fun _ => body) next).Withstands known := by
  intro σ runner message draws steady plain plainAfter outcome ran crowded level
  rw [run] at ran
  split at ran
  · rename_i transacted plainBetween reached
    refine .staged (fun transacted between patience =>
        (next transacted).run (runner.contended message draws patience) between)
      (match_retry draws (match_transactOnce steady orderly) level reached) ?_ ?_
    · exact fun between faultless level =>
        rest transacted faultless σ runner message draws steady ran level
    · intro patience transacted between reached
      simp only [run, Runner.contended, reached]
  · cases ran

theorem iterate {step : τ → Procedure (τ ⊕ β)} {state : τ} {next : Except Error β → Procedure α}
    (each : ∀ state, (step state).Withstands fun _ => True)
    (rest : ∀ outcome, Faultless (fun _ => True) outcome → (next outcome).Withstands known) :
    (Procedure.iterate step state next).Withstands known := by
  intro σ runner message draws steady plain plainAfter outcome ran crowded level
  rw [run] at ran
  split at ran
  · rename_i looped plainBetween reached
    obtain ⟨faultless, after, advance, enough, repeats⟩ :=
      match_repeatStep draws each steady level reached
    refine .staged (fun looped between patience =>
        (next looped).run (runner.contended message draws patience) between)
      ⟨faultless, after, advance, enough,
        fun patience large => repeats patience large patience large⟩ ?_ ?_
    · exact fun between faultless level =>
        rest looped faultless σ runner message draws steady ran level
    · intro patience looped between reached
      rw [run, Runner.contended_patience, reached]
  · cases ran

/-- Time does not keep the sessions from going along with each other. -/
theorem pause {delay : Time.Pause} {next : Except Error Unit → Procedure α}
    (rest : (next (.ok ())).Withstands known) : (Procedure.pause delay next).Withstands known := by
  intro σ runner message draws steady plain plainAfter outcome ran crowded level
  obtain ⟨plainLater, plainLives, plainWaited⟩ :=
    wait_of_live runner.timer level.plainLive delay.val
  obtain ⟨later, lives, waited⟩ := wait_of_live runner.timer level.crowdedLive delay.val
  have advance : Advance runner.server message plain { plain with clock := plainLater } crowded
      { crowded with clock := later } := (Advance.refl level).withClocks plainLives lives
  rw [run, plainWaited] at ran
  obtain ⟨faultless, after, onward, enough, runs⟩ :=
    rest σ runner message draws steady ran advance.level
  refine ⟨faultless, after, advance.trans onward, enough, fun patience large => ?_⟩
  have waits : (runner.contended message draws patience).timer.wait crowded.clock delay.val =
      (true, later) := waited
  rw [run, waits]
  exact runs patience large

theorem observe {sight : Sight} {next : Procedure α} (rest : next.Withstands known) :
    (Procedure.observe sight next).Withstands known := by
  intro σ runner message draws steady plain plainAfter outcome ran crowded level
  have settles : Settles [.seen sight] [.seen sight] := Settles.single rfl
  have advance : Advance runner.server message plain (plain.observe (.sight sight)) crowded
      (crowded.observe (.sight sight)) :=
    ⟨⟨level.plainLive, level.crowdedLive, level.calm, level.stand⟩, Nat.le_refl _, _, _, _,
      .observe _ plain sight, .observe _ crowded sight, settles, settles⟩
  obtain ⟨faultless, after, later, enough, runs⟩ :=
    rest σ runner message draws steady ran advance.level
  exact ⟨faultless, after, advance.trans later, enough, runs⟩

end Withstands

/-- An orderly procedure withstands contention. -/
theorem OrderlyWith.withstands {p : Procedure α} {known : α → Prop}
    (orderly : p.OrderlyWith known) :
    p.Withstands known := by
  induction p with
  | done value => exact .done orderly
  | fail error => exact .fail orderly
  | send request next ih =>
      exact .send orderly.1 fun sent ended => ih sent (orderly.2 sent ended)
  | transaction body next ih =>
      obtain ⟨⟨fixed, attempts, rfl⟩, follows⟩ := orderly
      exact .transaction attempts fun transacted ended => ih transacted (follows transacted ended)
  | pause delay next ih => exact .pause (ih _ (orderly (.ok ()) trivial))
  | observe sight next ih => exact .observe (ih orderly)
  | cancel next ih => exact orderly.elim
  | iterate step state next stepIh ih =>
      exact .iterate (fun state => stepIh state (orderly.1 state))
        fun looped ended => ih looped (orderly.2 looped ended)

end Procedure

end ExpandContract.Session
