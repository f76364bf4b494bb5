import ExpandContract.Session.Run

/-!
# Runs that come to an end

A run may go on for as long as the server refuses a lock. `Procedure.Ends` says that a procedure
comes to an end in every session that is not cancelled, that it leaves the time as it was, and that
what it has shown and its outcome are as described. It is put together from the parts of a procedure
like a proof of total correctness: a single request ends because the server answers it, and what
follows needs only be looked at for the values that are described.
-/

set_option autoImplicit false

namespace ExpandContract.Session.Procedure

variable {σ α β : Type} {runner : Runner σ}

/-- The procedure comes to an end, with events and an outcome as described. -/
def Ends (runner : Runner σ) (p : Procedure α) (described : List Event → Except Error α → Prop) :
    Prop :=
  ∀ world : World σ, world.clock.isCancelled = false →
    ∃ outcome events after, p.run runner world = (some outcome, after) ∧
      after.clock = world.clock ∧ after.state.trace = world.state.trace ++ events ∧
      described events outcome

/-- The procedure comes to an end with a value that is described. -/
abbrev Gives (runner : Runner σ) (p : Procedure α) (described : List Event → α → Prop) : Prop :=
  p.Ends runner fun events outcome => ∃ value, outcome = .ok value ∧ described events value

/-- The procedure comes to an end with an error that is described. -/
abbrev Breaks (runner : Runner σ) (p : Procedure α) (described : List Event → Error → Prop) :
    Prop :=
  p.Ends runner fun events outcome => ∃ error, outcome = .error error ∧ described events error

/-- The procedure shows just these events, and gives just this value. -/
abbrev Yields (runner : Runner σ) (p : Procedure α) (events : List Event) (value : α) : Prop :=
  p.Ends runner fun shown outcome => shown = events ∧ outcome = .ok value

namespace Ends

variable {described : List Event → Except Error α → Prop}

theorem mono {p : Procedure α} {more : List Event → Except Error α → Prop}
    (ends : p.Ends runner described)
    (implies : ∀ events outcome, described events outcome → more events outcome) :
    p.Ends runner more := by
  intro world live
  obtain ⟨outcome, events, after, ran, clock, trace, holds⟩ := ends world live
  exact ⟨outcome, events, after, ran, clock, trace, implies events outcome holds⟩

theorem done {value : α} (holds : described [] (.ok value)) :
    (Procedure.done value).Ends runner described :=
  fun world _ => ⟨_, [], world, rfl, rfl, (List.append_nil _).symm, holds⟩

theorem fail {error : Error} (holds : described [] (.error error)) :
    (Procedure.fail error).Ends runner described :=
  fun world _ => ⟨_, [], world, rfl, rfl, (List.append_nil _).symm, holds⟩

theorem ofExcept {value : Except Error α} (holds : described [] value) :
    (Procedure.ofExcept value).Ends runner described := by
  cases value with
  | ok value => exact done holds
  | error error => exact fail holds

/-- What follows a procedure begins after its events, with its value; a failure is the end. -/
theorem bind {p : Procedure α} {f : α → Procedure β} {more : List Event → Except Error β → Prop}
    (first : p.Ends runner described)
    (rest : ∀ events value, described events (.ok value) →
      (f value).Ends runner fun later outcome => more (events ++ later) outcome)
    (failure : ∀ events error, described events (.error error) → more events (.error error)) :
    (p.bind f).Ends runner more := by
  intro world live
  obtain ⟨outcome, events, between, ran, clock, trace, holds⟩ := first world live
  cases outcome with
  | error error =>
      refine ⟨.error error, events, between, ?_, clock, trace, failure events error holds⟩
      rw [run_bind, ran]
  | ok value =>
      obtain ⟨outcome, later, after, ranLater, clockLater, traceLater, holdsLater⟩ :=
        rest events value holds between (clock ▸ live)
      refine ⟨outcome, events ++ later, after, ?_, clockLater.trans clock, ?_, holdsLater⟩
      · rw [run_bind, ran]
        exact ranLater
      · rw [traceLater, trace, List.append_assoc]

theorem attempt {p : Procedure α} (ends : p.Ends runner described) :
    p.attempt.Ends runner fun events outcome =>
      ∃ tried, outcome = .ok tried ∧ described events tried := by
  intro world live
  obtain ⟨outcome, events, after, ran, clock, trace, holds⟩ := ends world live
  refine ⟨.ok outcome, events, after, ?_, clock, trace, outcome, rfl, holds⟩
  rw [run_attempt, ran]

/-- What follows a procedure that yields a value. -/
theorem bind_yields {p : Procedure α} {f : α → Procedure β} {events : List Event} {value : α}
    {more : List Event → Except Error β → Prop} (first : p.Yields runner events value)
    (rest : (f value).Ends runner fun later outcome => more (events ++ later) outcome) :
    (p.bind f).Ends runner more := by
  refine bind first ?_ ?_
  · rintro _ _ ⟨rfl, same⟩
    cases same
    exact rest
  · rintro _ _ ⟨_, impossible⟩
    cases impossible

end Ends

/-! ## Requests -/

/-- Whatever its state, the server replies to the request in one of some ways, and does not cancel
the session meanwhile. -/
def Replies (runner : Runner σ) (request : Request)
    (replies : Except ServerError Answer → Prop) : Prop :=
  ∀ state, (runner.server state request).1.cancels = false ∧
    replies (runner.server state request).1.outcome

theorem sendOnce_eq (server : Server σ) (request : Request) (world : World σ) :
    sendOnce server request world =
      (((server world.state.server request).1.outcome.mapError
        DatabaseError.server).mapError Error.database, (deliver server request world).2) := rfl

/-- An attempt that brings an answer, or a refusal that does not pass, is the only one. -/
theorem retry_sendOnce {server : Server σ} {request : Request} {world : World σ}
    (timer : Time.Timer) {policy : Time.Backoff} (draws : policy.Draws (Wire σ)) (patience : Nat)
    (live : world.clock.isCancelled = false)
    (lasting : ∀ cause, (server world.state.server request).1.outcome = .error cause →
      cause.code ≠ Error.refusedLockCode) :
    Time.retry timer draws Error.isRefusedLock (fun _ => sendOnce server request) (patience + 1)
        world =
      (some (((server world.state.server request).1.outcome.mapError
        DatabaseError.server).mapError Error.database), (deliver server request world).2) := by
  unfold Time.retry
  rw [if_neg (by simp [live]), Time.repeatCall, sendOnce_eq]
  cases replied : (server world.state.server request).1.outcome with
  | ok answer => rfl
  | error cause =>
      have final : ¬Error.isRefusedLock (.database (.server cause)) = true := by
        simpa [Error.isRefusedLock, DatabaseError.code?] using lasting cause replied
      exact if_neg final

namespace Ends

/-- A request that is answered, or refused for a cause that does not pass, is made once. -/
theorem send {request : Request} {next : Except Error Answer → Procedure α}
    {described : List Event → Except Error α → Prop}
    {replies : Except ServerError Answer → Prop} (patient : runner.patience ≠ 0)
    (replied : Replies runner request replies)
    (lasting : ∀ cause, replies (.error cause) → cause.code ≠ Error.refusedLockCode)
    (rest : ∀ reply, replies reply →
      (next ((reply.mapError DatabaseError.server).mapError Error.database)).Ends runner
        fun later outcome => described (.request request :: later) outcome) :
    (Procedure.send request next).Ends runner described := by
  intro world live
  obtain ⟨patience, enough⟩ := Nat.exists_eq_succ_of_ne_zero patient
  obtain ⟨stays, holds⟩ := replied world.state.server
  have once := retry_sendOnce runner.timer runner.draws patience live
    fun cause same => lasting cause (same ▸ holds)
  rw [← Nat.succ_eq_add_one, ← enough] at once
  have clock : (deliver runner.server request world).2.clock = world.clock := by
    simp [deliver, stays, World.observe]
  obtain ⟨outcome, events, after, ran, clockLater, trace, described⟩ :=
    rest _ holds (deliver runner.server request world).2 (clock ▸ live)
  refine ⟨outcome, .request request :: events, after, ?_, clockLater.trans clock, ?_, described⟩
  · rw [run, once]
    exact ran
  · rw [trace]
    exact List.append_assoc world.state.trace [_] events

end Ends

/-! ## Servers that accept every change -/

/-- The server accepts every change, and does not cancel the session. -/
structure Accepting (runner : Runner σ) : Prop where
  patient : runner.patience ≠ 0
  accepts : ∀ statement, Replies runner (.change statement) fun reply =>
    ∃ answer, reply = .ok answer

theorem yields_change (accepting : Accepting runner) (statement : Sql.Change) :
    (change statement).Yields runner [.request (.change statement)] () := by
  refine .send accepting.patient (accepting.accepts statement) ?_ ?_
  · rintro cause ⟨answer, impossible⟩
    cases impossible
  · rintro _ ⟨answer, rfl⟩
    exact .done ⟨rfl, rfl⟩

/-- A query that the server answers in one way yields the first row of the answer. -/
theorem yields_fetch? {request : Request} {answer : Answer} (patient : runner.patience ≠ 0)
    (replies : Replies runner request fun reply => reply = .ok answer) :
    (fetch? request).Yields runner [.request request] answer.rows.head? := by
  refine .send patient replies ?_ ?_
  · rintro cause impossible
    cases impossible
  · rintro _ rfl
    exact .done ⟨rfl, rfl⟩

namespace Gives

variable {described : List Event → α → Prop}

theorem done {value : α} (holds : described [] value) :
    (Procedure.done value).Gives runner described :=
  Ends.done ⟨value, rfl, holds⟩

theorem bind {p : Procedure α} {f : α → Procedure β} {more : List Event → β → Prop}
    (first : p.Gives runner described)
    (rest : ∀ events value, described events value →
      (f value).Gives runner fun later result => more (events ++ later) result) :
    (p.bind f).Gives runner more := by
  refine Ends.bind first ?_ ?_
  · rintro events value ⟨_, same, holds⟩
    cases same
    exact rest events value holds
  · rintro events error ⟨_, impossible, _⟩
    cases impossible

end Gives

/-- Nothing follows a procedure that fails. -/
theorem Breaks.bind {p : Procedure α} {f : α → Procedure β}
    {described : List Event → Error → Prop} (first : p.Breaks runner described) :
    (p.bind f).Breaks runner described := by
  refine Ends.bind first ?_ ?_
  · rintro events value ⟨_, impossible, _⟩
    cases impossible
  · rintro events error ⟨_, same, holds⟩
    cases same
    exact ⟨error, rfl, holds⟩

end ExpandContract.Session.Procedure
