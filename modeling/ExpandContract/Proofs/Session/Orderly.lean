import ExpandContract.Proofs.Session.Contention

/-!
# Orderly procedures

A procedure is orderly (`Procedure.Orderly`) if only its transactions begin and end
transactions, if the bodies of these are orderly, if it does not cancel the session itself, and
if it never fails with an error that tells of a refused lock. What it is given, from requests
and from parts that ended before, tells of none either. This can be read off the tree of the
procedure, without any server.

`Procedure.OrderlyWith` also says what is known of the value, because a procedure may go on with the
error that another one ended with. It has a rule for each way to build a procedure.

What holds of orderly procedures is then shown along the tree once, for all of them: how they end
(`OrderlyWith.faultless`), that contention does not show, and that they stop when the session is
cancelled.
-/

set_option autoImplicit false

namespace ExpandContract.Session

variable {α β τ : Type}

/-! ## Outcomes -/

theorem Faultless.of_surface {outcome : Except Error α}
    (surface : ∀ error, outcome = .error error → error.mentionsRefusedLock = error.isRefusedLock)
    (granted : ∀ error, outcome = .error error → error.isRefusedLock = false) :
    Faultless (fun _ => True) outcome := by
  cases outcome with
  | ok value => trivial
  | error error => exact (surface error rfl).trans (granted error rfl)

/-- What is computed step by step is without fault if each step is. -/
theorem Faultless.bind {outcome : Except Error α} {f : α → Except Error β}
    (first : Faultless (fun _ => True) outcome)
    (rest : ∀ value, Faultless (fun _ => True) (f value)) :
    Faultless (fun _ => True) (outcome >>= f) := by
  cases outcome with
  | ok value => exact rest value
  | error error => exact first

theorem Faultless.mapM {f : α → Except Error β}
    (each : ∀ value, Faultless (fun _ => True) (f value))
    (values : List α) : Faultless (fun _ => True) (values.mapM f) := by
  induction values with
  | nil => trivial
  | cons value rest ih =>
      rw [List.mapM_cons]
      exact .bind (each value) fun _ => .bind ih fun _ => trivial

/-- The error of an orderly body that is not a refused lock tells of none. -/
theorem Transaction.Orderly.surface {body : Transaction α} {notes : List Note} {error : Error}
    (orderly : body.Orderly) (dialogue : body.Dialogue notes (.error error)) :
    error.mentionsRefusedLock = error.isRefusedLock := by
  induction body generalizing notes with
  | done value => cases dialogue
  | fail error =>
      cases dialogue
      exact Eq.trans orderly (isRefusedLock_of_not_mentions orderly).symm
  | send request next ih =>
      obtain ⟨_, fails, follows⟩ := orderly
      cases dialogue with
      | send outcome rest =>
          cases outcome with
          | ok answer => exact ih _ (follows answer) rest
          | error cause =>
              change (next (.error (.server cause))).Dialogue _ _ at rest
              rw [fails] at rest
              cases rest
              rfl

theorem TransactedOnce.surface {body : Transaction α} {notes : List Note} {error : Error}
    (orderly : body.Orderly) (once : TransactedOnce body notes (.error error)) :
    error.mentionsRefusedLock = error.isRefusedLock := by
  cases once with
  | notBegun cause => rfl
  | notCommitted begun cause inside => rfl
  | rolledBack begun outcome inside => exact orderly.surface inside

/-- The same holds of a transaction that is run again with the same body. -/
theorem TransactedInSome.surface {body : Nat → Transaction α} {notes : List Note} {error : Error}
    (orderly : ∃ fixed : Transaction α, fixed.Orderly ∧ body = fun _ => fixed)
    (attempt : TransactedInSome body notes (.error error)) :
    error.mentionsRefusedLock = error.isRefusedLock := by
  obtain ⟨fixed, orderly, rfl⟩ := orderly
  obtain ⟨_, once⟩ := attempt
  exact once.surface orderly

theorem SentOnce.surface {request : Request} {notes : List Note} {error : Error}
    (once : SentOnce request notes (.error error)) :
    error.mentionsRefusedLock = error.isRefusedLock := by
  obtain ⟨cause | answer, rfl, made⟩ := once
  · cases made
    rfl
  · cases made

/-- What is repeated while a lock is refused does not end with a refused lock. -/
theorem faultless_of_repeated {once : List Note → Except Error α → Prop}
    (surface : ∀ {notes error}, once notes (.error error) →
      error.mentionsRefusedLock = error.isRefusedLock)
    {notes : List Note} {outcome : Except Error α} (repeated : Repeated once notes outcome) :
    Faultless (fun _ => True) outcome := by
  induction repeated with
  | cancelled => rfl
  | value _ => trivial
  | failure attempt lasting => exact (surface attempt).trans lasting
  | again _ _ _ ih => exact ih

/-- The rounds of a loop end as one of its steps does. -/
theorem faultless_of_rounds {round : τ → List Note → Except Error (τ ⊕ β) → Prop}
    (each : ∀ state notes outcome, round state notes outcome → Faultless (fun _ => True) outcome)
    {state : τ} {notes : List Note} {outcome : Except Error β}
    (rounds : Rounds round state notes outcome) : Faultless (fun _ => True) outcome := by
  induction rounds with
  | last _ => trivial
  | broken fails => exact each _ _ _ fails
  | more _ _ ih => exact ih

/-! ## Procedures -/

namespace Procedure

/-- The procedure is orderly, and a value is known to be as described. -/
def OrderlyWith {α : Type} : Procedure α → (α → Prop) → Prop
  | .done value, known => known value
  | .fail error, _ => error.mentionsRefusedLock = false
  | .send request next, known => request.part = .works ∧
      ∀ outcome, Faultless (fun _ => True) outcome → (next outcome).OrderlyWith known
  | .transaction body next, known => (∃ fixed, fixed.Orderly ∧ body = fun _ => fixed) ∧
      ∀ outcome, Faultless (fun _ => True) outcome → (next outcome).OrderlyWith known
  | .pause _ next, known =>
      ∀ outcome, Faultless (fun _ => True) outcome → (next outcome).OrderlyWith known
  | .observe _ next, known => next.OrderlyWith known
  | .cancel _, _ => False
  | .iterate step _ next, known => (∀ state, (step state).OrderlyWith fun _ => True) ∧
      ∀ outcome, Faultless (fun _ => True) outcome → (next outcome).OrderlyWith known

/-- The procedure is orderly. -/
abbrev Orderly (p : Procedure α) : Prop :=
  p.OrderlyWith fun _ => True

namespace OrderlyWith

variable {p : Procedure α} {known : α → Prop} {more : β → Prop} {notes : List Note}
  {outcome : Except Error α}

/-- An orderly procedure does not end with an error that tells of a refused lock. -/
theorem faultless (orderly : p.OrderlyWith known) (dialogue : p.Dialogue notes outcome) :
    Faultless known outcome := by
  induction p generalizing notes with
  | done value =>
      obtain ⟨_, rfl⟩ := dialogue
      exact orderly
  | fail error =>
      obtain ⟨_, rfl⟩ := dialogue
      exact orderly
  | send request next ih =>
      obtain ⟨first, rest, sent, _, repeated, follows⟩ := dialogue
      exact ih sent (orderly.2 sent (faultless_of_repeated SentOnce.surface repeated)) follows
  | transaction body next ih =>
      obtain ⟨first, rest, transacted, _, repeated, follows⟩ := dialogue
      have ended := faultless_of_repeated (TransactedInSome.surface orderly.1) repeated
      exact ih transacted (orderly.2 transacted ended) follows
  | pause delay next ih =>
      rcases dialogue with passed | cancelled
      · exact ih _ (orderly (.ok ()) trivial) passed
      · exact ih _ (orderly (.error .cancelled) rfl) cancelled
  | observe sight next ih =>
      obtain ⟨rest, _, follows⟩ := dialogue
      exact ih orderly follows
  | cancel next ih => exact orderly.elim
  | iterate step state next stepIh ih =>
      obtain ⟨first, rest, looped, _, rounds, follows⟩ := dialogue
      have ended : Faultless (fun _ => True) looped :=
        faultless_of_rounds (fun _ _ _ stepped => stepIh _ (orderly.1 _) stepped) rounds
      exact ih looped (orderly.2 looped ended) follows

/-! ## Rules -/

theorem done {value : α} (holds : known value) : (Procedure.done value).OrderlyWith known :=
  holds

theorem fail {error : Error} (granted : error.mentionsRefusedLock = false) :
    (Procedure.fail error : Procedure α).OrderlyWith known :=
  granted

theorem ofExcept {value : Except Error α} (faultless : Faultless known value) :
    (Procedure.ofExcept value).OrderlyWith known := by
  cases value with
  | ok value => exact faultless
  | error error => exact faultless

/-- What follows a procedure needs to be looked at only for the values it is known to have. -/
theorem bind {f : α → Procedure β} (first : p.OrderlyWith known)
    (rest : ∀ value, known value → (f value).OrderlyWith more) : (p.bind f).OrderlyWith more := by
  induction p with
  | done value => exact rest value first
  | fail error => exact first
  | send request next ih => exact ⟨first.1, fun sent ended => ih sent (first.2 sent ended) rest⟩
  | transaction body next ih =>
      exact ⟨first.1, fun transacted ended => ih transacted (first.2 transacted ended) rest⟩
  | pause delay next ih => exact fun waited ended => ih waited (first waited ended) rest
  | observe sight next ih => exact ih first rest
  | cancel next ih => exact first.elim
  | iterate step state next _ ih =>
      exact ⟨first.1, fun looped ended => ih looped (first.2 looped ended) rest⟩

/-- A caught error does not tell of a refused lock. -/
theorem attempt (orderly : p.OrderlyWith known) : p.attempt.OrderlyWith (Faultless known) := by
  induction p with
  | done value => exact orderly
  | fail error => exact orderly
  | send request next ih => exact ⟨orderly.1, fun sent ended => ih sent (orderly.2 sent ended)⟩
  | transaction body next ih =>
      exact ⟨orderly.1, fun transacted ended => ih transacted (orderly.2 transacted ended)⟩
  | pause delay next ih => exact fun waited ended => ih waited (orderly waited ended)
  | observe sight next ih => exact ih orderly
  | cancel next ih => exact orderly.elim
  | iterate step state next _ ih =>
      exact ⟨orderly.1, fun looped ended => ih looped (orderly.2 looped ended)⟩

/-- A step that is made under a condition, and what follows it in either case. -/
theorem guarded {condition : Prop} [Decidable condition] {rest : Procedure β} (first : p.Orderly)
    (follows : rest.OrderlyWith more) :
    (if condition then p.bind fun _ => rest else rest).OrderlyWith more := by
  split
  · exact first.bind fun _ _ => follows
  · exact follows

theorem call {request : Request} (works : request.part = .works) :
    (Procedure.call request).Orderly :=
  ⟨works, fun _ => ofExcept⟩

theorem change (statement : Sql.Change) : (Procedure.change statement).Orderly := by
  refine ⟨rfl, fun outcome ended => ofExcept ?_⟩
  cases outcome <;> exact ended

theorem fetch? {request : Request} (works : request.part = .works) :
    (Procedure.fetch? request).Orderly := by
  refine ⟨works, fun outcome ended => ofExcept ?_⟩
  cases outcome <;> exact ended

theorem fetchOne {request : Request} (works : request.part = .works) :
    (Procedure.fetchOne request).Orderly := by
  refine ⟨works, fun outcome ended => ofExcept ?_⟩
  rcases outcome with error | ⟨_ | ⟨row, rest⟩, affected⟩
  · exact ended
  · rfl
  · trivial

theorem inTransaction {body : Transaction α} (orderly : body.Orderly) :
    (Procedure.inTransaction body).Orderly :=
  ⟨⟨body, orderly, rfl⟩, fun _ => ofExcept⟩

theorem loop {step : τ → Procedure (τ ⊕ β)} (each : ∀ state, (step state).Orderly) (state : τ) :
    (Procedure.loop step state).Orderly :=
  ⟨each, fun _ => ofExcept⟩

theorem wait (delay : Time.Pause) : (Procedure.wait delay).Orderly :=
  fun _ => ofExcept

theorem emit (sight : Sight) : (Procedure.emit sight).Orderly :=
  trivial

theorem mapM {f : α → Procedure β} (each : ∀ value, (f value).Orderly) (values : List α) :
    (values.mapM f).Orderly := by
  induction values with
  | nil => exact done trivial
  | cons value rest ih =>
      rw [List.mapM_cons]
      exact bind (each value) fun _ _ => bind ih fun _ _ => done trivial

theorem forM {f : α → Procedure Unit} (each : ∀ value, (f value).Orderly) (values : List α) :
    (values.forM f).Orderly := by
  induction values with
  | nil => exact done trivial
  | cons value rest ih => exact bind (each value) fun _ _ => ih

end OrderlyWith

end Procedure

end ExpandContract.Session
