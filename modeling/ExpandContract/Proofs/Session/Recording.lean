import ExpandContract.Proofs.Session.Transacting

/-!
# What a run records

A dialogue belongs to a run that has come to an end. `Procedure.Records` describes any run of a
procedure, with any server at any time: what it has noted so far, and the outcome it has, if it has
come to one. There is one rule for each way to build a procedure. The rule for loops has the same
premises whether the loop ends, fails, or is still under way.
-/

set_option autoImplicit false

namespace ExpandContract.Session

variable {α β τ : Type}

/-- How one attempt at a request went is what the server replied. -/
theorem notedAs_sendOnce {σ : Type} (server : Server σ) (request : Request) :
    NotedAs server (fun _ => sendOnce server request) (fun reply => [.asked request reply])
      (fun reply => (reply.mapError DatabaseError.server).mapError Error.database)
      (fun _ _ => True) := by
  intro _ world
  exact ⟨(server world.state.server request).1.outcome, trivial, .deliver server request world, rfl⟩

namespace Procedure

/-- Whatever has been noted of a run so far is as described, together with its outcome, if it has
one already. -/
def Records (p : Procedure α) (described : List Note → Option (Except Error α) → Prop) : Prop :=
  ∀ (σ : Type) (runner : Runner σ) (world : World σ), ∃ notes,
    Noted runner.server world notes (p.run runner world).2 ∧
      described notes (p.run runner world).1

namespace Records

variable {described : List Note → Option (Except Error α) → Prop}

theorem mono {p : Procedure α} {more : List Note → Option (Except Error α) → Prop}
    (records : p.Records described)
    (implies : ∀ notes outcome, described notes outcome → more notes outcome) : p.Records more := by
  intro σ runner world
  obtain ⟨notes, noted, holds⟩ := records σ runner world
  exact ⟨notes, noted, implies notes _ holds⟩

theorem done {value : α} (holds : described [] (some (.ok value))) :
    (Procedure.done value).Records described :=
  fun _ runner world => ⟨[], .refl runner.server world, holds⟩

theorem ofExcept {value : Except Error α} (holds : described [] (some value)) :
    (Procedure.ofExcept value).Records described := by
  cases value with
  | ok value => exact done holds
  | error error => exact fun _ runner world => ⟨[], .refl runner.server world, holds⟩

/-- What follows a procedure is noted behind it. -/
theorem bind {p : Procedure α} {f : α → Procedure β}
    {more : List Note → Option (Except Error β) → Prop} (first : p.Records described)
    (rest : ∀ notes value, described notes (some (.ok value)) →
      (f value).Records fun later outcome => more (notes ++ later) outcome)
    (failure : ∀ notes error, described notes (some (.error error)) →
      more notes (some (.error error)))
    (underway : ∀ notes, described notes none → more notes none) : (p.bind f).Records more := by
  intro σ runner world
  obtain ⟨notes, noted, holds⟩ := first σ runner world
  rw [run_bind]
  rcases began : p.run runner world with ⟨_ | error | value, between⟩
  · rw [began] at noted holds
    exact ⟨notes, noted, underway notes holds⟩
  · rw [began] at noted holds
    exact ⟨notes, noted, failure notes error holds⟩
  · rw [began] at noted holds
    obtain ⟨later, behind, ends⟩ := rest notes value holds σ runner between
    exact ⟨notes ++ later, noted.trans behind, ends⟩

theorem emit {sight : Sight} {described : List Note → Option (Except Error Unit) → Prop}
    (holds : described [.seen sight] (some (.ok ()))) : (Procedure.emit sight).Records described :=
  fun _ runner world => ⟨_, .observe runner.server world sight, holds⟩

theorem wait {delay : Time.Pause} {described : List Note → Option (Except Error Unit) → Prop}
    (passed : described [] (some (.ok ()))) (cancelled : described [] (some (.error .cancelled))) :
    (Procedure.wait delay).Records described := by
  intro σ runner world
  have silent (clock : Time.Clock) : Noted runner.server world [] { world with clock } :=
    (Noted.refl runner.server world).withClock clock
  rw [Procedure.wait, run]
  rcases runner.timer.wait world.clock delay.val with ⟨_ | _, clock⟩
  · exact ⟨[], silent clock, cancelled⟩
  · exact ⟨[], silent clock, passed⟩

/-- A query is noted as often as it is sent. -/
theorem fetch? {request : Request}
    {described : List Note → Option (Except Error (Option Row)) → Prop}
    (holds : ∀ (replies : List (Except ServerError Answer)) outcome,
      described (replies.map (Note.asked request)) outcome) :
    (Procedure.fetch? request).Records described := by
  intro σ runner world
  obtain ⟨replies, _, noted, _⟩ :=
    (notedAs_sendOnce runner.server request).retry runner.timer runner.draws runner.patience world
  rw [← List.map_eq_flatMap] at noted
  rw [Procedure.fetch?, run]
  rcases retried : Time.retry runner.timer runner.draws Error.isRefusedLock
    (fun _ => sendOnce runner.server request) runner.patience world with ⟨_ | error | answer, after⟩
  all_goals
    rw [retried] at noted
    exact ⟨_, noted, holds replies _⟩

theorem inTransaction {body : Transaction α}
    (holds : ∀ attempts outcome, (∀ attempt ∈ attempts, Attempt.Of body attempt) →
      Attempted Attempt.outcome attempts outcome →
        described (attempts.flatMap Attempt.notes) outcome) :
    (Procedure.inTransaction body).Records described := by
  intro σ runner world
  obtain ⟨attempts, of, noted, attempted⟩ := attempts_of_run runner (fun _ => body) world
  refine ⟨_, noted, holds attempts _ (fun attempt member => ?_) attempted⟩
  obtain ⟨i, found⟩ := List.getElem?_of_mem member
  exact of i attempt found

/-- The rounds of a loop, from a state on: nothing is noted of a round that is not begun, a round
that gives a result, fails or does not end is the last one, and what follows any other round is
noted behind it. -/
theorem loop {step : τ → Procedure (τ ⊕ β)}
    {round : τ → List Note → Option (Except Error (τ ⊕ β)) → Prop}
    {described : τ → List Note → Option (Except Error β) → Prop} {state : τ}
    (each : ∀ state, (step state).Records (round state))
    (pending : ∀ state, described state [] none)
    (last : ∀ state notes result, round state notes (some (.ok (.inr result))) →
      described state notes (some (.ok result)))
    (broken : ∀ state notes error, round state notes (some (.error error)) →
      described state notes (some (.error error)))
    (underway : ∀ state notes, round state notes none → described state notes none)
    (more : ∀ state notes next later outcome, round state notes (some (.ok (.inl next))) →
      described next later outcome → described state (notes ++ later) outcome) :
    (Procedure.loop step state).Records (described state) := by
  intro σ runner world
  have rounds (patience : Nat) (state : τ) (world : World σ) : ∃ notes,
      Noted runner.server world notes
        (repeatStep (fun state world => (step state).run runner world) patience state world).2 ∧
      described state notes
        (repeatStep (fun state world => (step state).run runner world) patience state world).1 := by
    induction patience generalizing state world with
    | zero => exact ⟨[], .refl runner.server world, pending state⟩
    | succ patience ih =>
        obtain ⟨notes, noted, holds⟩ := each state σ runner world
        rw [repeatStep]
        rcases stepped : (step state).run runner world with ⟨_ | error | next | result, left⟩
        · rw [stepped] at noted holds
          exact ⟨notes, noted, underway state notes holds⟩
        · rw [stepped] at noted holds
          exact ⟨notes, noted, broken state notes error holds⟩
        · rw [stepped] at noted holds
          obtain ⟨later, behind, ends⟩ := ih next left
          exact ⟨notes ++ later, noted.trans behind, more state notes next later _ holds ends⟩
        · rw [stepped] at noted holds
          exact ⟨notes, noted, last state notes result holds⟩
  obtain ⟨notes, noted, holds⟩ := rounds runner.patience state world
  rw [Procedure.loop, run]
  rcases repeated : repeatStep (fun state world => (step state).run runner world) runner.patience
    state world with ⟨_ | error | result, after⟩
  all_goals
    rw [repeated] at noted holds
    exact ⟨notes, noted, holds⟩

end Records

/-- Whatever is noted of a run is of one kind. -/
def RecordsOnly (p : Procedure α) (kind : Note → Prop) : Prop :=
  p.Records fun notes _ => ∀ note ∈ notes, kind note

namespace RecordsOnly

variable {kind : Note → Prop}

theorem done (value : α) : (Procedure.done value).RecordsOnly kind :=
  Records.done fun _ member => nomatch member

theorem ofExcept (value : Except Error α) : (Procedure.ofExcept value).RecordsOnly kind :=
  Records.ofExcept fun _ member => nomatch member

theorem bind {p : Procedure α} {f : α → Procedure β} (first : p.RecordsOnly kind)
    (rest : ∀ value, (f value).RecordsOnly kind) : (p.bind f).RecordsOnly kind := by
  refine Records.bind first (fun notes value kinds => ?_) (fun _ _ kinds => kinds)
    (fun _ kinds => kinds)
  exact (rest value).mono fun later _ others => List.forall_mem_append.mpr ⟨kinds, others⟩

theorem fetch? {request : Request} (noted : ∀ reply, kind (.asked request reply)) :
    (Procedure.fetch? request).RecordsOnly kind := by
  refine Records.fetch? fun replies _ note member => ?_
  obtain ⟨reply, _, rfl⟩ := List.mem_map.mp member
  exact noted reply

end RecordsOnly

end Procedure

end ExpandContract.Session
