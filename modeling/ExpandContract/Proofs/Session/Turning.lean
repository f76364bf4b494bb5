import ExpandContract.Proofs.Ledger.Queries
import ExpandContract.Proofs.Session.Ending
import ExpandContract.Proofs.Session.Withstanding

/-!
# What a procedure makes of a server's books

The state of a server may be known only in part, as the books that can be read off it. With a
server that never cancels a session, `Procedure.Turns` says into which books a procedure turns
given ones, together with the outcome that it then has. It is partial correctness: nothing is said
of a procedure that has not come to an end. A rule for each way to build a procedure puts it
together, and what a request does is said by the server (`Server.Answers`, `Server.Accepts`).
-/

set_option autoImplicit false

namespace ExpandContract.Session

open Time (Clock)

variable {σ τ α β : Type}

/-! ## Sessions that nobody cancels -/

/-- An orderly procedure does not cancel the session. -/
theorem Procedure.Orderly.live_of_run {p : Procedure α} (orderly : p.Orderly) {runner : Runner σ}
    (steady : runner.server.Steady) {world after : World σ} {outcome : Except Error α}
    (live : world.clock.cancelAt = none) (ran : p.run runner world = (some outcome, after)) :
    after.clock.cancelAt = none := by
  have level : Level .outside world
      { clock := world.clock, state := { server := .start world.state.server [], trace := [] } } :=
    ⟨live, live, rfl, rfl⟩
  have draws : runner.policy.Draws (Wire (Contended σ)) := runner.draws.comap fun crowded =>
    World.at crowded.clock crowded.state.server.calm
  obtain ⟨_, _, advance, _⟩ := orderly.withstands σ runner "" draws steady ran level
  exact advance.level.plainLive

/-- Events whose requests leave the books as they are. -/
theorem Leads.books_eq {server : Server σ} {books : σ → τ} {before after : World σ}
    {events : List Event} (way : Leads server before events after) {allowed : Request → Prop}
    (leaves : ∀ state request, allowed request → books (server state request).2 = books state)
    (asked : AskedOnly allowed (Server.notes server before.state.server events)) :
    books after.state.server = books before.state.server := by
  rw [way.state]
  generalize before.state.server = state at asked
  clear way
  induction events generalizing state with
  | nil => rfl
  | cons event rest ih =>
      cases event with
      | request request =>
          rw [Server.after, ih _ fun other reply member => asked other reply (.tail _ member)]
          exact leaves state request (asked request _ List.mem_cons_self)
      | sight sight => exact ih _ fun other reply member => asked other reply (.tail _ member)

/-! ## What a server does with its books -/

/-- The server answers the request, its answer is read as the given outcome, and the books are then
the given ones. -/
def Server.Answers (server : Server σ) (books : σ → τ) (state : σ) (request : Request)
    (read : Answer → Except Error α) (outcome : Except Error α) (next : τ) : Prop :=
  ∃ answer, (server state request).1.outcome = .ok answer ∧ read answer = outcome ∧
    books (server state request).2 = next

/-- The server accepts the change, and the books are then the given ones. -/
def Server.Accepts (server : Server σ) (books : σ → τ) (state : σ) (statement : Sql.Change)
    (next : τ) : Prop :=
  ∃ answer, (server state (.change statement)).1.outcome = .ok answer ∧
    books (server state (.change statement)).2 = next

namespace Procedure

variable {runner : Runner σ} {books : σ → τ} {b : τ}

/-- Where the procedure comes to an end, in a session that nobody cancels and with a server that has
these books, its outcome and the books it leaves are as described. -/
def Turns (runner : Runner σ) (books : σ → τ) (b : τ) (p : Procedure α)
    (described : Except Error α → τ → Prop) : Prop :=
  ∀ (world after : World σ) (outcome : Except Error α), world.clock.cancelAt = none →
    books world.state.server = b → p.run runner world = (some outcome, after) →
      after.clock.cancelAt = none ∧ described outcome (books after.state.server)

namespace Turns

variable {p : Procedure α} {described : Except Error α → τ → Prop}

theorem mono {more : Except Error α → τ → Prop} (turns : p.Turns runner books b described)
    (implies : ∀ outcome next, described outcome next → more outcome next) :
    p.Turns runner books b more := by
  intro world after outcome live same ran
  obtain ⟨lives, holds⟩ := turns world after outcome live same ran
  exact ⟨lives, implies _ _ holds⟩

theorem done {value : α} (holds : described (.ok value) b) :
    (Procedure.done value).Turns runner books b described := by
  intro world after outcome live same ran
  cases ran
  exact ⟨live, same ▸ holds⟩

theorem fail {error : Error} (holds : described (.error error) b) :
    (Procedure.fail error : Procedure α).Turns runner books b described := by
  intro world after outcome live same ran
  cases ran
  exact ⟨live, same ▸ holds⟩

/-- What follows a procedure starts from the books that it leaves; a failure is the end. -/
theorem bind {f : α → Procedure β} {more : Except Error β → τ → Prop}
    (first : p.Turns runner books b described)
    (rest : ∀ value next, described (.ok value) next → (f value).Turns runner books next more)
    (failure : ∀ error next, described (.error error) next → more (.error error) next) :
    (p.bind f).Turns runner books b more := by
  intro world after outcome live same ran
  rw [run_bind] at ran
  rcases began : p.run runner world with ⟨_ | error | value, between⟩
  · rw [began] at ran
    cases ran
  · rw [began] at ran
    cases ran
    obtain ⟨lives, holds⟩ := first world after _ live same began
    exact ⟨lives, failure _ _ holds⟩
  · rw [began] at ran
    obtain ⟨lives, holds⟩ := first world between _ live same began
    exact rest value _ holds between after outcome lives rfl ran

/-- What follows a caught failure goes on with the outcome. -/
theorem attempt_bind {f : Except Error α → Procedure β} {more : Except Error β → τ → Prop}
    (first : p.Turns runner books b described)
    (rest : ∀ tried next, described tried next → (f tried).Turns runner books next more) :
    (p.attempt.bind f).Turns runner books b more := by
  intro world after outcome live same ran
  rw [run_bind, run_attempt] at ran
  rcases began : p.run runner world with ⟨_ | tried, between⟩
  · rw [began] at ran
    cases ran
  · rw [began] at ran
    obtain ⟨lives, holds⟩ := first world between _ live same began
    exact rest tried _ holds between after outcome lives rfl ran

/-- A procedure all of whose requests leave the books as they are. -/
theorem of_asksOnly {allowed : Request → Prop} (steady : runner.server.Steady)
    (leaves : ∀ state request, allowed request →
      books (runner.server state request).2 = books state)
    (asks : p.AsksOnly allowed) (orderly : p.Orderly) :
    p.Turns runner books b fun _ next => next = b := by
  intro world after outcome live same ran
  obtain ⟨events, way, dialogue⟩ := dialogue_of_run ran
  refine ⟨orderly.live_of_run steady live ran, ?_⟩
  rw [way.books_eq leaves (asks _ _ dialogue), same]

/-! ## Single requests -/

/-- A request that the server answers, or refuses for a cause that does not pass. -/
theorem send {request : Request} {read : Except Error Answer → Except Error α}
    (steady : runner.server.Steady)
    (replies : ∀ state, books state = b → ∀ reply, (runner.server state request).1.outcome = reply →
      (∀ cause, reply = .error cause → cause.code ≠ Error.refusedLockCode) ∧
      described (read ((reply.mapError DatabaseError.server).mapError Error.database))
        (books (runner.server state request).2)) :
    (Procedure.send request fun outcome => Procedure.ofExcept (read outcome)).Turns runner books b
      described := by
  intro world after outcome live same ran
  obtain ⟨lasting, holds⟩ := replies world.state.server same _ rfl
  rw [run] at ran
  cases enough : runner.patience with
  | zero =>
      rw [enough, Time.retry, not_isCancelled live] at ran
      cases ran
  | succ patience =>
      have once := retry_sendOnce runner.timer runner.draws patience (not_isCancelled live) lasting
      rw [enough, once] at ran
      dsimp only at ran
      have stays : (deliver runner.server request world).2.clock = world.clock :=
        deliver_snd_clock (steady _ _)
      have ends : outcome = read
          (((runner.server world.state.server request).1.outcome.mapError
            DatabaseError.server).mapError Error.database) ∧
          after = (deliver runner.server request world).2 := by
        cases given : read (((runner.server world.state.server request).1.outcome.mapError
            DatabaseError.server).mapError Error.database) with
        | ok value =>
            rw [given] at ran
            cases ran
            exact ⟨rfl, rfl⟩
        | error error =>
            rw [given] at ran
            cases ran
            exact ⟨rfl, rfl⟩
      obtain ⟨rfl, rfl⟩ := ends
      exact ⟨stays ▸ live, holds⟩

/-- A query that the server answers. -/
theorem ask {request : Request} {read : Answer → Except Error α} (steady : runner.server.Steady)
    (answers : ∀ state, books state = b → ∃ given next,
      runner.server.Answers books state request read given next ∧ described given next) :
    (Procedure.ask request read).Turns runner books b described := by
  refine send steady fun state same reply replied => ?_
  obtain ⟨_, _, ⟨answer, answered, rfl, rfl⟩, holds⟩ := answers state same
  cases answered.symm.trans replied
  exact ⟨nofun, holds⟩

/-- A change that the server accepts. -/
theorem change {statement : Sql.Change} {next : τ} (steady : runner.server.Steady)
    (accepts : ∀ state, books state = b → runner.server.Accepts books state statement next) :
    (Procedure.change statement).Turns runner books b fun outcome left =>
      outcome = .ok () ∧ left = next := by
  refine send steady fun state same reply replied => ?_
  obtain ⟨answer, accepted, left⟩ := accepts state same
  cases accepted.symm.trans replied
  exact ⟨nofun, rfl, left⟩

/-- What follows a query or a change that succeeds. -/
theorem bind_ok {f : α → Procedure β} {value : α} {next : τ} {more : Except Error β → τ → Prop}
    (first : p.Turns runner books b fun outcome left => outcome = .ok value ∧ left = next)
    (rest : (f value).Turns runner books next more) : (p.bind f).Turns runner books b more := by
  refine bind first ?_ ?_
  · rintro _ _ ⟨same, rfl⟩
    cases same
    exact rest
  · rintro _ _ ⟨impossible, _⟩
    cases impossible

end Turns

end Procedure

end ExpandContract.Session
