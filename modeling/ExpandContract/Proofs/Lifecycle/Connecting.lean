import ExpandContract.Proofs.Ledger.Answers
import ExpandContract.Proofs.Ledger.Queries
import ExpandContract.Proofs.Session.Quitting
import ExpandContract.Session.Lifecycle

/-!
# Sessions begin with a connection

A session is obtained by connecting, and what is known of it follows from how it was obtained: it
has the configuration that was asked for, and the version that the server has told
(`session_of_connect`). Nothing is sent to a server before it has accepted the settings of the
connection, whatever is done with the session afterwards, and nothing at all where the server cannot
be reached (`settings_come_first`).

A session that is to be cancelled from the beginning is never obtained: its connection is set up,
and then it is over (`no_session_if_cancelled`).
-/

set_option autoImplicit false

namespace ExpandContract.MigrationSession

open Session Procedure

variable {α : Type} {link : Link} {config : Config} {s : MigrationSession} {notes : List Note}

/-! ## The parts of a beginning -/

/-- The request that sets up a connection. -/
def settings (config : Config) : Request :=
  .prepare config.connection.statements

/-- The version that an answer tells. -/
def versionIn (answer : Answer) : Except Error Int :=
  match answer.rows with
  | [] => .error (.database .noRow)
  | row :: _ => row.value 0 (.place 0) Json.int?

/-- What follows once the settings have been accepted. -/
def introduce (config : Config) : Procedure MigrationSession :=
  (ask .serverVersion versionIn).bind fun serverVersion => .done { config, serverVersion }

theorem askServerVersion_eq : askServerVersion = ask .serverVersion versionIn := by
  refine congrArg (Procedure.send _) (funext fun outcome => ?_)
  rcases outcome with error | ⟨_ | ⟨row, others⟩, affected⟩ <;> rfl

theorem connect_up : connect .up config =
    (ask (settings config) .ok).bind fun _ =>
      if config.cancelled then .cancel (introduce config) else introduce config := by
  have called : Procedure.call (settings config) = ask (settings config) .ok := by
    refine congrArg (Procedure.send _) (funext fun outcome => ?_)
    cases outcome <;> rfl
  rw [← called]
  unfold connect introduce
  rw [← askServerVersion_eq]
  cases config.cancelled <;> rfl

/-! ## What is known of a session -/

/-- The settings have been accepted, and then something else is noted. -/
def SettledBefore (config : Config) (notes rest : List Note) : Prop :=
  ∃ refusals answer, Refusals (settings config) refusals ∧
    notes = refusals ++ .asked (settings config) (.ok answer) :: rest

/-- A beginning does not get beyond the settings; or they are accepted, and the rest follows. -/
theorem dialogue_connect {outcome : Except Error MigrationSession}
    (dialogue : (connect .up config).Dialogue notes outcome) :
    (Refusals (settings config) notes ∧ ∃ error, outcome = .error error) ∨
      ∃ rest, SettledBefore config notes rest ∧ (introduce config).Dialogue rest outcome := by
  rw [connect_up] at dialogue
  rcases dialogue_bind.mp dialogue with
    ⟨first, rest, _, rfl, settled, follows⟩ | ⟨error, rfl, fails⟩
  · obtain ⟨refusals, answer, _, refused, rfl⟩ := dialogue_ask_ok settled
    refine .inr ⟨rest, ⟨refusals, answer, refused, by simp⟩, ?_⟩
    split at follows
    · exact follows
    · exact follows
  · rcases dialogue_ask fails with ⟨_, _, impossible, _⟩ | ⟨_, refused⟩
    · cases impossible
    · exact .inl ⟨refused, error, rfl⟩

/-- A session that is obtained has the configuration that was asked for. The settings were accepted
first, and then the server was asked for its version, until it told that of the session. -/
theorem session_of_connect (dialogue : (connect link config).Dialogue notes (.ok s)) :
    link = .up ∧ s.config = config ∧ ∃ refusals answer,
      SettledBefore config notes (refusals ++ [.asked .serverVersion (.ok answer)]) ∧
        Refusals .serverVersion refusals ∧ versionIn answer = .ok s.serverVersion := by
  cases link with
  | down reason => exact absurd dialogue.2 (by simp)
  | up =>
      rcases dialogue_connect dialogue with ⟨_, _, impossible⟩ | ⟨rest, settled, introduced⟩
      · cases impossible
      · obtain ⟨asking, last, version, rfl, asked, ends⟩ := dialogue_bind_ok.mp introduced
        obtain ⟨rfl, same⟩ := ends
        obtain ⟨refusals, answer, told, refused, rfl⟩ := dialogue_ask_ok asked
        cases same
        rw [List.append_nil] at settled
        exact ⟨rfl, rfl, refusals, answer, settled, refused, told⟩

/-- Whatever is done with a session once it is obtained: nothing but the settings is sent before the
settings have been accepted. Where the server cannot be reached, nothing is sent at all, and the
reason is told. -/
theorem settings_come_first {calls : MigrationSession → Procedure α} {outcome : Except Error α}
    (shown : ((connect link config).bind calls).Shows notes outcome) :
    (∀ before request reply after, notes = before ++ .asked request reply :: after →
      request ≠ settings config → ∃ answer, .asked (settings config) (.ok answer) ∈ before) ∧
    ∀ reason, link = .down reason →
      notes = [] ∧ outcome = .error (.database (.unreachable reason)) := by
  have dialogue := shown.dialogue
  cases link with
  | down reason =>
      obtain ⟨rfl, rfl⟩ := dialogue
      refine ⟨fun before request reply after split => absurd split (by simp), ?_⟩
      rintro _ ⟨⟩
      exact ⟨rfl, rfl⟩
  | up =>
      refine ⟨?_, fun _ impossible => nomatch impossible⟩
      have begun : Refusals (settings config) notes ∨ ∃ rest, SettledBefore config notes rest := by
        rcases dialogue_bind.mp dialogue with ⟨first, rest, s, rfl, connected, _⟩ | ⟨_, rfl, fails⟩
        · rcases dialogue_connect connected with ⟨_, _, impossible⟩ | ⟨more, settled, _⟩
          · cases impossible
          · obtain ⟨refusals, answer, refused, rfl⟩ := settled
            exact .inr ⟨more ++ rest, refusals, answer, refused, by simp⟩
        · rcases dialogue_connect fails with ⟨refused, _⟩ | ⟨more, settled, _⟩
          · exact .inl refused
          · exact .inr ⟨more, settled⟩
      rintro before request reply after rfl other
      rcases begun with refused | ⟨rest, refusals, answer, refused, split⟩
      · obtain ⟨_, same⟩ := refused (.asked request reply) (by simp)
        cases same
        exact absurd rfl other
      · rcases split_around split.symm with ⟨between, rfl, same⟩ | ⟨between, rfl, _⟩
        · cases between with
          | nil =>
              cases same
              exact absurd rfl other
          | cons note between =>
              obtain ⟨rfl, _⟩ := List.cons.inj same
              exact ⟨answer, by simp⟩
        · obtain ⟨_, same⟩ := refused (.asked request reply) (by simp)
          cases same
          exact absurd rfl other

/-! ## Sessions that are cancelled from the beginning -/

variable {σ : Type} {runner : Runner σ}

/-- A session that is cancelled asks no more. -/
theorem run_introduce_of_cancelled {world : World σ} (cancelled : world.clock.isCancelled = true) :
    (introduce config).run runner world = (some (.error .cancelled), world) := by
  unfold introduce ask
  simp only [Procedure.bind, Procedure.run, Time.retry, if_pos cancelled]
  rfl

/-- Of a session that is to be cancelled from the beginning nothing is sent but its settings. It is
never obtained, and where its settings have been accepted it is over for no other reason. -/
theorem no_session_if_cancelled (cancelled : config.cancelled = true)
    {outcome : Except Error MigrationSession} (shown : (connect .up config).Shows notes outcome) :
    AskedOnly (· = settings config) notes ∧ (∃ error, outcome = .error error) ∧
      ((∃ answer, .asked (settings config) (.ok answer) ∈ notes) →
        outcome = .error .cancelled) := by
  obtain ⟨σ, runner, clock, server, after, ran, rfl⟩ := shown
  rw [connect_up, if_pos cancelled, run_bind] at ran
  rcases prepared : (ask (settings config) .ok).run runner
    { clock, state := { server, trace := [] } } with ⟨_ | error | answer, between⟩
  · rw [prepared] at ran
    cases ran
  · obtain ⟨events, way, dialogue⟩ := dialogue_of_run prepared
    rw [prepared] at ran
    cases ran
    rw [way.trace, List.nil_append]
    rcases dialogue_ask dialogue with ⟨_, _, impossible, _⟩ | ⟨_, refused⟩
    · cases impossible
    · refine ⟨refused.askedOnly, ⟨error, rfl⟩, ?_⟩
      rintro ⟨answer, member⟩
      obtain ⟨_, impossible⟩ := refused _ member
      cases impossible
  · obtain ⟨events, way, dialogue⟩ := dialogue_of_run prepared
    rw [prepared] at ran
    simp only [Procedure.run] at ran
    rw [run_introduce_of_cancelled (Time.Clock.isCancelled_cancel _)] at ran
    cases ran
    obtain ⟨refusals, last, _, refused, split⟩ := dialogue_ask_ok dialogue
    change AskedOnly _ (Server.notes _ _ between.state.trace) ∧ _
    rw [way.trace, List.nil_append, split]
    refine ⟨refused.askedOnly.append ?_, ⟨_, rfl⟩, fun _ => rfl⟩
    intro request reply member
    cases List.mem_singleton.mp member
    rfl

/-- Where the server accepts everything, the session is set up and then over. -/
example : (connect .up { Config.ofUrl "" with cancelled := true }).outcomeWith
    (fun _ => .ok .none) = some (.error .cancelled) := rfl

end ExpandContract.MigrationSession
