import ExpandContract.Session.Run

/-!
# Dialogues

The trace of a session holds the requests, not the answers. A note is an event of the trace together
with what the server did about it, and the notes of a trace follow from the server and the state it
began in (`Server.notes`).

A dialogue of a procedure is a list of notes and an outcome that fit together. It says nothing about
time: a request may be repeated as often as a lock is refused, and the session may turn out to be
cancelled before each attempt. Every run of a procedure with any server at any time is one of its
dialogues (`Procedure.dialogue_of_run`), so what holds of all dialogues holds of all runs.

Dialogues are taken apart along the procedure: `Procedure.dialogue_bind` for a procedure that is
followed by something, `Procedure.dialogue_attempt` for a caught failure.
-/

set_option autoImplicit false

namespace ExpandContract.Session

open Time (Backoff Clock Timed Timer)

variable {σ α β τ : Type}

/-! ## Notes -/

/-- What is observed of a session by someone who also hears the server. -/
inductive Note where
  | asked (request : Request) (outcome : Except ServerError Answer)
  | seen (sight : Sight)

/-- Of two parts of a log, each entry stands behind the first one or within it. -/
theorem split_around {first rest early late : List α} {entry : α}
    (split : first ++ rest = early ++ entry :: late) :
    (∃ between, early = first ++ between ∧ rest = between ++ entry :: late) ∨
      ∃ between, first = early ++ entry :: between ∧ late = between ++ rest := by
  rcases List.append_eq_append_iff.mp split with ⟨between, rfl, same⟩ | ⟨between, rfl, same⟩
  · exact .inl ⟨between, rfl, same⟩
  · cases between with
    | nil => exact .inl ⟨[], by simp, same.symm⟩
    | cons other between =>
        obtain ⟨rfl, rfl⟩ := List.cons.inj same
        exact .inr ⟨between, rfl, rfl⟩

/-- The notes of a trace of a session with a server that was in the given state. -/
def Server.notes (server : Server σ) : σ → List Event → List Note
  | _, [] => []
  | state, .request request :: rest =>
      .asked request (server state request).1.outcome ::
        Server.notes server (server state request).2 rest
  | state, .sight sight :: rest => .seen sight :: Server.notes server state rest

/-- The state that a trace leaves the server in. -/
def Server.after (server : Server σ) : σ → List Event → σ
  | state, [] => state
  | state, .request request :: rest => Server.after server (server state request).2 rest
  | state, .sight _ :: rest => Server.after server state rest

theorem Server.notes_append (server : Server σ) (state : σ) (first rest : List Event) :
    Server.notes server state (first ++ rest) =
      Server.notes server state first ++ Server.notes server (Server.after server state first) rest
    := by
  induction first generalizing state with
  | nil => rfl
  | cons event events ih =>
      cases event <;> simp only [List.cons_append, Server.notes, Server.after, ih]

theorem Server.after_append (server : Server σ) (state : σ) (first rest : List Event) :
    Server.after server state (first ++ rest) =
      Server.after server (Server.after server state first) rest := by
  induction first generalizing state with
  | nil => rfl
  | cons event events ih =>
      cases event <;> simp only [List.cons_append, Server.after, ih]

/-- The events on the way from one world to another. -/
structure Leads (server : Server σ) (before : World σ) (events : List Event) (after : World σ) :
    Prop where
  trace : after.state.trace = before.state.trace ++ events
  state : after.state.server = Server.after server before.state.server events

namespace Leads

variable {server : Server σ} {before between after : World σ} {first rest events : List Event}

theorem refl (server : Server σ) (world : World σ) : Leads server world [] world :=
  ⟨(List.append_nil _).symm, rfl⟩

theorem trans (earlier : Leads server before first between)
    (later : Leads server between rest after) :
    Leads server before (first ++ rest) after where
  trace := by rw [later.trace, earlier.trace, List.append_assoc]
  state := by rw [later.state, earlier.state, Server.after_append]

/-- The notes of what comes later begin where the earlier events have left the server. -/
theorem notes_append (earlier : Leads server before first between) (rest : List Event) :
    Server.notes server before.state.server (first ++ rest) =
      Server.notes server before.state.server first ++
        Server.notes server between.state.server rest := by
  rw [Server.notes_append, earlier.state]

/-- Time leaves no note. -/
theorem withClock (way : Leads server before events after) (clock : Clock) :
    Leads server before events { after with clock } :=
  ⟨way.trace, way.state⟩

theorem observe (server : Server σ) (world : World σ) (sight : Sight) :
    Leads server world [.sight sight] (world.observe (.sight sight)) :=
  ⟨rfl, rfl⟩

theorem deliver (server : Server σ) (request : Request) (world : World σ) :
    Leads server world [.request request] (Session.deliver server request world).2 :=
  ⟨rfl, rfl⟩

end Leads

/-- What a request brings is what the server did about it. -/
theorem deliver_fst (server : Server σ) (request : Request) (world : World σ) :
    (deliver server request world).1 =
      (server world.state.server request).1.outcome.mapError .server := rfl

/-- A request is answered, or refused for a cause; either way it leaves one note. -/
theorem deliver_cases (server : Server σ) (request : Request) (world : World σ) :
    (∃ answer after, deliver server request world = (.ok answer, after) ∧
      Leads server world [.request request] after ∧
      Server.notes server world.state.server [.request request] = [.asked request (.ok answer)]) ∨
    ∃ cause after, deliver server request world = (.error (.server cause), after) ∧
      Leads server world [.request request] after ∧
      Server.notes server world.state.server [.request request] =
        [.asked request (.error cause)] := by
  cases replied : (server world.state.server request).1.outcome with
  | ok answer =>
      refine .inl ⟨answer, (deliver server request world).2, ?_, .deliver server request world, ?_⟩
      · exact Prod.ext (by rw [deliver_fst, replied]; rfl) rfl
      · rw [Server.notes, Server.notes, replied]
  | error cause =>
      refine .inr ⟨cause, (deliver server request world).2, ?_, .deliver server request world, ?_⟩
      · exact Prod.ext (by rw [deliver_fst, replied]; rfl) rfl
      · rw [Server.notes, Server.notes, replied]

/-! ## Dialogues of requests and transactions -/

/-- What a request brings in one attempt. -/
def SentOnce (request : Request) (notes : List Note) (outcome : Except Error Answer) : Prop :=
  ∃ reply : Except ServerError Answer, notes = [.asked request reply] ∧
    outcome = (reply.mapError DatabaseError.server).mapError Error.database

/-- The dialogues of the body of a transaction. -/
inductive Transaction.Dialogue : Transaction α → List Note → Except Error α → Prop where
  | done (value : α) : Dialogue (.done value) [] (.ok value)
  | fail (error : Error) : Dialogue (.fail error) [] (.error error)
  | send {request : Request} {next : Except DatabaseError Answer → Transaction α}
      {notes : List Note} {result : Except Error α} (outcome : Except ServerError Answer)
      (rest : Dialogue (next (outcome.mapError .server)) notes result) :
      Dialogue (.send request next) (.asked request outcome :: notes) result

/-- What a transaction brings in one attempt. -/
inductive TransactedOnce (body : Transaction α) : List Note → Except Error α → Prop where
  | notBegun (cause : ServerError) :
      TransactedOnce body [.asked .begin (.error cause)] (.error (.database (.server cause)))
  | committed {notes : List Note} {value : α} (begun committed : Answer)
      (inside : body.Dialogue notes (.ok value)) :
      TransactedOnce body
        (.asked .begin (.ok begun) :: notes ++ [.asked .commit (.ok committed)]) (.ok value)
  | notCommitted {notes : List Note} {value : α} (begun : Answer) (cause : ServerError)
      (inside : body.Dialogue notes (.ok value)) :
      TransactedOnce body (.asked .begin (.ok begun) :: notes ++ [.asked .commit (.error cause)])
        (.error (.database (.server cause)))
  | rolledBack {notes : List Note} {error : Error} (begun : Answer)
      (outcome : Except ServerError Answer) (inside : body.Dialogue notes (.error error)) :
      TransactedOnce body (.asked .begin (.ok begun) :: notes ++ [.asked .rollback outcome])
        (.error error)

/-- What a transaction brings in some attempt, where its body may be another one each time. -/
def TransactedInSome (body : Nat → Transaction α) (notes : List Note) (outcome : Except Error α) :
    Prop :=
  ∃ attempt, TransactedOnce (body attempt) notes outcome

/-- What attempts bring that are repeated while a lock is refused. -/
inductive Repeated (once : List Note → Except Error α → Prop) :
    List Note → Except Error α → Prop where
  | cancelled : Repeated once [] (.error .cancelled)
  | value {notes : List Note} {value : α} (attempt : once notes (.ok value)) :
      Repeated once notes (.ok value)
  | failure {notes : List Note} {error : Error} (attempt : once notes (.error error))
      (lasting : error.isRefusedLock = false) : Repeated once notes (.error error)
  | again {first rest : List Note} {error : Error} {result : Except Error α}
      (attempt : once first (.error error)) (refused : error.isRefusedLock = true)
      (later : Repeated once rest result) : Repeated once (first ++ rest) result

/-- What the rounds of a loop bring. -/
inductive Rounds (round : τ → List Note → Except Error (τ ⊕ β) → Prop) :
    τ → List Note → Except Error β → Prop where
  | last {state : τ} {notes : List Note} {result : β}
    (ends : round state notes (.ok (.inr result))) :
      Rounds round state notes (.ok result)
  | broken {state : τ} {notes : List Note} {error : Error}
    (fails : round state notes (.error error)) :
      Rounds round state notes (.error error)
  | more {state next : τ} {first rest : List Note} {result : Except Error β}
      (goesOn : round state first (.ok (.inl next))) (later : Rounds round next rest result) :
      Rounds round state (first ++ rest) result

/-- What a stage brings with what then follows its outcome. -/
def Staged {γ : Type} (stage : List Note → Except Error γ → Prop)
    (next : Except Error γ → List Note → Except Error α → Prop) (notes : List Note)
    (result : Except Error α) : Prop :=
  ∃ first rest outcome, notes = first ++ rest ∧ stage first outcome ∧ next outcome rest result

/-! ## Dialogues of procedures -/

/-- The dialogues of a procedure: the notes that a run may leave, with the outcome it then has. -/
def Procedure.Dialogue {α : Type} : Procedure α → List Note → Except Error α → Prop
  | .done value, notes, result => notes = [] ∧ result = .ok value
  | .fail error, notes, result => notes = [] ∧ result = .error error
  | .send request next, notes, result =>
      Staged (Repeated (SentOnce request)) (fun outcome => (next outcome).Dialogue) notes result
  | .transaction body next, notes, result =>
      Staged (Repeated (TransactedInSome body)) (fun outcome => (next outcome).Dialogue) notes
        result
  | .pause _ next, notes, result =>
      (next (.ok ())).Dialogue notes result ∨ (next (.error .cancelled)).Dialogue notes result
  | .observe sight next, notes, result =>
      ∃ rest, notes = .seen sight :: rest ∧ next.Dialogue rest result
  | .cancel next, notes, result => next.Dialogue notes result
  | .iterate step state next, notes, result =>
      Staged (Rounds (fun state => (step state).Dialogue) state)
        (fun outcome => (next outcome).Dialogue) notes result

namespace Procedure

@[simp]
theorem dialogue_done {value : α} {notes : List Note} {result : Except Error α} :
    (Procedure.done value).Dialogue notes result ↔ notes = [] ∧ result = .ok value := .rfl

@[simp]
theorem dialogue_fail {error : Error} {notes : List Note} {result : Except Error α} :
    (Procedure.fail error : Procedure α).Dialogue notes result ↔
      notes = [] ∧ result = .error error := .rfl

/-! ## Taking dialogues apart -/

/-- A stage stays the first one when something is joined to what follows it. -/
theorem staged_bind {γ : Type} {stage : List Note → Except Error γ → Prop}
    {next : Except Error γ → List Note → Except Error α → Prop}
    {joined : Except Error γ → List Note → Except Error β → Prop}
    {result : Except Error β} (after : α → List Note → Except Error β → Prop)
    (joins : ∀ outcome notes, joined outcome notes result ↔
      (∃ first rest value, notes = first ++ rest ∧ next outcome first (.ok value) ∧
        after value rest result) ∨
      ∃ error, result = .error error ∧ next outcome notes (.error error))
    {notes : List Note} :
    Staged stage joined notes result ↔
      (∃ first rest value, notes = first ++ rest ∧ Staged stage next first (.ok value) ∧
        after value rest result) ∨
      ∃ error, result = .error error ∧ Staged stage next notes (.error error) := by
  constructor
  · rintro ⟨first, rest, outcome, rfl, staged, follows⟩
    rcases (joins outcome rest).mp follows with ⟨middle, last, value, rfl, done, ends⟩ | failed
    · exact .inl ⟨first ++ middle, last, value, (List.append_assoc ..).symm,
        ⟨first, middle, outcome, rfl, staged, done⟩, ends⟩
    · obtain ⟨error, failure, fails⟩ := failed
      exact .inr ⟨error, failure, first, rest, outcome, rfl, staged, fails⟩
  · rintro (⟨_, last, value, rfl, ⟨first, middle, outcome, rfl, staged, done⟩, ends⟩ |
      ⟨error, failure, first, rest, outcome, rfl, staged, fails⟩)
    · exact ⟨first, middle ++ last, outcome, List.append_assoc .., staged,
        (joins outcome _).mpr (.inl ⟨middle, last, value, rfl, done, ends⟩)⟩
    · exact
        ⟨first, rest, outcome, rfl, staged, (joins outcome _).mpr (.inr ⟨error, failure, fails⟩)⟩

/-- A dialogue of a procedure that is followed by something is one of the procedure, after which
the rest goes on with the value; or the procedure fails, and that is all. -/
theorem dialogue_bind {p : Procedure α} {f : α → Procedure β} {notes : List Note}
    {result : Except Error β} :
    (p.bind f).Dialogue notes result ↔
      (∃ first rest value, notes = first ++ rest ∧ p.Dialogue first (.ok value) ∧
        (f value).Dialogue rest result) ∨
      ∃ error, result = .error error ∧ p.Dialogue notes (.error error) := by
  induction p generalizing notes with
  | done value =>
      constructor
      · intro follows
        exact .inl ⟨[], notes, value, rfl, ⟨rfl, rfl⟩, follows⟩
      · rintro (⟨first, rest, _, rfl, ⟨rfl, same⟩, follows⟩ | ⟨error, _, _, impossible⟩)
        · cases same
          exact follows
        · cases impossible
  | fail error =>
      constructor
      · rintro ⟨nothing, failure⟩
        exact .inr ⟨error, failure, nothing, rfl⟩
      · rintro (⟨_, _, _, _, ⟨_, impossible⟩, _⟩ | ⟨_, failure, nothing, same⟩)
        · cases impossible
        · cases same
          exact ⟨nothing, failure⟩
  | send request next ih =>
      exact staged_bind (fun value => (f value).Dialogue) fun outcome notes => ih outcome
  | transaction body next ih =>
      exact staged_bind (fun value => (f value).Dialogue) fun outcome notes => ih outcome
  | pause delay next ih =>
      simp only [bind, Dialogue, ih]
      constructor
      · rintro ((⟨first, rest, value, split, done, ends⟩ | ⟨error, failure, fails⟩) |
          (⟨first, rest, value, split, done, ends⟩ | ⟨error, failure, fails⟩))
        · exact .inl ⟨first, rest, value, split, .inl done, ends⟩
        · exact .inr ⟨error, failure, .inl fails⟩
        · exact .inl ⟨first, rest, value, split, .inr done, ends⟩
        · exact .inr ⟨error, failure, .inr fails⟩
      · rintro (⟨first, rest, value, split, done | done, ends⟩ | ⟨error, failure, fails | fails⟩)
        · exact .inl (.inl ⟨first, rest, value, split, done, ends⟩)
        · exact .inr (.inl ⟨first, rest, value, split, done, ends⟩)
        · exact .inl (.inr ⟨error, failure, fails⟩)
        · exact .inr (.inr ⟨error, failure, fails⟩)
  | observe sight next ih =>
      simp only [bind, Dialogue, ih]
      constructor
      · rintro ⟨_, rfl, ⟨first, rest, value, rfl, done, ends⟩ | ⟨error, failure, fails⟩⟩
        · exact .inl ⟨.seen sight :: first, rest, value, rfl, ⟨first, rfl, done⟩, ends⟩
        · exact .inr ⟨error, failure, _, rfl, fails⟩
      · rintro (⟨_, rest, value, rfl, ⟨first, rfl, done⟩, ends⟩ | ⟨error, failure, _, rfl, fails⟩)
        · exact ⟨first ++ rest, rfl, .inl ⟨first, rest, value, rfl, done, ends⟩⟩
        · exact ⟨_, rfl, .inr ⟨error, failure, fails⟩⟩
  | cancel next ih => exact ih
  | iterate step state next _ ih =>
      exact staged_bind (fun value => (f value).Dialogue) fun outcome notes => ih outcome

/-- A procedure that is followed by something succeeds if both of them do. -/
theorem dialogue_bind_ok {p : Procedure α} {f : α → Procedure β} {notes : List Note} {last : β} :
    (p.bind f).Dialogue notes (.ok last) ↔
      ∃ first rest value, notes = first ++ rest ∧ p.Dialogue first (.ok value) ∧
        (f value).Dialogue rest (.ok last) := by
  rw [dialogue_bind]
  constructor
  · rintro (split | ⟨_, impossible, _⟩)
    · exact split
    · cases impossible
  · exact .inl

/-- What is made of the value leaves no notes of its own. -/
theorem Dialogue.map {p : Procedure α} {notes : List Note} {value : α}
    (dialogue : p.Dialogue notes (.ok value)) (f : α → β) :
    (p.bind fun value => .done (f value)).Dialogue notes (.ok (f value)) :=
  dialogue_bind_ok.mpr ⟨notes, [], value, (List.append_nil _).symm, dialogue, rfl, rfl⟩

/-- A caught failure leaves the same notes, and its outcome is a value. -/
theorem dialogue_attempt {p : Procedure α} {notes : List Note}
    {result : Except Error (Except Error α)} :
    p.attempt.Dialogue notes result ↔
      ∃ outcome, result = .ok outcome ∧ p.Dialogue notes outcome := by
  induction p generalizing notes with
  | done value => simp only [attempt, dialogue_done]; grind
  | fail error => simp only [attempt, dialogue_done, dialogue_fail]; grind
  | send request next ih => simp only [attempt, Dialogue, Staged, ih]; grind
  | transaction body next ih => simp only [attempt, Dialogue, Staged, ih]; grind
  | pause delay next ih => simp only [attempt, Dialogue, ih]; grind
  | observe sight next ih => simp only [attempt, Dialogue, ih]; grind
  | cancel next ih => exact ih
  | iterate step state next _ ih => simp only [attempt, Dialogue, Staged, ih]; grind

/-- What follows a caught failure goes on with the outcome. -/
theorem dialogue_attempt_bind {p : Procedure α} {f : Except Error α → Procedure β}
    {notes : List Note} {result : Except Error β} :
    (p.attempt.bind f).Dialogue notes result ↔
      ∃ first rest outcome, notes = first ++ rest ∧ p.Dialogue first outcome ∧
        (f outcome).Dialogue rest result := by
  rw [dialogue_bind]
  constructor
  · rintro (⟨first, rest, tried, split, attempted, follows⟩ | ⟨_, _, fails⟩)
    · obtain ⟨outcome, same, inside⟩ := dialogue_attempt.mp attempted
      cases same
      exact ⟨first, rest, tried, split, inside, follows⟩
    · obtain ⟨_, impossible, _⟩ := dialogue_attempt.mp fails
      cases impossible
  · rintro ⟨first, rest, outcome, split, inside, follows⟩
    exact .inl ⟨first, rest, outcome, split, dialogue_attempt.mpr ⟨outcome, rfl, inside⟩, follows⟩

end Procedure

/-! ## Runs are dialogues -/

/-- What a call does to the world is observed, and fits together with its outcome. -/
def Sound (server : Server σ) (call : World σ → Except Error α × World σ)
    (once : List Note → Except Error α → Prop) : Prop :=
  ∀ world, ∃ events, Leads server world events (call world).2 ∧
    once (Server.notes server world.state.server events) (call world).1

theorem sound_sendOnce (server : Server σ) (request : Request) :
    Sound server (sendOnce server request) (SentOnce request) := fun world =>
  ⟨[.request request], .deliver server request world, _, rfl, rfl⟩

/-- A body of a transaction leaves one of its dialogues. -/
theorem Transaction.dialogue_run (server : Server σ) (body : Transaction α) :
    Sound server (body.run server) body.Dialogue := by
  induction body with
  | done value => exact fun world => ⟨[], .refl server world, .done value⟩
  | fail error => exact fun world => ⟨[], .refl server world, .fail error⟩
  | send request next ih =>
      intro world
      obtain ⟨events, way, inside⟩ :=
        ih (deliver server request world).1 (deliver server request world).2
      exact ⟨.request request :: events, (Leads.deliver server request world).trans way,
        .send _ inside⟩

theorem sound_transactOnce (server : Server σ) (body : Transaction α) :
    Sound server (transactOnce server body) (TransactedOnce body) := by
  intro world
  unfold transactOnce
  rcases deliver_cases server .begin world with
    ⟨begun, opened, opens, opening, openNote⟩ | ⟨cause, closed, refuses, closing, closeNote⟩
  · obtain ⟨events, within, inside⟩ := body.dialogue_run server opened
    rw [opens]
    rcases ran : body.run server opened with ⟨value | error, left⟩
    · rw [ran] at within inside
      rcases deliver_cases server .rollback left with
        ⟨_, closed, rolls, closing, note⟩ | ⟨_, closed, rolls, closing, note⟩
      all_goals
        simp only [ran, rolls]
        refine ⟨_, (opening.trans within).trans closing, ?_⟩
        rw [(opening.trans within).notes_append, opening.notes_append, openNote, note]
        exact .rolledBack begun _ inside
    · rw [ran] at within inside
      rcases deliver_cases server .commit left with
        ⟨committed, closed, commits, closing, note⟩ | ⟨cause, closed, commits, closing, note⟩
      · simp only [ran, commits]
        refine ⟨_, (opening.trans within).trans closing, ?_⟩
        rw [(opening.trans within).notes_append, opening.notes_append, openNote, note]
        exact .committed begun committed inside
      · simp only [ran, commits]
        refine ⟨_, (opening.trans within).trans closing, ?_⟩
        rw [(opening.trans within).notes_append, opening.notes_append, openNote, note]
        exact .notCommitted begun cause inside
  · rw [refuses]
    exact ⟨_, closing, closeNote ▸ .notBegun cause⟩

/-- What an attempt of a transaction brings. -/
theorem sound_attempts (server : Server σ) (body : Nat → Transaction α) (attempt : Nat) :
    Sound server (transactOnce server (body attempt)) (TransactedInSome body) := by
  intro world
  obtain ⟨events, way, once⟩ := sound_transactOnce server (body attempt) world
  exact ⟨events, way, attempt, once⟩

/-- Attempts that are repeated leave what they bring one after the other. -/
theorem dialogue_repeatCall {server : Server σ} {timer : Timer} {policy : Backoff}
    {draws : policy.Draws (Wire σ)} {call : Nat → World σ → Except Error α × World σ}
    {once : List Note → Except Error α → Prop}
    (sound : ∀ attempt, Sound server (call attempt) once) {patience attempt : Nat}
    {world after : World σ}
    {outcome : Except Error α}
    (reached : Time.repeatCall timer draws Error.isRefusedLock call patience attempt world =
      (some outcome, after)) :
    ∃ events, Leads server world events after ∧
      Repeated once (Server.notes server world.state.server events) outcome := by
  induction patience generalizing attempt world with
  | zero => cases reached
  | succ patience ih =>
      obtain ⟨events, way, brings⟩ := sound attempt world
      rw [Time.repeatCall] at reached
      rcases called : call attempt world with ⟨error | value, left⟩
      · rw [called] at reached way brings
        by_cases refused : error.isRefusedLock = true
        · simp only [if_pos refused] at reached
          rcases waited : timer.wait left.clock (draws.delay left attempt) with ⟨_ | _, clock⟩
          · simp only [waited] at reached
            cases reached
            refine ⟨events ++ [], (way.withClock clock).trans (.refl _ _), ?_⟩
            rw [way.notes_append]
            exact .again brings refused .cancelled
          · simp only [waited] at reached
            obtain ⟨later, laterWay, repeats⟩ := ih reached
            refine ⟨events ++ later, (way.withClock clock).trans laterWay, ?_⟩
            rw [way.notes_append]
            exact .again brings refused repeats
        · simp only [if_neg refused] at reached
          cases reached
          exact ⟨events, way, .failure brings (Bool.eq_false_iff.mpr refused)⟩
      · rw [called] at reached way brings
        cases reached
        exact ⟨events, way, .value brings⟩

theorem dialogue_retry {server : Server σ} {timer : Timer} {policy : Backoff}
    {draws : policy.Draws (Wire σ)} {call : Nat → World σ → Except Error α × World σ}
    {once : List Note → Except Error α → Prop}
    (sound : ∀ attempt, Sound server (call attempt) once) {patience : Nat} {world after : World σ}
    {outcome : Except Error α}
    (reached : Time.retry timer draws Error.isRefusedLock call patience world =
      (some outcome, after)) :
    ∃ events, Leads server world events after ∧
      Repeated once (Server.notes server world.state.server events) outcome := by
  unfold Time.retry at reached
  split at reached
  · cases reached
    exact ⟨[], .refl server world, .cancelled⟩
  · exact dialogue_repeatCall sound reached

/-- The rounds of a loop leave what they bring one after the other. -/
theorem dialogue_repeatStep {server : Server σ}
    {step : τ → World σ → Option (Except Error (τ ⊕ β)) × World σ}
    {round : τ → List Note → Except Error (τ ⊕ β) → Prop}
    (sound : ∀ {state : τ} {world after : World σ} {outcome : Except Error (τ ⊕ β)},
      step state world = (some outcome, after) → ∃ events, Leads server world events after ∧
        round state (Server.notes server world.state.server events) outcome)
    {patience : Nat} {state : τ} {world after : World σ} {outcome : Except Error β}
    (reached : repeatStep step patience state world = (some outcome, after)) :
    ∃ events, Leads server world events after ∧
      Rounds round state (Server.notes server world.state.server events) outcome := by
  induction patience generalizing state world with
  | zero => cases reached
  | succ patience ih =>
      rw [repeatStep] at reached
      rcases stepped : step state world with ⟨_ | error | next | result, left⟩
      · rw [stepped] at reached
        cases reached
      · obtain ⟨events, way, brings⟩ := sound stepped
        rw [stepped] at reached
        cases reached
        exact ⟨events, way, .broken brings⟩
      · obtain ⟨events, way, brings⟩ := sound stepped
        rw [stepped] at reached
        obtain ⟨later, laterWay, rounds⟩ := ih reached
        refine ⟨events ++ later, way.trans laterWay, ?_⟩
        rw [way.notes_append]
        exact .more brings rounds
      · obtain ⟨events, way, brings⟩ := sound stepped
        rw [stepped] at reached
        cases reached
        exact ⟨events, way, .last brings⟩

/-- A stage and what follows it leave their notes one after the other. -/
theorem Leads.staged {γ : Type} {server : Server σ} {before between after : World σ}
    {first rest : List Event} {stage : List Note → Except Error γ → Prop}
    {next : Except Error γ → List Note → Except Error α → Prop} {outcome : Except Error γ}
    {result : Except Error α} (earlier : Leads server before first between)
    (staged : stage (Server.notes server before.state.server first) outcome)
    (later : Leads server between rest after)
    (follows : next outcome (Server.notes server between.state.server rest) result) :
    ∃ events, Leads server before events after ∧
      Staged stage next (Server.notes server before.state.server events) result :=
  ⟨first ++ rest, earlier.trans later, _, _, outcome, earlier.notes_append rest, staged, follows⟩

/-- What a run observes is a dialogue of the procedure, with the outcome of the run. -/
theorem Procedure.dialogue_of_run {runner : Runner σ} {p : Procedure α} {world after : World σ}
    {outcome : Except Error α} (ran : p.run runner world = (some outcome, after)) :
    ∃ events, Leads runner.server world events after ∧
      p.Dialogue (Server.notes runner.server world.state.server events) outcome := by
  induction p generalizing world after with
  | done value =>
      cases ran
      exact ⟨[], .refl _ world, rfl, rfl⟩
  | fail error =>
      cases ran
      exact ⟨[], .refl _ world, rfl, rfl⟩
  | send request next ih =>
      rw [run] at ran
      split at ran
      · rename_i outcome between sent
        obtain ⟨first, way, repeats⟩ := dialogue_retry (fun _ => sound_sendOnce _ request) sent
        obtain ⟨rest, laterWay, follows⟩ := ih outcome ran
        exact way.staged repeats laterWay follows
      · cases ran
  | transaction body next ih =>
      rw [run] at ran
      split at ran
      · rename_i outcome between transacted
        obtain ⟨first, way, repeats⟩ := dialogue_retry (sound_attempts _ body) transacted
        obtain ⟨rest, laterWay, follows⟩ := ih outcome ran
        exact way.staged repeats laterWay follows
      · cases ran
  | pause delay next ih =>
      rw [run] at ran
      split at ran
      · obtain ⟨events, way, follows⟩ := ih _ ran
        exact ⟨events, ⟨way.trace, way.state⟩, .inl follows⟩
      · obtain ⟨events, way, follows⟩ := ih _ ran
        exact ⟨events, ⟨way.trace, way.state⟩, .inr follows⟩
  | observe sight next ih =>
      obtain ⟨events, way, follows⟩ := ih ran
      exact ⟨.sight sight :: events, (Leads.observe _ world sight).trans way, _, rfl, follows⟩
  | cancel next ih =>
      obtain ⟨events, way, follows⟩ := ih ran
      exact ⟨events, ⟨way.trace, way.state⟩, follows⟩
  | iterate step state next stepIh ih =>
      rw [run] at ran
      split at ran
      · rename_i outcome between repeated
        obtain ⟨first, way, rounds⟩ :=
          dialogue_repeatStep (fun stepped => stepIh _ stepped) repeated
        obtain ⟨rest, laterWay, follows⟩ := ih outcome ran
        exact way.staged rounds laterWay follows
      · cases ran

/-! ## What a session may show -/

/-- Some session with some server, at some time, shows these notes and ends with this outcome. -/
def Procedure.Shows (p : Procedure α) (notes : List Note) (outcome : Except Error α) : Prop :=
  ∃ (σ : Type) (runner : Runner σ) (clock : Clock) (server : σ) (after : World σ),
    p.run runner { clock, state := { server, trace := [] } } = (some outcome, after) ∧
      notes = Server.notes runner.server server after.state.trace

/-- What a session may show is a dialogue. -/
theorem Procedure.Shows.dialogue {p : Procedure α} {notes : List Note} {outcome : Except Error α}
    (shown : p.Shows notes outcome) : p.Dialogue notes outcome := by
  obtain ⟨σ, runner, clock, server, after, ran, rfl⟩ := shown
  obtain ⟨events, way, dialogue⟩ := dialogue_of_run ran
  rw [way.trace]
  exact dialogue

end ExpandContract.Session
