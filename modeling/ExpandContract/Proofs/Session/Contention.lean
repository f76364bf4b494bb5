import ExpandContract.Proofs.Session.Settling

/-!
# Servers that refuse locks for a while

`Server.contended` is a given server, the calm one, with other sessions in the way. A schedule tells
of one request after the other whether it is refused a lock before the calm server gets to see it.
Where a lock is refused inside a transaction, the calm server is put back to where it stood before
the transaction began, so that it answers the transaction as before when that is run again.

A session with the calm server and one with the contended server go along with each other. Where
both are `Level`, an attempt of the contended session is either a retreat (`Retreat`): a lock was
refused, the session is back where it was, and the schedule has become shorter. Or both attempts
have the same outcome, and the sessions advance to where they are level again (`Advance`). This is
`match_sendOnce` for a request and `match_transactOnce` for a transaction.
-/

set_option autoImplicit false

namespace ExpandContract

/-- Whether an error tells, at any depth, that a lock was refused. -/
def Error.mentionsRefusedLock : Error → Bool
  | .startFailed cause => cause.mentionsRefusedLock
  | .startNotUndone cause rollback => cause.mentionsRefusedLock || rollback.mentionsRefusedLock
  | error => error.isRefusedLock

namespace Session

open Time (Clock)

variable {σ α β : Type}

/-- The outcome does not mention a refused lock, and a value is as it is known to be. -/
def Faultless (known : α → Prop) : Except Error α → Prop
  | .ok value => known value
  | .error error => error.mentionsRefusedLock = false

/-! ## The contended server -/

/-- What a server says when a lock is not to be had in time. -/
def refusedLock (message : String) : ServerError :=
  { code := Error.refusedLockCode, message }

/-- Where a connection stands. The origin of a transaction is the state of the calm server before
it. -/
inductive Stand (σ : Type) where
  | outside
  | inside (origin : σ)
  /-- In a transaction in which a lock was refused. -/
  | refused (origin : σ)

/-- The state of a contended server. -/
structure Contended (σ : Type) where
  calm : σ
  /-- Of each request in turn, whether it is to be refused a lock. -/
  schedule : List Bool
  stand : Stand σ

namespace Contended

/-- The beginning of a session. -/
def start (calm : σ) (schedule : List Bool) : Contended σ :=
  { calm, schedule, stand := .outside }

/-- The state after a refused lock. A transaction that is not committed has had no effect. -/
def refuse (state : Contended σ) (part : Part) : Contended σ :=
  match state.stand, part with
  | .inside origin, .commits =>
      { calm := origin, schedule := state.schedule.tail, stand := .outside }
  | .inside origin, _ =>
      { state with schedule := state.schedule.tail, stand := .refused origin }
  | _, _ => { state with schedule := state.schedule.tail }

theorem refuse_outside {state : Contended σ} (outside : state.stand = .outside) (part : Part) :
    (state.refuse part).calm = state.calm ∧ (state.refuse part).stand = .outside := by
  simp [refuse, outside]

theorem refuse_works {state : Contended σ} {origin : σ} (inside : state.stand = .inside origin) :
    (state.refuse .works).stand = .refused origin := by
  simp [refuse, inside]

theorem refuse_commits {state : Contended σ} {origin : σ} (inside : state.stand = .inside origin) :
    (state.refuse .commits).calm = origin ∧ (state.refuse .commits).stand = .outside := by
  simp [refuse, inside]

/-- The stand after a request that the calm server has carried out or not. -/
def standAfter (state : Contended σ) (part : Part) (outcome : Except ServerError Answer) :
    Stand σ :=
  match part with
  | .opens => if outcome.isOk then .inside state.calm else .outside
  | .works => state.stand
  | .commits => .outside
  | .abandons => .outside

/-- The state after a request that the calm server has dealt with. -/
def proceed (state : Contended σ) (part : Part) (outcome : Except ServerError Answer)
    (calm : σ) : Contended σ :=
  { calm, schedule := state.schedule.tail, stand := state.standAfter part outcome }

end Contended

/-- A server that refuses locks as scheduled, and is like the calm one otherwise. Nobody is refused
to abandon a transaction, and nothing else is to be had in one in which a lock was refused. -/
def Server.contended (server : Server σ) (message : String) : Server (Contended σ) :=
  fun state request =>
    let refusal : Reply := { cancels := false, outcome := .error (refusedLock message) }
    match state.stand with
    | .refused origin =>
        if request.part = .abandons then
          ({ cancels := false, outcome := .ok { rows := [], affected := 0 } },
            { state with calm := origin, stand := .outside })
        else (refusal, state)
    | _ =>
        if request.part ≠ .abandons ∧ state.schedule.head? = some true then
          (refusal, state.refuse request.part)
        else
          let (reply, calm) := server state.calm request
          (reply, state.proceed request.part reply.outcome calm)

/-- A server that never cancels a session. -/
def Server.Steady (server : Server σ) : Prop :=
  ∀ state request, (server state request).1.cancels = false

/-! ## Notes on the way -/

/-- What is noted on the way from one world to another. -/
def Noted (server : Server σ) (before : World σ) (notes : List Note) (after : World σ) : Prop :=
  ∃ events, Leads server before events after ∧
    Server.notes server before.state.server events = notes

namespace Noted

variable {server : Server σ} {before between after : World σ} {first rest notes : List Note}

theorem refl (server : Server σ) (world : World σ) : Noted server world [] world :=
  ⟨[], .refl server world, rfl⟩

theorem trans (earlier : Noted server before first between)
    (later : Noted server between rest after) : Noted server before (first ++ rest) after := by
  obtain ⟨events, way, rfl⟩ := earlier
  obtain ⟨others, laterWay, rfl⟩ := later
  exact ⟨events ++ others, way.trans laterWay, way.notes_append others⟩

theorem withClock (noted : Noted server before notes after) (clock : Clock) :
    Noted server before notes { after with clock } := by
  obtain ⟨events, way, same⟩ := noted
  exact ⟨events, way.withClock clock, same⟩

theorem deliver (server : Server σ) (request : Request) (world : World σ) :
    Noted server world [.asked request (server world.state.server request).1.outcome]
      (Session.deliver server request world).2 :=
  ⟨[.request request], .deliver server request world, rfl⟩

theorem observe (server : Server σ) (world : World σ) (sight : Sight) :
    Noted server world [.seen sight] (world.observe (.sight sight)) :=
  ⟨[.sight sight], .observe server world sight, rfl⟩

end Noted

theorem deliver_snd_server (server : Server σ) (request : Request) (world : World σ) :
    (deliver server request world).2.state.server = (server world.state.server request).2 := rfl

theorem deliver_snd_clock {server : Server σ} {request : Request} {world : World σ}
    (stays : (server world.state.server request).1.cancels = false) :
    (deliver server request world).2.clock = world.clock := by
  simp [deliver, World.observe, stays]

/-! ## Level worlds -/

/-- The beginning of a session, at some time. -/
def World.at (clock : Clock) (server : σ) : World σ :=
  { clock, state := { server, trace := [] } }

/-- The sessions with the calm and with the contended server have come equally far. -/
structure Level (stand : Stand σ) (plain : World σ) (crowded : World (Contended σ)) : Prop where
  plainLive : plain.clock.cancelAt = none
  crowdedLive : crowded.clock.cancelAt = none
  calm : crowded.state.server.calm = plain.state.server
  stand : crowded.state.server.stand = stand

/-- At the beginning the sessions are level. -/
theorem Level.beginning {clock : Clock} (live : clock.cancelAt = none) (calm : σ)
    (schedule : List Bool) :
    Level .outside (World.at clock calm) (.at clock (.start calm schedule)) :=
  ⟨live, live, rfl, rfl⟩

/-- How many requests the schedule still speaks of. -/
abbrev World.scheduled (crowded : World (Contended σ)) : Nat :=
  crowded.state.server.schedule.length

variable {server : Server σ} {message : String} {stand : Stand σ} {plain : World σ}
  {crowded : World (Contended σ)}

/-- What the contended server does in a transaction in which no lock was refused, and outside of
transactions. -/
theorem contended_eq (server : Server σ) (message : String) {state : Contended σ}
    (sound : ∀ origin, state.stand ≠ .refused origin) (request : Request) :
    server.contended message state request =
      if request.part ≠ .abandons ∧ state.schedule.head? = some true then
        ({ cancels := false, outcome := .error (refusedLock message) },
          state.refuse request.part)
      else
        ((server state.calm request).1,
          state.proceed request.part (server state.calm request).1.outcome
            (server state.calm request).2) := by
  unfold Server.contended
  split
  · rename_i origin same
    exact absurd same (sound origin)
  · rfl

/-- A request is refused a lock as scheduled, and the session is where it was. -/
structure Refuses (server : Server σ) (message : String) (request : Request)
    (crowded after : World (Contended σ)) : Prop where
  delivered : deliver (server.contended message) request crowded =
    (.error (.server (refusedLock message)), after)
  live : after.clock = crowded.clock
  state : after.state.server = crowded.state.server.refuse request.part
  fewer : after.scheduled < crowded.scheduled
  noted : Noted (server.contended message) crowded [.asked request (.error (refusedLock message))]
    after

/-- A request gets the same reply in both sessions. -/
structure Passes (server : Server σ) (message : String) (request : Request)
    (reply : Except ServerError Answer) (plain plainAfter : World σ)
    (crowded after : World (Contended σ)) : Prop where
  plainDelivered : deliver server request plain = (reply.mapError .server, plainAfter)
  delivered : deliver (server.contended message) request crowded = (reply.mapError .server, after)
  level : Level (crowded.state.server.standAfter request.part reply) plainAfter after
  fewer : after.scheduled ≤ crowded.scheduled
  plainNoted : Noted server plain [.asked request reply] plainAfter
  noted : Noted (server.contended message) crowded [.asked request reply] after

/-- A request is refused a lock as scheduled, or it gets the same reply in both sessions. -/
theorem refuses_or_passes (message : String) (steady : server.Steady)
    (level : Level stand plain crowded) (sound : ∀ origin, stand ≠ .refused origin)
    (request : Request) :
    (request.part ≠ .abandons ∧ ∃ after, Refuses server message request crowded after) ∨
    ∃ reply plainAfter after,
      Passes server message request reply plain plainAfter crowded after := by
  have replied := contended_eq server message
    (fun origin same => sound origin (level.stand.symm.trans same)) request
  by_cases scheduled : request.part ≠ .abandons ∧ crowded.state.server.schedule.head? = some true
  · rw [if_pos scheduled] at replied
    refine .inl ⟨scheduled.1, (deliver (server.contended message) request crowded).2, ?_⟩
    refine { delivered := ?_, live := deliver_snd_clock (by rw [replied]), state := ?_, fewer := ?_
             noted := ?_ }
    · exact Prod.ext (by rw [deliver_fst, replied]; rfl) rfl
    · rw [deliver_snd_server, replied]
    · rw [World.scheduled, World.scheduled, deliver_snd_server, replied]
      obtain ⟨rest, split⟩ := List.head?_eq_some_iff.mp scheduled.2
      unfold Contended.refuse
      split <;> simp [split]
    · have noted := Noted.deliver (server.contended message) request crowded
      rwa [replied] at noted
  · rw [if_neg scheduled, level.calm] at replied
    refine .inr ⟨(server plain.state.server request).1.outcome, (deliver server request plain).2,
      (deliver (server.contended message) request crowded).2, ?_⟩
    refine { plainDelivered := rfl, delivered := ?_, level := ?_, fewer := ?_
             plainNoted := .deliver server request plain, noted := ?_ }
    · exact Prod.ext (by rw [deliver_fst, replied]) rfl
    · refine ⟨?_, ?_, ?_, ?_⟩
      · rw [deliver_snd_clock (steady _ _), level.plainLive]
      · rw [deliver_snd_clock (by rw [replied]; exact steady _ _), level.crowdedLive]
      · rw [deliver_snd_server, replied]
        rfl
      · rw [deliver_snd_server, replied]
        rfl
    · rw [World.scheduled, World.scheduled, deliver_snd_server, replied]
      exact Nat.le_trans (Nat.le_of_eq List.length_tail) (Nat.sub_le ..)
    · have noted := Noted.deliver (server.contended message) request crowded
      rwa [replied] at noted

theorem mapError_ok (answer : Answer) :
    (Except.ok answer : Except ServerError Answer).mapError DatabaseError.server = .ok answer :=
  rfl

theorem mapError_error (cause : ServerError) :
    (Except.error cause : Except ServerError Answer).mapError DatabaseError.server =
      .error (.server cause) :=
  rfl

/-! ## Attempts -/

/-- The contended session is back where it was, after a refused lock. -/
structure Retreat (server : Server σ) (message : String) (plain : World σ)
    (crowded after : World (Contended σ)) : Prop where
  level : Level .outside plain after
  fewer : after.scheduled < crowded.scheduled
  struck : ∃ notes, Noted (server.contended message) crowded notes after ∧ Settles notes []

/-- Time may pass after a retreat. -/
theorem Retreat.withClock {after : World (Contended σ)} {clock : Clock}
    (retreat : Retreat server message plain crowded after) (live : clock.cancelAt = none) :
    Retreat server message plain crowded { after with clock } := by
  obtain ⟨⟨plainLive, _, calm, stand⟩, fewer, _, way, struck⟩ := retreat
  exact ⟨⟨plainLive, live, calm, stand⟩, fewer, _, way.withClock _, struck⟩

/-- Both sessions go on, and what is noted of them is settled alike. -/
structure Advance (server : Server σ) (message : String) (plain plainAfter : World σ)
    (crowded after : World (Contended σ)) : Prop where
  level : Level .outside plainAfter after
  fewer : after.scheduled ≤ crowded.scheduled
  alike : ∃ plainNotes notes kept, Noted server plain plainNotes plainAfter ∧
    Noted (server.contended message) crowded notes after ∧
    Settles plainNotes kept ∧ Settles notes kept

namespace Advance

variable {plainBetween plainAfter : World σ} {between after : World (Contended σ)}

theorem refl (level : Level .outside plain crowded) :
    Advance server message plain plain crowded crowded :=
  ⟨level, (Nat.le_refl _), [], [], [], .refl _ _, .refl _ _, .nil, .nil⟩

theorem trans (earlier : Advance server message plain plainBetween crowded between)
    (later : Advance server message plainBetween plainAfter between after) :
    Advance server message plain plainAfter crowded after := by
  obtain ⟨_, fewer, _, _, _, plainWay, way, plainKept, kept⟩ := earlier
  obtain ⟨level, fewerLater, _, _, _, plainLater, wayLater, plainKeptLater, keptLater⟩ := later
  exact ⟨level, Nat.le_trans fewerLater fewer, _, _, _, plainWay.trans plainLater,
    way.trans wayLater, plainKept.append plainKeptLater, kept.append keptLater⟩

/-- An attempt that is struck out before another changes nothing. -/
theorem after_retreat (retreat : Retreat server message plain crowded between)
    (later : Advance server message plain plainAfter between after) :
    Advance server message plain plainAfter crowded after := by
  obtain ⟨_, fewer, _, way, struck⟩ := retreat
  obtain ⟨level, fewerLater, _, _, _, plainLater, wayLater, plainKept, kept⟩ := later
  exact ⟨level, Nat.le_trans fewerLater (Nat.le_of_lt fewer), _, _, _, plainLater,
    way.trans wayLater, plainKept, struck.append kept⟩

/-- Time may pass in both sessions. -/
theorem withClocks (advance : Advance server message plain plainAfter crowded after)
    {plainClock clock : Clock} (plainLive : plainClock.cancelAt = none)
    (live : clock.cancelAt = none) :
    Advance server message plain { plainAfter with clock := plainClock } crowded
      { after with clock } := by
  obtain ⟨⟨_, _, calm, stand⟩, fewer, _, _, _, plainWay, way, plainKept, kept⟩ := advance
  exact ⟨⟨plainLive, live, calm, stand⟩, fewer, _, _, _, plainWay.withClock _, way.withClock _,
    plainKept, kept⟩

end Advance

/-- Attempts of the two sessions: the contended one retreats with a refused lock, or both have the
same outcome. An error then tells at its surface whether a lock was refused. -/
inductive Matched (server : Server σ) (message : String) (plain : World σ)
    (crowded : World (Contended σ)) :
    Except Error α × World σ → Except Error α × World (Contended σ) → Prop where
  | retreat {result : Except Error α × World σ} {after : World (Contended σ)}
      (retreat : Retreat server message plain crowded after) :
      Matched server message plain crowded result
        (.error (.database (.server (refusedLock message))), after)
  | advance {outcome : Except Error α} {plainAfter : World σ} {after : World (Contended σ)}
      (advance : Advance server message plain plainAfter crowded after)
      (surface : ∀ error, outcome = .error error →
        error.mentionsRefusedLock = error.isRefusedLock) :
      Matched server message plain crowded (outcome, plainAfter) (outcome, after)

/-! ## Requests -/

theorem Request.isOpening_note {request : Request} (works : request.part = .works)
    (reply : Except ServerError Answer) : (Note.asked request reply).isOpening = false := by
  cases request with
  | begin => cases works
  | _ => cases reply <;> rfl

/-- A request outside of transactions. -/
theorem match_sendOnce (steady : server.Steady) {request : Request} (works : request.part = .works)
    (level : Level .outside plain crowded) :
    Matched server message plain crowded (sendOnce server request plain)
      (sendOnce (server.contended message) request crowded) := by
  have closed := Request.isOpening_note works
  unfold sendOnce
  rcases refuses_or_passes message steady level (by rintro _ ⟨⟩) request with
    ⟨_, after, refused⟩ | ⟨reply, plainAfter, after, passed⟩
  · rw [refused.delivered]
    obtain ⟨calm, stand⟩ := Contended.refuse_outside level.stand request.part
    exact .retreat ⟨⟨level.plainLive, refused.live ▸ level.crowdedLive,
      (refused.state ▸ calm).trans level.calm, refused.state ▸ stand⟩, refused.fewer, _,
      refused.noted, Settles.single (closed _)⟩
  · rw [passed.plainDelivered, passed.delivered]
    refine .advance ⟨?_, passed.fewer, _, _, _, passed.plainNoted, passed.noted,
      Settles.single (closed _), Settles.single (closed _)⟩ ?_
    · have onward := passed.level
      rwa [works, Contended.standAfter, level.stand] at onward
    · rintro error failed
      cases reply with
      | ok answer => cases failed
      | error cause =>
          cases failed
          rfl

/-! ## Transactions -/

/-- A body that only works inside its transaction, fails with a request that fails, and with no
other refused lock. -/
def Transaction.Orderly : Transaction α → Prop
  | .done _ => True
  | .fail error => error.mentionsRefusedLock = false
  | .send request next =>
      request.part = .works ∧ (∀ cause, next (.error cause) = .fail (.database cause)) ∧
        ∀ answer, (next (.ok answer)).Orderly

namespace Transaction.Orderly

theorem call {request : Request} (works : request.part = .works) :
    (Transaction.call request).Orderly :=
  ⟨works, fun _ => rfl, fun _ => trivial⟩

theorem ofExcept {value : Except Error α} (faultless : Faultless (fun _ => True) value) :
    (Transaction.ofExcept value).Orderly := by
  cases value with
  | ok value => exact trivial
  | error error => exact faultless

theorem bind {body : Transaction α} {f : α → Transaction β} (first : body.Orderly)
    (rest : ∀ value, (f value).Orderly) : (body.bind f).Orderly := by
  induction body with
  | done value => exact rest value
  | fail error => exact first
  | send request next ih =>
      obtain ⟨works, fails, follows⟩ := first
      refine ⟨works, fun cause => ?_, fun answer => ih _ (follows answer)⟩
      dsimp only
      rw [fails]
      rfl

end Transaction.Orderly

/-- The body of a transaction in the two sessions. -/
inductive BodyMatched (server : Server σ) (message : String) (origin : σ) (plain : World σ)
    (crowded : World (Contended σ)) :
    Except Error α × World σ → Except Error α × World (Contended σ) → Prop where
  | refused {result : Except Error α × World σ} {after : World (Contended σ)} {inside : List Note}
      (live : after.clock.cancelAt = none) (stand : after.state.server.stand = .refused origin)
      (fewer : after.scheduled < crowded.scheduled)
      (noted : Noted (server.contended message) crowded inside after)
      (works : ∀ note ∈ inside, note.part = .works) (ends : endsRefused inside = true) :
      BodyMatched server message origin plain crowded result
        (.error (.database (.server (refusedLock message))), after)
  | same {outcome : Except Error α} {plainAfter : World σ} {after : World (Contended σ)}
      {inside : List Note} (level : Level (.inside origin) plainAfter after)
      (fewer : after.scheduled ≤ crowded.scheduled)
      (plainNoted : Noted server plain inside plainAfter)
      (noted : Noted (server.contended message) crowded inside after)
      (works : ∀ note ∈ inside, note.part = .works)
      (surface : ∀ error, outcome = .error error →
        error.mentionsRefusedLock = error.isRefusedLock) :
      BodyMatched server message origin plain crowded (outcome, plainAfter) (outcome, after)

theorem isRefusedLock_of_not_mentions {error : Error}
    (granted : error.mentionsRefusedLock = false) :
    error.isRefusedLock = false := by
  cases error with
  | startFailed cause => rfl
  | startNotUndone cause rollback => rfl
  | _ => exact granted

/-- A body is refused a lock at some request and ends there, or it runs in both sessions alike. -/
theorem match_body (message : String) (steady : server.Steady) {body : Transaction α}
    (orderly : body.Orderly) {origin : σ} (level : Level (.inside origin) plain crowded) :
    BodyMatched server message origin plain crowded (body.run server plain)
      (body.run (server.contended message) crowded) := by
  induction body generalizing plain crowded with
  | done value =>
      exact .same level (Nat.le_refl _) (.refl _ _) (.refl _ _) (by simp) (by rintro _ ⟨⟩)
  | fail error =>
      refine .same level (Nat.le_refl _) (.refl _ _) (.refl _ _) (by simp) ?_
      rintro _ ⟨⟩
      exact Eq.trans orderly (isRefusedLock_of_not_mentions orderly).symm
  | send request next ih =>
      obtain ⟨works, fails, follows⟩ := orderly
      rw [Transaction.run, Transaction.run]
      rcases refuses_or_passes message steady level (by rintro _ ⟨⟩) request with
        ⟨_, after, refused⟩ | ⟨reply, plainAfter, after, passed⟩
      · simp only [refused.delivered, fails]
        refine .refused (refused.live ▸ level.crowdedLive) ?_ refused.fewer refused.noted ?_ rfl
        · rw [refused.state, works, Contended.refuse_works level.stand]
        · simpa [Note.part] using works
      · have onward : Level (.inside origin) plainAfter after := by
          have onward := passed.level
          rwa [works, Contended.standAfter, level.stand] at onward
        have first : ∀ note ∈ [Note.asked request reply], note.part = .works := by
          simpa [Note.part] using works
        simp only [passed.plainDelivered, passed.delivered]
        cases reply with
        | error cause =>
            rw [mapError_error, fails]
            refine .same onward passed.fewer passed.plainNoted passed.noted first ?_
            rintro _ ⟨⟩
            rfl
        | ok answer =>
            rw [mapError_ok]
            rcases ran : (next (.ok answer)).run server plainAfter with ⟨outcome, plainLast⟩
            rcases ranCrowded : (next (.ok answer)).run (server.contended message) after with
              ⟨crowdedOutcome, last⟩
            have rest := ih (.ok answer) (follows answer) onward
            rw [ran, ranCrowded] at rest
            cases rest with
            | refused live stand fewer noted others ends =>
                exact .refused live stand (Nat.lt_of_lt_of_le fewer passed.fewer)
                  (passed.noted.trans noted) (List.forall_mem_append.mpr ⟨first, others⟩)
                  (endsRefused_append _ ends)
            | same level fewer plainNoted noted others surface =>
                exact .same level (Nat.le_trans fewer passed.fewer)
                  (passed.plainNoted.trans plainNoted) (passed.noted.trans noted)
                  (List.forall_mem_append.mpr ⟨first, others⟩) surface

/-- Where a transaction stands whose body has run in both sessions alike. -/
structure Underway (server : Server σ) (message : String) (plain plainNow : World σ)
    (crowded now : World (Contended σ)) (opening : Note) (inside : List Note) : Prop where
  began : Level .outside plain crowded
  level : Level (.inside plain.state.server) plainNow now
  fewer : now.scheduled ≤ crowded.scheduled
  opens : opening.isOpening = true
  works : ∀ note ∈ inside, note.part = .works
  plainNoted : Noted server plain (opening :: inside) plainNow
  noted : Noted (server.contended message) crowded (opening :: inside) now

namespace Underway

variable {plainNow : World σ} {now : World (Contended σ)} {opening : Note} {inside : List Note}

/-- The transaction ends alike in both sessions. -/
theorem passes (underway : Underway server message plain plainNow crowded now opening inside)
    {request : Request} {reply : Except ServerError Answer} {plainAfter : World σ}
    {after : World (Contended σ)} (closes : request.part = .commits ∨ request.part = .abandons)
    (passed : Passes server message request reply plainNow plainAfter now after) :
    Advance server message plain plainAfter crowded after := by
  obtain ⟨_, _, fewer, opens, works, plainNoted, noted⟩ := underway
  have settles := Settles.transaction (.asked request reply) opens works closes
  have outside : now.state.server.standAfter request.part reply = .outside := by
    rcases closes with part | part <;> rw [part] <;> rfl
  exact ⟨outside ▸ passed.level, Nat.le_trans passed.fewer fewer, _, _, _,
    plainNoted.trans passed.plainNoted, noted.trans passed.noted, settles, settles⟩

/-- A transaction that is rolled back because its body fails. -/
theorem rollback (underway : Underway server message plain plainNow crowded now opening inside)
    (steady : server.Steady) :
    Advance server message plain (deliver server .rollback plainNow).2 crowded
      (deliver (server.contended message) .rollback now).2 := by
  rcases refuses_or_passes message steady underway.level (by rintro _ ⟨⟩) .rollback with
    ⟨impossible, _⟩ | ⟨reply, plainAfter, after, passed⟩
  · exact absurd rfl impossible
  · rw [passed.plainDelivered, passed.delivered]
    exact underway.passes (.inr rfl) passed

/-- A transaction that is to be committed: a lock is refused and everything is undone, or it ends
alike in both sessions. -/
theorem commit (underway : Underway server message plain plainNow crowded now opening inside)
    (steady : server.Steady) :
    (∃ after, deliver (server.contended message) .commit now =
        (.error (.server (refusedLock message)), after) ∧
      Retreat server message plain crowded after) ∨
    ∃ reply plainAfter after, Passes server message .commit reply plainNow plainAfter now after ∧
      Advance server message plain plainAfter crowded after := by
  rcases refuses_or_passes message steady underway.level (by rintro _ ⟨⟩) .commit with
    ⟨_, after, refused⟩ | ⟨reply, plainAfter, after, passed⟩
  · refine .inl ⟨after, refused.delivered, ?_⟩
    obtain ⟨calm, stand⟩ := Contended.refuse_commits underway.level.stand
    have struck := Settles.transaction (.asked .commit (.error (refusedLock message)))
      underway.opens underway.works (.inl rfl)
    rw [if_pos (.inl ⟨rfl, rfl⟩)] at struck
    exact ⟨⟨underway.began.plainLive, refused.live ▸ underway.level.crowdedLive,
      refused.state ▸ calm, refused.state ▸ stand⟩,
      Nat.lt_of_lt_of_le refused.fewer underway.fewer, _, underway.noted.trans refused.noted,
      struck⟩
  · exact .inr ⟨reply, plainAfter, after, passed, underway.passes (.inl rfl) passed⟩

end Underway

/-- In a transaction in which a lock was refused, the session goes back to where it began. -/
theorem retreat_rollback {now : World (Contended σ)} {opening : Note} {inside : List Note}
    (plainLive : plain.clock.cancelAt = none) (live : now.clock.cancelAt = none)
    (stand : now.state.server.stand = .refused plain.state.server)
    (fewer : now.scheduled < crowded.scheduled) (opens : opening.isOpening = true)
    (works : ∀ note ∈ inside, note.part = .works) (ends : endsRefused inside = true)
    (noted : Noted (server.contended message) crowded (opening :: inside) now) :
    Retreat server message plain crowded (deliver (server.contended message) .rollback now).2 := by
  have replied : server.contended message now.state.server .rollback =
      ({ cancels := false, outcome := .ok { rows := [], affected := 0 } },
        { now.state.server with calm := plain.state.server, stand := .outside }) := by
    unfold Server.contended
    rw [stand]
    rfl
  have closing := Noted.deliver (server.contended message) .rollback now
  have struck := Settles.transaction
    (.asked .rollback (server.contended message now.state.server .rollback).1.outcome) opens works
    (.inr rfl)
  rw [if_pos (.inr ⟨rfl, endsRefused_append [opening] ends⟩)] at struck
  refine ⟨⟨plainLive, ?_, ?_, ?_⟩, ?_, _, noted.trans closing, struck⟩
  · rw [deliver_snd_clock (by rw [replied]), live]
  · rw [deliver_snd_server, replied]
  · rw [deliver_snd_server, replied]
  · rw [World.scheduled, deliver_snd_server, replied]
    exact fewer

/-- A transaction. -/
theorem match_transactOnce (steady : server.Steady) {body : Transaction α} (orderly : body.Orderly)
    (level : Level .outside plain crowded) :
    Matched server message plain crowded (transactOnce server body plain)
      (transactOnce (server.contended message) body crowded) := by
  unfold transactOnce
  rcases refuses_or_passes message steady level (by rintro _ ⟨⟩) .begin with
    ⟨_, opened, refused⟩ | ⟨reply, plainOpened, opened, begun⟩
  · rw [refused.delivered]
    obtain ⟨calm, stand⟩ := Contended.refuse_outside level.stand .opens
    exact .retreat ⟨⟨level.plainLive, refused.live ▸ level.crowdedLive,
      (refused.state ▸ calm).trans level.calm, refused.state ▸ stand⟩, refused.fewer, _,
      refused.noted, Settles.single rfl⟩
  rw [begun.plainDelivered, begun.delivered]
  cases reply with
  | error cause =>
      refine .advance ⟨begun.level, begun.fewer, _, _, _, begun.plainNoted, begun.noted,
        Settles.single rfl, Settles.single rfl⟩ ?_
      rintro _ ⟨⟩
      rfl
  | ok answer =>
      have within : Level (.inside plain.state.server) plainOpened opened :=
        level.calm ▸ begun.level
      have bodies := match_body message steady orderly within
      simp only [mapError_ok]
      generalize body.run server plainOpened = plainResult at bodies ⊢
      generalize body.run (server.contended message) opened = result at bodies ⊢
      cases bodies with
      | refused live stand fewer noted works ends =>
          exact .retreat (retreat_rollback level.plainLive live stand
            (Nat.lt_of_lt_of_le fewer begun.fewer) rfl works ends (begun.noted.trans noted))
      | @same outcome plainNow now _ inner fewer plainNoted noted works surface =>
          have underway : Underway server message plain plainNow crowded now
              (.asked .begin (.ok answer)) _ :=
            ⟨level, inner, Nat.le_trans fewer begun.fewer, rfl, works,
              begun.plainNoted.trans plainNoted, begun.noted.trans noted⟩
          cases outcome with
          | error error => exact .advance (underway.rollback steady) surface
          | ok value =>
              rcases underway.commit steady with
                ⟨after, delivered, retreat⟩ | ⟨reply, plainAfter, after, passed, advance⟩
              · simp only [delivered]
                exact .retreat retreat
              · simp only [passed.plainDelivered, passed.delivered]
                cases reply with
                | ok done => exact .advance advance (by rintro _ ⟨⟩)
                | error cause =>
                    refine .advance advance ?_
                    rintro _ ⟨⟩
                    rfl

end Session

end ExpandContract
