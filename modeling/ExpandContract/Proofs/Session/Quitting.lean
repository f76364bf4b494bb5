import ExpandContract.Proofs.Session.Orderly

/-!
# Cancelled sessions

A session may be cancelled while the server works on a request. The request is then still answered,
and if a transaction is open the transaction is still brought to its end. Nothing else is sent.

`Quits` says this of the events between two worlds, and `Halts` adds that nothing at all is sent in
a session that is cancelled already. Both can be put together from parts, because a session that is
cancelled stays so (`Passage`). Every orderly procedure halts, with any server, at any time, and
whether or not it comes to an end (`OrderlyWith.halts`). This needs delays that are not empty: an
empty delay is over at once, and may be found to have passed although the session is cancelled.
-/

set_option autoImplicit false

namespace ExpandContract

/-! ## Clocks -/

namespace Time

variable {clock : Clock} {delay : Duration}

namespace Clock

theorem isCancelled_eq_true :
    clock.isCancelled = true ↔ ∃ instant, clock.cancelAt = some instant ∧ instant ≤ clock.now := by
  unfold isCancelled
  cases clock.cancelAt with
  | none => simp
  | some instant => simp

/-- A session that has been cancelled is cancelled. -/
theorem isCancelled_cancel (clock : Clock) : clock.cancel.isCancelled = true := by
  refine isCancelled_eq_true.mpr ⟨_, rfl, ?_⟩
  cases clock.cancelAt with
  | none => exact Nat.le_refl _
  | some instant => exact Nat.min_le_right _ _

end Clock

namespace Timer

/-- A session that is cancelled stays so during a delay. -/
theorem isCancelled_wait (timer : Timer) (delay : Duration) (cancelled : clock.isCancelled = true) :
    (timer.wait clock delay).2.isCancelled = true := by
  obtain ⟨instant, planned, passed⟩ := Clock.isCancelled_eq_true.mp cancelled
  exact Clock.isCancelled_eq_true.mpr ⟨instant, (timer.cancelAt_wait clock delay).trans planned,
    Nat.le_trans passed (timer.now_le_wait clock delay)⟩

/-- No delay passes that begins in a cancelled session, unless it is empty. -/
theorem wait_of_isCancelled (timer : Timer) (cancelled : clock.isCancelled = true)
    (lasting : 0 < delay.nanos) : (timer.wait clock delay).1 = false := by
  obtain ⟨instant, planned, passed⟩ := Clock.isCancelled_eq_true.mp cancelled
  have late := timer.le_wake clock delay
  have early : max clock.now instant < timer.wake clock delay := by omega
  simp [wait, planned, early]

end Timer

end Time

namespace Session

open Time (Backoff Clock Timer)

variable {σ α β τ : Type}

/-! ## Events -/

/-- The requests among some events. -/
def requests (events : List Event) : List Request :=
  events.filterMap fun
    | .request request => some request
    | .sight _ => none

theorem requests_append (first rest : List Event) :
    requests (first ++ rest) = requests first ++ requests rest :=
  List.filterMap_append

@[simp]
theorem requests_nil : requests [] = [] := rfl

@[simp]
theorem requests_request (request : Request) (rest : List Event) :
    requests (.request request :: rest) = request :: requests rest := rfl

@[simp]
theorem requests_sight (sight : Sight) (rest : List Event) :
    requests (.sight sight :: rest) = requests rest := rfl

/-- Whether a transaction is open after a note, where one was open before it or not. -/
def Note.leavesOpen (begun : Bool) (note : Note) : Bool :=
  match note.part with
  | .works => begun
  | .opens => begun || note.isOpening
  | .commits => false
  | .abandons => false

/-- Whether a transaction is open after some notes. -/
def transactionOpen (notes : List Note) : Bool :=
  notes.foldl Note.leavesOpen false

/-- Notes behind which no transaction is open leave no mark on what follows. -/
theorem transactionOpen_append {first : List Note} (closed : transactionOpen first = false)
    (rest : List Note) : transactionOpen (first ++ rest) = transactionOpen rest := by
  unfold transactionOpen at closed ⊢
  rw [List.foldl_append, closed]

/-- What only works inside a transaction leaves it open. -/
theorem foldl_leavesOpen_of_works (server : Server σ) {state : σ} {events : List Event}
    (works : ∀ request ∈ requests events, request.part = .works) (begun : Bool) :
    (Server.notes server state events).foldl Note.leavesOpen begun = begun := by
  induction events generalizing state with
  | nil => rfl
  | cons event rest ih =>
      cases event with
      | request request =>
          have first : request.part = .works := works request List.mem_cons_self
          rw [Server.notes, List.foldl_cons, Note.leavesOpen, Note.part, first]
          exact ih fun other member => works other (List.mem_cons_of_mem _ member)
      | sight sight =>
          rw [Server.notes, List.foldl_cons]
          exact ih works

/-- Whether the server cancels the session while it works on a request behind some events. -/
def Server.CancelsAt (server : Server σ) (state : σ) (before : List Event) (request : Request) :
    Prop :=
  (server (Server.after server state before) request).1.cancels = true

/-- Behind events that lead elsewhere, the server cancels the session as it does there. -/
theorem Leads.cancelsAt_append {server : Server σ} {before between : World σ} {first : List Event}
    (earlier : Leads server before first between) (rest : List Event) (request : Request) :
    server.CancelsAt before.state.server (first ++ rest) request ↔
      server.CancelsAt between.state.server rest request := by
  unfold Server.CancelsAt
  rw [Server.after_append, earlier.state]

/-- What may still be sent when the session is cancelled: the rest of the open transaction, if there
is one. -/
def EndsTransaction (begun : Bool) (rest : List Event) : Prop :=
  if begun then ∃ inside closing, requests rest = inside ++ [closing] ∧
    (∀ request ∈ inside, request.part = .works) ∧
      (closing.part = .commits ∨ closing.part = .abandons)
  else requests rest = []

theorem EndsTransaction.append {begun : Bool} {first rest : List Event}
    (ends : EndsTransaction begun first) (silent : requests rest = []) :
    EndsTransaction begun (first ++ rest) := by
  unfold EndsTransaction at ends ⊢
  rw [requests_append, silent, List.append_nil]
  exact ends

/-! ## Passages -/

/-- The events on the way from one world to another; a session that is cancelled stays so. -/
structure Passage (server : Server σ) (before : World σ) (events : List Event) (after : World σ) :
    Prop extends Leads server before events after where
  stays : before.clock.isCancelled = true → after.clock.isCancelled = true
  cancelled : ∀ early request late, events = early ++ .request request :: late →
    server.CancelsAt before.state.server early request → after.clock.isCancelled = true

namespace Passage

variable {server : Server σ} {before between after : World σ} {first rest events : List Event}

theorem refl (server : Server σ) (world : World σ) : Passage server world [] world where
  toLeads := .refl server world
  stays := id
  cancelled early request late split := absurd split (by simp)

theorem trans (earlier : Passage server before first between)
    (later : Passage server between rest after) : Passage server before (first ++ rest) after where
  toLeads := earlier.toLeads.trans later.toLeads
  stays cancelled := later.stays (earlier.stays cancelled)
  cancelled early request late split cancels := by
    rcases split_around split with ⟨middle, rfl, rfl⟩ | ⟨middle, rfl, rfl⟩
    · exact later.cancelled middle request late rfl ((earlier.cancelsAt_append _ _).mp cancels)
    · exact later.stays (earlier.cancelled early request middle rfl cancels)

theorem deliver (server : Server σ) (request : Request) (world : World σ) :
    Passage server world [.request request] (Session.deliver server request world).2 where
  toLeads := .deliver server request world
  stays cancelled := by
    change (if (server world.state.server request).1.cancels then world.clock.cancel
      else world.clock).isCancelled = true
    split
    · exact world.clock.isCancelled_cancel
    · exact cancelled
  cancelled early other late split cancels := by
    cases early with
    | nil =>
        cases split
        change (if (server world.state.server request).1.cancels then world.clock.cancel
          else world.clock).isCancelled = true
        rw [if_pos (show (server world.state.server request).1.cancels = true from cancels)]
        exact world.clock.isCancelled_cancel
    | cons event early => exact absurd (List.cons.inj split).2 (by simp)

/-- Time may pass, if it does not undo that the session is cancelled. -/
theorem withClock (passage : Passage server before events after) {clock : Clock}
    (stays : after.clock.isCancelled = true → clock.isCancelled = true) :
    Passage server before events { after with clock } where
  toLeads := passage.toLeads.withClock clock
  stays cancelled := stays (passage.stays cancelled)
  cancelled early request late split cancels :=
    stays (passage.cancelled early request late split cancels)

end Passage

/-! ## Quitting -/

/-- The events on the way from one world to another. No transaction is open behind them, and once
the session is cancelled nothing is sent but the rest of the transaction that is open. -/
structure Quits (server : Server σ) (before : World σ) (events : List Event) (after : World σ) :
    Prop extends Passage server before events after where
  closed : transactionOpen (Server.notes server before.state.server events) = false
  ends : ∀ early request late, events = early ++ .request request :: late →
    server.CancelsAt before.state.server early request →
      EndsTransaction
        (transactionOpen
          (Server.notes server before.state.server (early ++ [.request request]))) late

namespace Quits

variable {server : Server σ} {before between after : World σ} {first rest events : List Event}

theorem refl (server : Server σ) (world : World σ) : Quits server world [] world where
  toPassage := .refl server world
  closed := rfl
  ends early request late split := absurd split (by simp)

/-- What follows must send nothing if the server has cancelled the session by then. -/
theorem trans_of_cancels (earlier : Quits server before first between)
    (later : Quits server between rest after)
    (silent : ∀ early request late, first = early ++ .request request :: late →
      server.CancelsAt before.state.server early request → requests rest = []) :
    Quits server before (first ++ rest) after where
  toPassage := earlier.toPassage.trans later.toPassage
  closed := by
    rw [earlier.notes_append, transactionOpen_append earlier.closed]
    exact later.closed
  ends early request late split cancels := by
    rcases split_around split with ⟨middle, rfl, rfl⟩ | ⟨middle, rfl, rfl⟩
    · rw [List.append_assoc, earlier.notes_append, transactionOpen_append earlier.closed]
      exact later.ends middle request late rfl ((earlier.cancelsAt_append _ _).mp cancels)
    · exact (earlier.ends early request middle rfl cancels).append
        (silent early request middle rfl cancels)

/-- What follows must send nothing if the session is cancelled by then. -/
theorem trans (earlier : Quits server before first between)
    (later : Quits server between rest after)
    (silent : between.clock.isCancelled = true → requests rest = []) :
    Quits server before (first ++ rest) after :=
  earlier.trans_of_cancels later fun early request late split cancels =>
    silent (earlier.cancelled early request late split cancels)

theorem withClock (quits : Quits server before events after) (clock : Clock)
    (stays : after.clock.isCancelled = true → clock.isCancelled = true) :
    Quits server before events { after with clock } where
  toPassage := quits.toPassage.withClock stays
  closed := quits.closed
  ends := quits.ends

theorem observe (server : Server σ) (world : World σ) (sight : Sight) :
    Quits server world [.sight sight] (world.observe (.sight sight)) where
  toLeads := .observe server world sight
  stays := id
  cancelled early request late split := by
    cases early with
    | nil => cases split
    | cons event early => exact absurd (List.cons.inj split).2 (by simp)
  closed := rfl
  ends early request late split := by
    cases early with
    | nil => cases split
    | cons event early => exact absurd (List.cons.inj split).2 (by simp)

/-- A request outside of transactions. -/
theorem sendOnce (server : Server σ) {request : Request} (works : request.part = .works)
    (world : World σ) :
    Quits server world [.request request] (sendOnce server request world).2 where
  toPassage := .deliver server request world
  closed := foldl_leavesOpen_of_works server (by simpa using works) false
  ends early other late split cancels := by
    cases early with
    | nil =>
        cases split
        have closed : (Server.notes server world.state.server [.request request]).foldl
            Note.leavesOpen false = false :=
          foldl_leavesOpen_of_works server (by simpa using works) false
        change EndsTransaction ((Server.notes server _ [.request request]).foldl _ false) []
        rw [closed]
        rfl
    | cons event early => exact absurd (List.cons.inj split).2 (by simp)

/-- A transaction that has begun stays open while it works. -/
theorem transactionOpen_of_begun {state : σ} {answer : Answer} {inside : List Event}
    (begun : (server state .begin).1.outcome = .ok answer)
    (works : ∀ request ∈ requests inside, request.part = .works) :
    transactionOpen (Server.notes server state (.request .begin :: inside)) = true := by
  unfold transactionOpen
  rw [Server.notes, List.foldl_cons, begun]
  exact foldl_leavesOpen_of_works server works true

/-- It is not open behind the request that ends it. -/
theorem transactionOpen_of_closing {state : σ} (events : List Event) {closing : Request}
    (closes : closing.part = .commits ∨ closing.part = .abandons) :
    transactionOpen (Server.notes server state (events ++ [.request closing])) = false := by
  unfold transactionOpen
  rw [Server.notes_append, List.foldl_append]
  change Note.leavesOpen _ (.asked closing _) = false
  have part (reply : Except ServerError Answer) :
      (Note.asked closing reply).part = closing.part := rfl
  rw [Note.leavesOpen, part]
  rcases closes with commits | abandons
  · rw [commits]
  · rw [abandons]

/-- A transaction that has begun is brought to its end from each of its requests on. -/
theorem transaction {inside : List Event} {closing : Request} {answer : Answer}
    (passage : Passage server before (.request .begin :: inside ++ [.request closing]) after)
    (begun : (server before.state.server .begin).1.outcome = .ok answer)
    (works : ∀ request ∈ requests inside, request.part = .works)
    (closes : closing.part = .commits ∨ closing.part = .abandons) :
    Quits server before (.request .begin :: inside ++ [.request closing]) after where
  toPassage := passage
  closed := transactionOpen_of_closing _ closes
  ends early request late split _ := by
    rcases split_around split with ⟨between, rfl, same⟩ | ⟨between, same, rfl⟩
    · -- The session is cancelled while the server ends the transaction.
      cases between with
      | nil =>
          cases same
          rw [List.append_nil, transactionOpen_of_closing _ closes]
          rfl
      | cons event between => exact absurd (List.cons.inj same).2 (by simp)
    · obtain ⟨done, begins, rfl⟩ : ∃ done, early ++ [.request request] = .request .begin :: done ∧
          inside = done ++ between := by
        cases early with
        | nil =>
            cases same
            exact ⟨[], rfl, rfl⟩
        | cons event early =>
            obtain ⟨rfl, rfl⟩ := List.cons.inj same
            exact ⟨early ++ [.request request], rfl, by simp⟩
      rw [requests_append] at works
      rw [begins, transactionOpen_of_begun begun fun other member =>
        works other (List.mem_append_left _ member)]
      refine ⟨requests between, closing, ?_, ?_, closes⟩
      · rw [requests_append]
        rfl
      · exact fun other member => works other (List.mem_append_right _ member)

end Quits

/-- What a body of a transaction sends. -/
theorem Transaction.Orderly.passage (server : Server σ) {body : Transaction α}
    (orderly : body.Orderly) (world : World σ) :
    ∃ inside, Passage server world inside (body.run server world).2 ∧
      ∀ request ∈ requests inside, request.part = .works := by
  induction body generalizing world with
  | done value => exact ⟨[], .refl server world, by simp⟩
  | fail error => exact ⟨[], .refl server world, by simp⟩
  | send request next ih =>
      obtain ⟨works, fails, follows⟩ := orderly
      have passage := Passage.deliver server request world
      rcases delivered : deliver server request world with ⟨cause | answer, left⟩
      · rw [delivered] at passage
        rw [run, delivered]
        dsimp only
        rw [fails]
        exact ⟨_, passage, by simpa using works⟩
      · rw [delivered] at passage
        obtain ⟨inside, onward, others⟩ := ih _ (follows answer) left
        rw [run, delivered]
        exact ⟨_, passage.trans onward, by simpa using ⟨works, others⟩⟩

/-- A transaction that could not begin. -/
theorem Quits.notBegun (server : Server σ) {world : World σ} {cause : ServerError}
    (refused : (server world.state.server .begin).1.outcome = .error cause) :
    Quits server world [.request .begin] (deliver server .begin world).2 := by
  have closed :
      transactionOpen (Server.notes server world.state.server [.request .begin]) = false := by
    rw [Server.notes, Server.notes, refused]
    rfl
  refine { toPassage := .deliver server .begin world, closed, ends := ?_ }
  intro early request late split _
  cases early with
  | nil =>
      cases split
      rw [List.nil_append, closed]
      rfl
  | cons event early => exact absurd (List.cons.inj split).2 (by simp)

/-- A transaction whose body is orderly. -/
theorem Quits.transactOnce (server : Server σ) {body : Transaction α} (orderly : body.Orderly)
    (world : World σ) : ∃ events, Quits server world events (transactOnce server body world).2 := by
  have opening := Passage.deliver server .begin world
  have begins := deliver_fst server .begin world
  unfold Session.transactOnce
  cases begun : (server world.state.server .begin).1.outcome with
  | error cause =>
      have left := Quits.notBegun server begun
      rw [begun] at begins
      rcases delivered : deliver server .begin world with ⟨_ | _, opened⟩
      · rw [delivered] at left
        exact ⟨_, left⟩
      · rw [delivered] at begins
        cases begins
  | ok answer =>
      rw [begun] at begins
      rcases delivered : deliver server .begin world with ⟨_ | _, opened⟩
      · rw [delivered] at begins
        cases begins
      · rw [delivered] at opening
        obtain ⟨inside, within, works⟩ := orderly.passage server opened
        rcases ran : body.run server opened with ⟨error | value, left⟩
        · rw [ran] at within
          have quits :=
            Quits.transaction ((opening.trans within).trans (.deliver server .rollback left))
            begun works (.inr rfl)
          simp only [ran]
          exact ⟨_, quits⟩
        · rw [ran] at within
          have quits :=
            Quits.transaction ((opening.trans within).trans (.deliver server .commit left))
            begun works (.inl rfl)
          simp only [ran]
          rcases committed : deliver server .commit left with ⟨_ | _, closed⟩
          · rw [committed] at quits
            exact ⟨_, quits⟩
          · rw [committed] at quits
            exact ⟨_, quits⟩

/-! ## Halting -/

/-- The session quits on the way from one world to another, and does nothing if it is cancelled
already. -/
def Halts (server : Server σ) (before after : World σ) : Prop :=
  ∃ events, Quits server before events after ∧
    (before.clock.isCancelled = true → requests events = [])

namespace Halts

variable {server : Server σ} {before between after : World σ}

theorem refl (server : Server σ) (world : World σ) : Halts server world world :=
  ⟨[], .refl server world, fun _ => rfl⟩

theorem trans (earlier : Halts server before between) (later : Halts server between after) :
    Halts server before after := by
  obtain ⟨first, early, silent⟩ := earlier
  obtain ⟨rest, late, hushed⟩ := later
  refine ⟨first ++ rest, early.trans late hushed, fun cancelled => ?_⟩
  rw [requests_append, silent cancelled, hushed (early.stays cancelled)]
  rfl

theorem withClock {clock : Clock} (halts : Halts server before after)
    (stays : after.clock.isCancelled = true → clock.isCancelled = true) :
    Halts server before { after with clock } := by
  obtain ⟨events, quits, silent⟩ := halts
  exact ⟨events, quits.withClock clock stays, silent⟩

/-- A delay sends nothing. -/
theorem wait (server : Server σ) (world : World σ) (timer : Timer) (delay : Time.Duration) :
    Halts server world { world with clock := (timer.wait world.clock delay).2 } :=
  (refl server world).withClock (timer.isCancelled_wait delay)

theorem observe (server : Server σ) (world : World σ) (sight : Sight) :
    Halts server world (world.observe (.sight sight)) :=
  ⟨_, .observe server world sight, fun _ => rfl⟩

/-- Attempts that quit, repeated while a lock is refused, with delays that are not empty. -/
theorem repeatCall (timer : Timer) {policy : Backoff} {draws : policy.Draws (Wire σ)}
    (lasting : ∀ world attempt, 0 < (draws.delay world attempt).nanos)
    {call : Nat → World σ → Except Error α × World σ}
    (each : ∀ attempt world, ∃ events, Quits server world events (call attempt world).2)
    (patience attempt : Nat)
    (world : World σ) :
    ∃ events, Quits server world events
      (Time.repeatCall timer draws Error.isRefusedLock call patience attempt world).2 := by
  induction patience generalizing attempt world with
  | zero => exact ⟨[], .refl server world⟩
  | succ patience ih =>
      obtain ⟨first, early⟩ := each attempt world
      rw [Time.repeatCall]
      rcases called : call attempt world with ⟨error | value, left⟩
      · rw [called] at early
        dsimp only
        split
        · have kept := early.withClock (timer.wait left.clock (draws.delay left attempt)).2
            (timer.isCancelled_wait _)
          rcases waited : timer.wait left.clock (draws.delay left attempt) with ⟨_ | _, clock⟩
          · rw [waited] at kept
            exact ⟨first, kept⟩
          · rw [waited] at kept
            obtain ⟨rest, late⟩ := ih (attempt + 1) { left with clock }
            refine ⟨first ++ rest, kept.trans_of_cancels late ?_⟩
            -- The delay has passed, so the session was not cancelled when it began.
            intro before request after split cancels
            have ended := timer.wait_of_isCancelled
              (early.cancelled before request after split cancels) (lasting left attempt)
            rw [waited] at ended
            cases ended
        · exact ⟨first, early⟩
      · rw [called] at early
        exact ⟨first, early⟩

theorem retry (timer : Timer) {policy : Backoff} {draws : policy.Draws (Wire σ)}
    (lasting : ∀ world attempt, 0 < (draws.delay world attempt).nanos)
    {call : Nat → World σ → Except Error α × World σ}
    (each : ∀ attempt world, ∃ events, Quits server world events (call attempt world).2)
    (patience : Nat)
    (world : World σ) :
    Halts server world (Time.retry timer draws Error.isRefusedLock call patience world).2 := by
  unfold Time.retry
  split
  · exact refl server world
  · rename_i live
    obtain ⟨events, quits⟩ := repeatCall timer lasting each patience 0 world
    exact ⟨events, quits, fun cancelled => absurd cancelled live⟩

theorem repeatStep {step : τ → World σ → Option (Except Error (τ ⊕ β)) × World σ}
    (each : ∀ state world, Halts server world (step state world).2) (patience : Nat) (state : τ)
    (world : World σ) : Halts server world (repeatStep step patience state world).2 := by
  induction patience generalizing state world with
  | zero => exact refl server world
  | succ patience ih =>
      have early := each state world
      rw [Session.repeatStep]
      rcases stepped : step state world with ⟨_ | error | next | result, left⟩
      · rwa [stepped] at early
      · rwa [stepped] at early
      · rw [stepped] at early
        exact early.trans (ih next left)
      · rwa [stepped] at early

end Halts

namespace Procedure

/-- An orderly procedure halts, with any server and at any time, whether or not it ends, if no delay
between two attempts is empty. -/
theorem OrderlyWith.halts {p : Procedure α} {known : α → Prop} (orderly : p.OrderlyWith known)
    {runner : Runner σ} (lasting : ∀ world attempt, 0 < (runner.draws.delay world attempt).nanos)
    (world : World σ) : Halts runner.server world (p.run runner world).2 := by
  induction p generalizing world with
  | done value => exact .refl _ world
  | fail error => exact .refl _ world
  | send request next ih =>
      have early : Halts runner.server world _ := .retry runner.timer lasting
        (fun _ world => ⟨_, .sendOnce runner.server orderly.1 world⟩) runner.patience world
      rw [run]
      split
      · rename_i outcome between reached
        rw [reached] at early
        obtain ⟨_, _, repeated⟩ := dialogue_retry (fun _ => sound_sendOnce _ request) reached
        have ended := faultless_of_repeated SentOnce.surface repeated
        exact early.trans (ih outcome (orderly.2 outcome ended) between)
      · rename_i between reached
        rwa [reached] at early
  | transaction body next ih =>
      obtain ⟨⟨fixed, attempts, rfl⟩, follows⟩ := orderly
      have early : Halts runner.server world _ := .retry runner.timer lasting
        (fun _ => Quits.transactOnce runner.server attempts) runner.patience world
      rw [run]
      split
      · rename_i outcome between reached
        rw [reached] at early
        obtain ⟨_, _, repeated⟩ := dialogue_retry (fun _ => sound_transactOnce _ fixed) reached
        have ended := faultless_of_repeated (TransactedOnce.surface attempts) repeated
        exact early.trans (ih outcome (follows outcome ended) between)
      · rename_i between reached
        rwa [reached] at early
  | pause delay next ih =>
      have early := Halts.wait runner.server world runner.timer delay.val
      rw [run]
      split
      · rename_i clock waited
        rw [waited] at early
        exact early.trans (ih (.ok ()) (orderly _ trivial) _)
      · rename_i clock waited
        rw [waited] at early
        exact early.trans (ih (.error .cancelled) (orderly _ rfl) _)
  | observe sight next ih => exact (Halts.observe _ world sight).trans (ih orderly _)
  | cancel next ih => exact orderly.elim
  | iterate step state next stepIh ih =>
      have early := Halts.repeatStep (fun state world => stepIh state (orderly.1 state) world)
        runner.patience state world
      rw [run]
      split
      · rename_i outcome between reached
        rw [reached] at early
        obtain ⟨_, _, rounds⟩ :=
          dialogue_repeatStep (fun stepped => dialogue_of_run stepped) reached
        have ended : Faultless (fun _ => True) outcome :=
          faultless_of_rounds (fun state _ _ stepped => (orderly.1 state).faultless stepped) rounds
        exact early.trans (ih outcome (orderly.2 outcome ended) between)
      · rename_i between reached
        rwa [reached] at early

end Procedure

end Session

end ExpandContract
