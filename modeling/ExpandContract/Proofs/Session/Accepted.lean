import ExpandContract.Proofs.Session.Dialogue
import ExpandContract.Proofs.Session.Ending
import ExpandContract.Proofs.Session.Plan

/-!
# What a server without a state accepts

A server that always gives the same answer to the same request has no need of a state. What a
session with it shows is a function of the procedure and the answers (`notesWith`, `outcomeWith`),
and the events of the session tell which changes were accepted (`acceptedAmong`). Two ways to end
are described with it. A procedure stalls if it ends without an accepted change, and with a
failure if it has something to do that is refused (`Procedure.Stalls`). It carries a list of
changes if just these are accepted, in this order, and it succeeds (`Procedure.Carries`).
-/

set_option autoImplicit false

namespace ExpandContract.Session

open Sql (Change)

variable {α β : Type} {answer : Request → Except ServerError Answer}

/-! ## Servers without a state -/

/-- A server that answers each request in its own way, and never cancels the session. -/
def Server.answering (answer : Request → Except ServerError Answer) : Server Unit :=
  fun _ request => ({ cancels := false, outcome := answer request }, ())

/-- Running against such a server, without waiting for a lock that is refused twice. -/
def Runner.answering (answer : Request → Except ServerError Answer) : Runner Unit :=
  .plain .standard (.answering answer) 1

namespace Procedure

/-- The outcome of the session with such a server, if it has one. -/
def outcomeWith (p : Procedure α) (answer : Request → Except ServerError Answer) :
    Option (Except Error α) :=
  (p.run (.answering answer) (.start ())).1

/-- The notes of the session with such a server. -/
def notesWith (p : Procedure α) (answer : Request → Except ServerError Answer) : List Note :=
  Server.notes (.answering answer) () (p.run (.answering answer) (.start ())).2.state.trace

theorem shows_of_outcomeWith {p : Procedure α} {answer : Request → Except ServerError Answer}
    {outcome : Except Error α} (ended : p.outcomeWith answer = some outcome) :
    p.Shows (p.notesWith answer) outcome :=
  ⟨Unit, .answering answer, .start, (), _, Prod.ext ended rfl, rfl⟩

end Procedure

/-! ## Accepted changes -/

/-- The changes among the events that a server accepts that answers in this way. -/
def acceptedAmong (answer : Request → Except ServerError Answer) (events : List Event) :
    List Change :=
  acceptedChanges (Server.notes (.answering answer) () events)

theorem acceptedAmong_append (first rest : List Event) :
    acceptedAmong answer (first ++ rest) =
      acceptedAmong answer first ++ acceptedAmong answer rest := by
  unfold acceptedAmong
  rw [Server.notes_append, acceptedChanges_append]

/-- Every note of a request tells the reply that such a server gives. -/
theorem eq_of_asked_answering {events : List Event} {request : Request}
    {reply : Except ServerError Answer}
    (asked : Note.asked request reply ∈ Server.notes (.answering answer) () events) :
    reply = answer request := by
  induction events with
  | nil => cases asked
  | cons event rest ih =>
      cases event with
      | request other =>
          rcases List.mem_cons.mp asked with same | later
          · cases same
            rfl
          · exact ih later
      | sight sight =>
          rcases List.mem_cons.mp asked with impossible | later
          · cases impossible
          · exact ih later

/-- Every request leaves a note. -/
theorem asked_of_request {events : List Event} {request : Request}
    (made : .request request ∈ events) :
    ∃ reply, Note.asked request reply ∈ Server.notes (.answering answer) () events := by
  obtain ⟨first, rest, rfl⟩ := List.append_of_mem made
  refine ⟨answer request, ?_⟩
  rw [Server.notes_append]
  exact List.mem_append_right _ List.mem_cons_self

theorem replies_answering (answer : Request → Except ServerError Answer) (request : Request) :
    Procedure.Replies (.answering answer) request fun reply => reply = answer request :=
  fun _ => ⟨rfl, rfl⟩

namespace Procedure

/-- What is described by the events of an end can be read off a session from its beginning. -/
theorem Ends.shows {p : Procedure α} {described : List Event → Except Error α → Prop}
    (ends : p.Ends (.answering answer) described) :
    ∃ events outcome, p.Shows (Server.notes (.answering answer) () events) outcome ∧
      described events outcome := by
  obtain ⟨outcome, events, after, ran, _, trace, holds⟩ := ends (.start ()) rfl
  have trace : after.state.trace = events := trace
  exact ⟨events, outcome, ⟨Unit, .answering answer, .start, (), after, ran, by rw [trace]; rfl⟩,
    holds⟩

/-- An end comes with a dialogue, the one that its events tell. -/
theorem Ends.dialogue {p : Procedure α} {described : List Event → Except Error α → Prop}
    (ends : p.Ends (.answering answer) described) :
    p.Ends (.answering answer) fun events outcome =>
      described events outcome ∧
        p.Dialogue (Server.notes (.answering answer) () events) outcome := by
  intro world live
  obtain ⟨outcome, events, after, ran, clock, trace, holds⟩ := ends world live
  obtain ⟨shown, way, dialogue⟩ := dialogue_of_run ran
  cases List.append_cancel_left (way.trace.symm.trans trace)
  exact ⟨outcome, _, after, ran, clock, trace, holds, dialogue⟩

/-! ## Stalling -/

/-- The procedure ends without an accepted change, and fails if it has something to do. -/
def Stalls (answer : Request → Except ServerError Answer) (p : Procedure α) (busy : Prop) : Prop :=
  p.Ends (.answering answer) fun events outcome =>
    acceptedAmong answer events = [] ∧ (busy → ∃ error, outcome = .error error)

namespace Stalls

variable {p : Procedure α} {busy more : Prop}

theorem mono (stalls : p.Stalls answer busy) (fewer : more → busy) : p.Stalls answer more :=
  Ends.mono stalls fun _ _ ⟨quiet, fails⟩ => ⟨quiet, fun has => fails (fewer has)⟩

theorem done (value : α) : (Procedure.done value).Stalls answer False :=
  Ends.done ⟨rfl, False.elim⟩

theorem fail (error : Error) : (Procedure.fail error : Procedure α).Stalls answer busy :=
  Ends.fail ⟨rfl, fun _ => ⟨error, rfl⟩⟩

theorem bind {f : α → Procedure β} (first : p.Stalls answer busy)
    (rest : ∀ value, (f value).Stalls answer more) : (p.bind f).Stalls answer (busy ∨ more) := by
  refine Ends.bind first ?_ ?_
  · rintro events value ⟨quiet, fails⟩
    refine Ends.mono (rest value) ?_
    rintro later outcome ⟨quietLater, failsLater⟩
    refine ⟨by rw [acceptedAmong_append, quiet, quietLater]; rfl, ?_⟩
    rintro (has | has)
    · obtain ⟨_, impossible⟩ := fails has
      cases impossible
    · exact failsLater has
  · rintro events error ⟨quiet, _⟩
    exact ⟨quiet, fun _ => ⟨error, rfl⟩⟩

/-- Nothing follows a procedure that fails. -/
theorem bind_failed (first : p.Stalls answer True) (f : α → Procedure β) :
    (p.bind f).Stalls answer True := by
  refine Ends.bind first ?_ ?_
  · rintro events value ⟨_, fails⟩
    obtain ⟨_, impossible⟩ := fails trivial
    cases impossible
  · rintro events error ⟨quiet, _⟩
    exact ⟨quiet, fun _ => ⟨error, rfl⟩⟩

/-- What follows a procedure that has nothing to do. -/
theorem bind_idle {f : α → Procedure β} (first : p.Stalls answer False)
    (rest : ∀ value, (f value).Stalls answer busy) : (p.bind f).Stalls answer busy :=
  (first.bind rest).mono .inr

/-- A change that is refused for a cause that does not pass is not accepted. -/
theorem change {statement : Change} {cause : ServerError}
    (refused : answer (.change statement) = .error cause)
    (lasting : cause.code ≠ Error.refusedLockCode) :
    (Procedure.change statement).Stalls answer True := by
  refine Ends.send Nat.one_ne_zero (replies_answering answer _) ?_ ?_
  · intro other same
    cases same.trans refused
    exact lasting
  · rintro _ rfl
    have quiet : acceptedAmong answer [.request (.change statement)] = [] := by
      have replied : ((Server.answering answer) () (.change statement)).1.outcome = .error cause :=
        refused
      simp only [acceptedAmong, Server.notes, replied]
      rfl
    rw [refused]
    exact Ends.fail ⟨quiet, fun _ => ⟨_, rfl⟩⟩

end Stalls

/-! ## Carrying out -/

/-- The procedure ends with these changes accepted, in this order, and succeeds. -/
def Carries (answer : Request → Except ServerError Answer) (p : Procedure Unit)
    (changes : List Change) : Prop :=
  p.Ends (.answering answer) fun events outcome =>
    acceptedAmong answer events = changes ∧ outcome = .ok ()

namespace Carries

variable {p q : Procedure Unit} {changes later : List Change}

theorem done : (Procedure.done ()).Carries answer [] :=
  Ends.done ⟨rfl, rfl⟩

theorem bind (first : p.Carries answer changes) (rest : q.Carries answer later) :
    (p.bind fun _ => q).Carries answer (changes ++ later) := by
  refine Ends.bind first ?_ ?_
  · rintro events value ⟨same, _⟩
    refine Ends.mono rest ?_
    rintro others outcome ⟨sameLater, rfl⟩
    exact ⟨by rw [acceptedAmong_append, same, sameLater], rfl⟩
  · rintro events error ⟨_, impossible⟩
    cases impossible

/-- What follows a procedure that yields a value without an accepted change. -/
theorem bind_yields {r : Procedure α} {f : α → Procedure Unit} {events : List Event} {value : α}
    (first : r.Yields (.answering answer) events value)
    (quiet : acceptedAmong answer events = []) (rest : (f value).Carries answer changes) :
    (r.bind f).Carries answer changes := by
  refine Ends.bind_yields first (Ends.mono rest ?_)
  rintro later outcome ⟨same, rfl⟩
  exact ⟨by rw [acceptedAmong_append, quiet, same]; rfl, rfl⟩

theorem change {statement : Change} {reply : Answer}
    (accepted : answer (.change statement) = .ok reply) :
    (Procedure.change statement).Carries answer [statement] := by
  refine Ends.send Nat.one_ne_zero (replies_answering answer _) ?_ ?_
  · intro other same
    cases same.trans accepted
  · rintro _ rfl
    have one : acceptedAmong answer [.request (.change statement)] = [statement] := by
      have replied : ((Server.answering answer) () (.change statement)).1.outcome = .ok reply :=
        accepted
      simp only [acceptedAmong, Server.notes, replied]
      rfl
    rw [accepted]
    exact Ends.done ⟨one, rfl⟩

end Carries

end Procedure

end ExpandContract.Session
