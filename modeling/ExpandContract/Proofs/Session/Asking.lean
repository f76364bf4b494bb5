import ExpandContract.Proofs.Session.Dialogue

/-!
# What a procedure asks for

A single request is repeated only while a lock is refused, so the notes of it are refusals and at
most one answer at their end (`dialogue_change`, `dialogue_fetch?`).

`Procedure.AsksOnly` says that every request of a procedure, in all its dialogues, is of an allowed
kind. It follows from the parts of a procedure, so it is stated of every part once and put together
from there.
-/

set_option autoImplicit false

namespace ExpandContract.Session

variable {σ α β τ : Type}

/-! ## Single requests -/

/-- The notes of a request that was refused and not answered. -/
def Refusals (request : Request) (notes : List Note) : Prop :=
  ∀ note ∈ notes, ∃ cause, note = .asked request (.error cause)

/-- A request that is repeated has one answer at the end, or none at all; then it was refused for a
cause that does not pass, or the session was cancelled. -/
theorem repeated_sent {request : Request} {notes : List Note} {outcome : Except Error Answer}
    (repeated : Repeated (SentOnce request) notes outcome) :
    (∃ refusals answer, outcome = .ok answer ∧ Refusals request refusals ∧
      notes = refusals ++ [.asked request (.ok answer)]) ∨
    ∃ error, outcome = .error error ∧ Refusals request notes ∧
      (error = .cancelled ∨ ∃ cause, error = .database (.server cause)) := by
  induction repeated with
  | cancelled => exact .inr ⟨_, rfl, by simp [Refusals], .inl rfl⟩
  | value attempt =>
      obtain ⟨_ | answer, rfl, made⟩ := attempt
      · cases made
      · exact .inl ⟨[], answer, made, by simp [Refusals], rfl⟩
  | failure attempt lasting =>
      obtain ⟨cause | _, rfl, made⟩ := attempt
      · cases made
        exact .inr ⟨_, rfl, by simp [Refusals], .inr ⟨cause, rfl⟩⟩
      · cases made
  | again attempt refused later ih =>
      obtain ⟨cause | _, rfl, made⟩ := attempt
      · have one : Refusals request [.asked request (.error cause)] := by simp [Refusals]
        rcases ih with ⟨refusals, answer, same, others, rfl⟩ | ⟨error, same, others, why⟩
        · exact .inl ⟨_, answer, same, List.forall_mem_append.mpr ⟨one, others⟩,
            (List.append_assoc ..).symm⟩
        · exact .inr ⟨error, same, List.forall_mem_append.mpr ⟨one, others⟩, why⟩
      · cases made

namespace Procedure

@[simp]
theorem dialogue_ofExcept {value : Except Error α} {notes : List Note} {result : Except Error α} :
    (ofExcept value).Dialogue notes result ↔ notes = [] ∧ result = value := by
  cases value <;> exact .rfl

/-- A request whose outcome is read leaves no notes but its own. -/
theorem dialogue_send {request : Request} {read : Except Error Answer → Except Error α}
    {notes : List Note} {result : Except Error α}
    (dialogue : (Procedure.send request fun outcome => ofExcept (read outcome)).Dialogue notes
      result) :
    ∃ outcome, result = read outcome ∧ Repeated (SentOnce request) notes outcome := by
  obtain ⟨first, rest, outcome, rfl, repeated, ends⟩ := dialogue
  obtain ⟨rfl, rfl⟩ := dialogue_ofExcept.mp ends
  rw [List.append_nil]
  exact ⟨outcome, rfl, repeated⟩

/-- A change is accepted at last, or it fails without having been accepted. -/
theorem dialogue_change {statement : Sql.Change} {notes : List Note} {result : Except Error Unit}
    (dialogue : (change statement).Dialogue notes result) :
    (∃ refusals answer, result = .ok () ∧ Refusals (.change statement) refusals ∧
      notes = refusals ++ [.asked (.change statement) (.ok answer)]) ∨
    ∃ error, result = .error error ∧ Refusals (.change statement) notes := by
  obtain ⟨outcome, rfl, repeated⟩ := dialogue_send dialogue
  rcases repeated_sent repeated with
    ⟨refusals, answer, rfl, refused, split⟩ | ⟨error, rfl, refused, _⟩
  · exact .inl ⟨refusals, answer, rfl, refused, split⟩
  · exact .inr ⟨error, rfl, refused⟩

/-- A query gives the first row of its answer, or it fails without an answer. -/
theorem dialogue_fetch? {request : Request} {notes : List Note}
    {result : Except Error (Option Row)} (dialogue : (fetch? request).Dialogue notes result) :
    (∃ refusals answer, result = .ok answer.rows.head? ∧ Refusals request refusals ∧
      notes = refusals ++ [.asked request (.ok answer)]) ∨
    ∃ error, result = .error error ∧ Refusals request notes ∧
      (error = .cancelled ∨ ∃ cause, error = .database (.server cause)) := by
  obtain ⟨outcome, rfl, repeated⟩ := dialogue_send dialogue
  rcases repeated_sent repeated with
    ⟨refusals, answer, rfl, refused, split⟩ | ⟨error, rfl, refused, why⟩
  · exact .inl ⟨refusals, answer, rfl, refused, split⟩
  · exact .inr ⟨error, rfl, refused, why⟩

end Procedure

/-! ## Requests of an allowed kind -/

variable {allowed more : Request → Prop}

/-- Every request among the notes is allowed. -/
def AskedOnly (allowed : Request → Prop) (notes : List Note) : Prop :=
  ∀ request reply, Note.asked request reply ∈ notes → allowed request

namespace AskedOnly

variable {first rest notes : List Note}

theorem nil : AskedOnly allowed [] := by
  rintro request reply ⟨⟩

theorem append (early : AskedOnly allowed first) (late : AskedOnly allowed rest) :
    AskedOnly allowed (first ++ rest) := by
  intro request reply member
  rcases List.mem_append.mp member with inFirst | inRest
  · exact early request reply inFirst
  · exact late request reply inRest

theorem mono (asked : AskedOnly allowed notes)
    (implies : ∀ request, allowed request → more request) :
    AskedOnly more notes :=
  fun request reply member => implies request (asked request reply member)

end AskedOnly

theorem Refusals.askedOnly {request : Request} {notes : List Note}
    (refused : Refusals request notes) : AskedOnly (· = request) notes := by
  intro other reply member
  obtain ⟨_, same⟩ := refused _ member
  cases same
  rfl

namespace Transaction

/-- Every request of the body is allowed. -/
def AsksOnly (body : Transaction α) (allowed : Request → Prop) : Prop :=
  ∀ notes result, body.Dialogue notes result → AskedOnly allowed notes

namespace AsksOnly

theorem done (value : α) : (Transaction.done value).AsksOnly allowed := by
  rintro notes result ⟨⟩
  exact .nil

theorem fail (error : Error) : (Transaction.fail error : Transaction α).AsksOnly allowed := by
  rintro notes result ⟨⟩
  exact .nil

theorem ofExcept (value : Except Error α) : (Transaction.ofExcept value).AsksOnly allowed := by
  cases value with
  | ok value => exact done value
  | error error => exact fail error

theorem send {request : Request} {next : Except DatabaseError Answer → Transaction α}
    (first : allowed request) (rest : ∀ outcome, (next outcome).AsksOnly allowed) :
    (Transaction.send request next).AsksOnly allowed := by
  intro notes result dialogue asked reply member
  cases dialogue with
  | send outcome follows =>
      rcases List.mem_cons.mp member with now | later
      · cases now
        exact first
      · exact rest _ _ _ follows asked reply later

end AsksOnly

end Transaction

namespace Procedure

/-- Every request of the procedure is allowed. -/
def AsksOnly (p : Procedure α) (allowed : Request → Prop) : Prop :=
  ∀ notes result, p.Dialogue notes result → AskedOnly allowed notes

namespace AsksOnly

theorem mono {p : Procedure α} (asks : p.AsksOnly allowed)
    (implies : ∀ request, allowed request → more request) : p.AsksOnly more :=
  fun notes result dialogue => (asks notes result dialogue).mono implies

theorem done (value : α) : (Procedure.done value).AsksOnly allowed := by
  rintro notes result ⟨rfl, _⟩
  exact .nil

theorem fail (error : Error) : (Procedure.fail error : Procedure α).AsksOnly allowed := by
  rintro notes result ⟨rfl, _⟩
  exact .nil

theorem ofExcept (value : Except Error α) : (Procedure.ofExcept value).AsksOnly allowed := by
  cases value with
  | ok value => exact done value
  | error error => exact fail error

/-- What follows need only be looked at for the values that the procedure can have. -/
theorem bind_of {p : Procedure α} {f : α → Procedure β} (first : p.AsksOnly allowed)
    (rest : ∀ notes value, p.Dialogue notes (.ok value) → (f value).AsksOnly allowed) :
    (p.bind f).AsksOnly allowed := by
  intro notes result dialogue
  rcases dialogue_bind.mp dialogue with
    ⟨before, after, value, rfl, done, follows⟩ | ⟨error, _, fails⟩
  · exact (first before _ done).append (rest before value done after result follows)
  · exact first notes _ fails

theorem bind {p : Procedure α} {f : α → Procedure β} (first : p.AsksOnly allowed)
    (rest : ∀ value, (f value).AsksOnly allowed) : (p.bind f).AsksOnly allowed :=
  first.bind_of fun _ value _ => rest value

/-- A step that is made under a condition, and what follows it in either case. -/
theorem guarded {condition : Prop} [Decidable condition] {p : Procedure α} {rest : Procedure β}
    (first : p.AsksOnly allowed) (follows : rest.AsksOnly allowed) :
    (if condition then p.bind fun _ => rest else rest).AsksOnly allowed := by
  split
  · exact first.bind fun _ => follows
  · exact follows

theorem attempt {p : Procedure α} (asks : p.AsksOnly allowed) : p.attempt.AsksOnly allowed := by
  intro notes result dialogue
  obtain ⟨outcome, _, inside⟩ := dialogue_attempt.mp dialogue
  exact asks notes outcome inside

theorem repeated {once : List Note → Except Error α → Prop}
    (asks : ∀ notes result, once notes result → AskedOnly allowed notes)
    {notes : List Note} {result : Except Error α} (repeats : Repeated once notes result) :
    AskedOnly allowed notes := by
  induction repeats with
  | cancelled => exact .nil
  | value attempt => exact asks _ _ attempt
  | failure attempt _ => exact asks _ _ attempt
  | again attempt _ _ ih => exact (asks _ _ attempt).append ih

theorem send {request : Request} {next : Except Error Answer → Procedure α}
    (first : allowed request) (rest : ∀ outcome, (next outcome).AsksOnly allowed) :
    (Procedure.send request next).AsksOnly allowed := by
  rintro notes result ⟨before, after, outcome, rfl, repeats, follows⟩
  refine AskedOnly.append (repeated ?_ repeats) (rest outcome after result follows)
  rintro _ _ ⟨_, rfl, _⟩ other reply member
  cases List.mem_singleton.mp member
  exact first

theorem change {statement : Sql.Change} (first : allowed (.change statement)) :
    (Procedure.change statement).AsksOnly allowed :=
  send first fun _ => ofExcept _

theorem fetch? {request : Request} (first : allowed request) :
    (Procedure.fetch? request).AsksOnly allowed :=
  send first fun _ => ofExcept _

theorem fetchOne {request : Request} (first : allowed request) :
    (Procedure.fetchOne request).AsksOnly allowed :=
  send first fun _ => ofExcept _

theorem wait (delay : Time.Pause) : (Procedure.wait delay).AsksOnly allowed := by
  intro notes result dialogue
  rcases dialogue with passed | cancelled
  · exact ofExcept _ _ _ passed
  · exact ofExcept _ _ _ cancelled

theorem emit (sight : Sight) : (Procedure.emit sight).AsksOnly allowed := by
  rintro notes result ⟨_, rfl, rfl, _⟩ request reply member
  cases List.mem_singleton.mp member

theorem cancelSession : Procedure.cancelSession.AsksOnly allowed :=
  done ()

theorem mem_framed {note first last : Note} {notes : List Note} :
    note ∈ first :: notes ++ [last] ↔ note = first ∨ note ∈ notes ∨ note = last := by
  simp

/-- A transaction asks for what its body asks for, and to begin and to end. -/
theorem inTransaction {body : Transaction α} (begins : allowed .begin) (commits : allowed .commit)
    (rolls : allowed .rollback) (inside : body.AsksOnly allowed) :
    (Procedure.inTransaction body).AsksOnly allowed := by
  rintro notes result ⟨before, after, outcome, rfl, repeats, follows⟩
  refine AskedOnly.append (repeated ?_ repeats) (ofExcept _ _ _ follows)
  rintro _ _ ⟨_, once⟩ request reply member
  cases once with
  | notBegun cause =>
      cases List.mem_singleton.mp member
      exact begins
  | committed begun committed within =>
      rcases mem_framed.mp member with first | inner | last
      · cases first
        exact begins
      · exact inside _ _ within request reply inner
      · cases last
        exact commits
  | notCommitted begun cause within =>
      rcases mem_framed.mp member with first | inner | last
      · cases first
        exact begins
      · exact inside _ _ within request reply inner
      · cases last
        exact commits
  | rolledBack begun outcome within =>
      rcases mem_framed.mp member with first | inner | last
      · cases first
        exact begins
      · exact inside _ _ within request reply inner
      · cases last
        exact rolls

theorem forM {step : τ → Procedure PUnit} (each : ∀ item, (step item).AsksOnly allowed)
    (items : List τ) : (items.forM step).AsksOnly allowed := by
  induction items with
  | nil => exact done _
  | cons item rest ih => exact (each item).bind fun _ => ih

theorem loop {step : τ → Procedure (τ ⊕ β)} (each : ∀ state, (step state).AsksOnly allowed)
    (state : τ) : (Procedure.loop step state).AsksOnly allowed := by
  rintro notes result ⟨before, after, outcome, rfl, rounds, follows⟩
  refine AskedOnly.append ?_ (ofExcept _ _ _ follows)
  clear follows
  induction rounds with
  | last ends => exact each _ _ _ ends
  | broken fails => exact each _ _ _ fails
  | more goesOn _ ih => exact (each _ _ _ goesOn).append ih

end AsksOnly

/-! ## Failures of an allowed kind -/

/-- Every error that the procedure fails with is of the given kind. -/
def FailsOnly (p : Procedure α) (kind : Error → Prop) : Prop :=
  ∀ notes error, p.Dialogue notes (.error error) → kind error

variable {kind : Error → Prop}

namespace FailsOnly

theorem done (value : α) : (Procedure.done value).FailsOnly kind := by
  rintro notes error ⟨_, impossible⟩
  cases impossible

theorem fail {error : Error} (isKind : kind error) :
    (Procedure.fail error : Procedure α).FailsOnly kind := by
  rintro notes _ ⟨_, same⟩
  cases same
  exact isKind

theorem ofExcept {value : Except Error α} (isKind : ∀ error, value = .error error → kind error) :
    (Procedure.ofExcept value).FailsOnly kind := by
  cases value with
  | ok value => exact done value
  | error error => exact fail (isKind error rfl)

theorem bind {p : Procedure α} {f : α → Procedure β} (first : p.FailsOnly kind)
    (rest : ∀ value, (f value).FailsOnly kind) : (p.bind f).FailsOnly kind := by
  intro notes error dialogue
  rcases dialogue_bind.mp dialogue with ⟨_, after, value, _, _, follows⟩ | ⟨_, same, fails⟩
  · exact rest value after error follows
  · cases same
    exact first notes _ fails

theorem fetch? {request : Request} (cancelled : kind .cancelled)
    (refused : ∀ cause, kind (.database cause)) : (Procedure.fetch? request).FailsOnly kind := by
  intro notes error dialogue
  rcases dialogue_fetch? dialogue with ⟨_, _, impossible, _⟩ | ⟨_, same, _, rfl | ⟨cause, rfl⟩⟩
  · cases impossible
  · cases same
    exact cancelled
  · cases same
    exact refused _

end FailsOnly

end Procedure

end ExpandContract.Session
