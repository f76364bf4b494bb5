import ExpandContract.Proofs.Session.Plan
import ExpandContract.Session.Hook

/-!
# Going on only with what was accepted

A call that lets no failure pass goes on behind a request only when the request has been accepted. A
lock that is refused is no failure yet: the same request is made again at once. Notes in which every
refusal is of that kind are called persevering, and `Procedure.Perseveres` says that a procedure
leaves no others where it succeeds. A hook that has succeeded has begun, its statements have been
accepted, and none of its actions has refused to go on (`Hook.Succeeded`). `Procedure.Performs` also
names the hooks that have succeeded.
-/

set_option autoImplicit false

namespace ExpandContract.Session

variable {α β τ : Type}

/-! ## Persevering notes -/

/-- Every request that was refused was refused a lock, and what comes next is the same request
again. -/
def Persevering (notes : List Note) : Prop :=
  ∀ before request cause after, notes = before ++ .asked request (.error cause) :: after →
    cause.code = Error.refusedLockCode ∧ ∃ reply rest, after = .asked request reply :: rest

namespace Persevering

variable {first rest notes : List Note} {note : Note} {request : Request} {answer : Answer}
  {reply : Except ServerError Answer} {cause : ServerError}

theorem nil : Persevering [] := by
  intro before request cause after split
  exact absurd split (by simp)

/-- A note that is no refusal may stand before. -/
theorem cons (fine : ∀ request cause, note ≠ .asked request (.error cause))
    (others : Persevering rest) : Persevering (note :: rest) := by
  intro before request cause after split
  cases before with
  | nil => exact absurd (List.cons.inj split).1 (fine request cause)
  | cons other before => exact others before request cause after (List.cons.inj split).2

theorem seen (sight : Sight) (others : Persevering rest) : Persevering (.seen sight :: rest) :=
  cons (by rintro _ _ ⟨⟩) others

theorem accepted (request : Request) (answer : Answer) :
    Persevering [.asked request (.ok answer)] :=
  cons (by rintro _ _ ⟨⟩) nil

/-- A refused lock may stand before the same request. -/
theorem again (refused : cause.code = Error.refusedLockCode)
    (others : Persevering (.asked request reply :: rest)) :
    Persevering (.asked request (.error cause) :: .asked request reply :: rest) := by
  intro before other otherCause after split
  cases before with
  | nil =>
      cases split
      exact ⟨refused, reply, rest, rfl⟩
  | cons note before => exact others before other otherCause after (List.cons.inj split).2

theorem append (early : Persevering first) (late : Persevering rest) :
    Persevering (first ++ rest) := by
  intro before request cause after split
  rcases split_around split with ⟨between, rfl, same⟩ | ⟨between, rfl, rfl⟩
  · exact late between request cause after same
  · obtain ⟨refused, reply, others, rfl⟩ := early before request cause between rfl
    exact ⟨refused, reply, others ++ rest, rfl⟩

end Persevering

/-- A request that is repeated until it is accepted. -/
theorem persevering_of_repeated {request : Request} {notes : List Note} {answer : Answer}
    (repeated : Repeated (SentOnce request) notes (.ok answer)) : Persevering notes := by
  -- The induction also has to know that the notes begin with the request.
  suffices both : Persevering notes ∧ ∃ reply rest, notes = .asked request reply :: rest from both.1
  generalize ended : Except.ok answer = outcome at repeated
  induction repeated with
  | cancelled => cases ended
  | value attempt =>
      obtain ⟨_ | given, rfl, made⟩ := attempt
      · cases made
      · exact ⟨.accepted request given, _, _, rfl⟩
  | failure attempt _ => cases ended
  | again attempt refused later ih =>
      obtain ⟨cause | given, rfl, made⟩ := attempt
      · cases made
        obtain ⟨others, reply, rest, rfl⟩ := ih ended
        have same : cause.code = Error.refusedLockCode := by
          simpa [Error.isRefusedLock, DatabaseError.code?] using refused
        exact ⟨.again same others, _, _, rfl⟩
      · cases made

/-! ## Procedures that persevere -/

namespace Procedure

/-- Where the procedure succeeds, all its requests have been accepted. -/
def Perseveres (p : Procedure α) : Prop :=
  ∀ notes value, p.Dialogue notes (.ok value) → Persevering notes

namespace Perseveres

theorem done (value : α) : (Procedure.done value).Perseveres := by
  rintro notes _ ⟨rfl, _⟩
  exact .nil

theorem fail (error : Error) : (Procedure.fail error : Procedure α).Perseveres := by
  rintro notes _ ⟨_, impossible⟩
  cases impossible

theorem ofExcept (value : Except Error α) : (Procedure.ofExcept value).Perseveres := by
  cases value with
  | ok value => exact done value
  | error error => exact fail error

theorem bind {p : Procedure α} {f : α → Procedure β} (first : p.Perseveres)
    (rest : ∀ value, (f value).Perseveres) : (p.bind f).Perseveres := by
  intro notes last dialogue
  obtain ⟨before, after, value, rfl, began, follows⟩ := dialogue_bind_ok.mp dialogue
  exact (first before value began).append (rest value after last follows)

/-- A step that is made under a condition, and what follows it in either case. -/
theorem guarded {condition : Prop} [Decidable condition] {p : Procedure α} {rest : Procedure β}
    (first : p.Perseveres) (follows : rest.Perseveres) :
    (if condition then p.bind fun _ => rest else rest).Perseveres := by
  split
  · exact first.bind fun _ => follows
  · exact follows

/-- A request whose failure is a failure of the call. -/
theorem send {request : Request} {read : Except Error Answer → Except Error α}
    (passes : ∀ error value, read (.error error) ≠ .ok value) :
    (Procedure.send request fun outcome => Procedure.ofExcept (read outcome)).Perseveres := by
  intro notes value dialogue
  obtain ⟨outcome, ended, repeated⟩ := dialogue_send dialogue
  cases outcome with
  | ok answer => exact persevering_of_repeated repeated
  | error error => exact absurd ended.symm (passes error value)

theorem change (statement : Sql.Change) : (Procedure.change statement).Perseveres :=
  send (by rintro _ _ ⟨⟩)

theorem fetch? (request : Request) : (Procedure.fetch? request).Perseveres :=
  send (by rintro _ _ ⟨⟩)

theorem fetchOne (request : Request) : (Procedure.fetchOne request).Perseveres :=
  send (by rintro _ _ ⟨⟩)

theorem emit (sight : Sight) : (Procedure.emit sight).Perseveres := by
  rintro notes _ ⟨_, rfl, rfl, _⟩
  exact .seen sight .nil

theorem forM {step : τ → Procedure PUnit} (each : ∀ item, (step item).Perseveres)
    (items : List τ) : (items.forM step).Perseveres := by
  induction items with
  | nil => exact done _
  | cons item rest ih => exact (each item).bind fun _ => ih

end Perseveres

end Procedure

/-! ## Hooks -/

/-- All actions of the hook have gone through. -/
structure Hook.Succeeded (hook : Hook) (notes : List Note) : Prop where
  began : .seen (.hook hook.name hook.phase.name) ∈ notes
  executed : ∀ sql, .execute sql ∈ hook.actions → .raw sql ∈ acceptedChanges notes
  unrefused : ∀ reason, .refuse reason ∉ hook.actions

theorem Hook.Succeeded.mono {hook : Hook} {notes more : List Note}
    (succeeded : hook.Succeeded notes)
    (part : notes ⊆ more) : hook.Succeeded more where
  began := part succeeded.began
  executed sql member := by
    obtain ⟨answer, asked⟩ := mem_acceptedChanges.mp (succeeded.executed sql member)
    exact mem_acceptedChanges.mpr ⟨answer, part asked⟩
  unrefused := succeeded.unrefused

open Procedure

variable {phase : HookPhase} {notes : List Note}

/-- An action that does not fail leaves notes without a failure, and its statement is accepted. -/
theorem dialogue_perform {action : HookAction}
    (dialogue : action.perform.Dialogue notes (.ok none)) :
    Persevering notes ∧ (∀ sql, action = .execute sql → .raw sql ∈ acceptedChanges notes) ∧
      ∀ reason, action ≠ .refuse reason := by
  cases action with
  | execute sql =>
      obtain ⟨first, rest, outcome, rfl, ran, follows⟩ := dialogue_attempt_bind.mp dialogue
      cases outcome with
      | ok _ =>
          obtain ⟨rfl, _⟩ := follows
          rw [List.append_nil]
          refine ⟨Perseveres.change _ _ _ ran, ?_, by rintro _ ⟨⟩⟩
          rintro _ ⟨⟩
          rw [(Follows.change _).whole _ ran]
          exact List.mem_singleton_self _
      | error error => cases follows.2
  | cancel =>
      obtain ⟨rfl, _⟩ := dialogue
      exact ⟨.nil, by rintro _ ⟨⟩, by rintro _ ⟨⟩⟩
  | refuse reason => cases dialogue.2

theorem dialogue_performActions {actions : List HookAction}
    (dialogue : (performActions phase actions).Dialogue notes (.ok ())) :
    Persevering notes ∧ (∀ sql, .execute sql ∈ actions → .raw sql ∈ acceptedChanges notes) ∧
      ∀ reason, .refuse reason ∉ actions := by
  induction actions generalizing notes with
  | nil =>
      obtain ⟨rfl, _⟩ := dialogue
      exact ⟨.nil, by rintro _ ⟨⟩, by rintro _ ⟨⟩⟩
  | cons action rest ih =>
      obtain ⟨now, later, failure, rfl, performed, follows⟩ := dialogue_bind_ok.mp dialogue
      cases failure with
      | some reason => cases follows.2
      | none =>
          obtain ⟨persevered, executed, unrefused⟩ := dialogue_perform performed
          obtain ⟨others, executedLater, unrefusedLater⟩ := ih follows
          refine ⟨persevered.append others, ?_, ?_⟩
          · intro sql member
            rw [acceptedChanges_append, List.mem_append]
            rcases List.mem_cons.mp member with same | member
            · exact .inl (executed sql same.symm)
            · exact .inr (executedLater sql member)
          · intro reason member
            rcases List.mem_cons.mp member with same | member
            · exact unrefused reason same.symm
            · exact unrefusedLater reason member

theorem Hook.dialogue_run {hook : Hook} (dialogue : hook.run.Dialogue notes (.ok ())) :
    Persevering notes ∧ hook.Succeeded notes := by
  obtain ⟨_, rest, _, rfl, ⟨_, rfl, rfl, _⟩, performed⟩ := dialogue_bind_ok.mp dialogue
  obtain ⟨persevered, executed, unrefused⟩ := dialogue_performActions performed
  exact ⟨.seen _ persevered, List.mem_cons_self, executed, unrefused⟩

/-- Hooks that have run have all succeeded. -/
theorem dialogue_runHooks {hooks : List Hook}
    (dialogue : (runHooks hooks).Dialogue notes (.ok ())) :
    Persevering notes ∧ ∀ hook ∈ hooks, hook.Succeeded notes := by
  induction hooks generalizing notes with
  | nil =>
      obtain ⟨rfl, _⟩ := dialogue
      exact ⟨.nil, by rintro _ ⟨⟩⟩
  | cons hook rest ih =>
      obtain ⟨now, later, _, rfl, ran, follows⟩ := dialogue_bind_ok.mp dialogue
      obtain ⟨persevered, succeeded⟩ := hook.dialogue_run ran
      obtain ⟨others, succeededLater⟩ := ih follows
      refine ⟨persevered.append others, ?_⟩
      intro other member
      rcases List.mem_cons.mp member with rfl | member
      · exact succeeded.mono (List.subset_append_left ..)
      · exact (succeededLater other member).mono (List.subset_append_right ..)

/-! ## Procedures that run hooks -/

namespace Procedure

variable {hooks others : List Hook}

/-- Where the procedure succeeds, all its requests have been accepted, and these hooks have
succeeded. -/
def Performs (p : Procedure α) (hooks : List Hook) : Prop :=
  ∀ notes value, p.Dialogue notes (.ok value) →
    Persevering notes ∧ ∀ hook ∈ hooks, hook.Succeeded notes

namespace Performs

theorem of_perseveres {p : Procedure α} (perseveres : p.Perseveres) : p.Performs [] :=
  fun notes value dialogue => ⟨perseveres notes value dialogue, by rintro _ ⟨⟩⟩

theorem bind {p : Procedure α} {f : α → Procedure β} (first : p.Performs hooks)
    (rest : ∀ value, (f value).Performs others) : (p.bind f).Performs (hooks ++ others) := by
  intro notes last dialogue
  obtain ⟨before, after, value, rfl, began, follows⟩ := dialogue_bind_ok.mp dialogue
  obtain ⟨persevered, succeeded⟩ := first before value began
  obtain ⟨perseveredLater, succeededLater⟩ := rest value after last follows
  refine ⟨persevered.append perseveredLater, ?_⟩
  intro hook member
  rcases List.mem_append.mp member with early | late
  · exact (succeeded hook early).mono (List.subset_append_left ..)
  · exact (succeededLater hook late).mono (List.subset_append_right ..)

/-- What follows a procedure that runs no hooks. -/
theorem after {p : Procedure α} {f : α → Procedure β} (first : p.Perseveres)
    (rest : ∀ value, (f value).Performs hooks) : (p.bind f).Performs hooks :=
  (of_perseveres first).bind rest

theorem runHooks (hooks : List Hook) : (runHooks hooks).Performs hooks :=
  fun _ _ dialogue => dialogue_runHooks dialogue

end Performs

end Procedure

end ExpandContract.Session
