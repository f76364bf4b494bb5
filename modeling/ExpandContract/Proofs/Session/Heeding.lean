import ExpandContract.Proofs.Session.Plan

/-!
# Refusals that end a call

A request that was refused a lock is made again, unless the session has been cancelled by then. One
that was refused for a lasting cause is not, and where no part of the call catches the failure the
call ends there, with that cause (`AfterRefusal`). `Procedure.Heeds` says this of a procedure, and
that it does nothing but make requests of an allowed kind. A failure is then found out in time:
whatever is to be done later has not been begun.
-/

set_option autoImplicit false

namespace ExpandContract.Session

variable {α β τ : Type}

/-! ## After a refusal -/

/-- What is noted after a request that was refused, and how the call then ends. -/
def AfterRefusal (request : Request) (cause : ServerError) (after : List Note)
    (outcome : Except Error α) : Prop :=
  if cause.code = Error.refusedLockCode then
    (after = [] ∧ outcome = .error .cancelled) ∨ ∃ reply rest, after = .asked request reply :: rest
  else after = [] ∧ outcome = .error (.database (.server cause))

namespace AfterRefusal

variable {request : Request} {cause : ServerError} {after more : List Note} {value : α}
  {error : Error} {outcome : Except Error α}

/-- A call that succeeds has made the request again, and goes on in its own way. -/
theorem of_ok (goesOn : AfterRefusal request cause after (Except.ok value))
    (outcome : Except Error β) : AfterRefusal request cause (after ++ more) outcome := by
  unfold AfterRefusal at goesOn ⊢
  split at goesOn
  · rename_i refused
    rcases goesOn with ⟨_, impossible⟩ | ⟨reply, rest, rfl⟩
    · cases impossible
    · rw [if_pos refused]
      exact .inr ⟨reply, rest ++ more, rfl⟩
  · cases goesOn.2

/-- An outcome in which the same errors are read as errors. -/
theorem read (ends : AfterRefusal request cause after outcome)
    {result : Except Error β} (errors : ∀ error, outcome = .error error → result = .error error) :
    AfterRefusal request cause after result := by
  unfold AfterRefusal at ends ⊢
  split at ends
  · rename_i refused
    rw [if_pos refused]
    exact ends.imp_left fun ⟨nothing, cancelled⟩ => ⟨nothing, errors _ cancelled⟩
  · rename_i lasting
    rw [if_neg lasting]
    exact ⟨ends.1, errors _ ends.2⟩

end AfterRefusal

/-- After each of its refusals, the call has gone on or ended in this way. -/
def Heeded (notes : List Note) (outcome : Except Error α) : Prop :=
  ∀ before request cause after, notes = before ++ .asked request (.error cause) :: after →
    AfterRefusal request cause after outcome

/-- What is repeated while a lock is refused begins with an attempt, unless the session was
cancelled before. -/
theorem begins_of_repeated {request : Request} {notes : List Note} {outcome : Except Error Answer}
    (repeated : Repeated (SentOnce request) notes outcome) :
    (notes = [] ∧ outcome = .error .cancelled) ∨
      ∃ reply rest, notes = .asked request reply :: rest := by
  cases repeated with
  | cancelled => exact .inl ⟨rfl, rfl⟩
  | value attempt =>
      obtain ⟨reply, rfl, _⟩ := attempt
      exact .inr ⟨reply, [], rfl⟩
  | failure attempt _ =>
      obtain ⟨reply, rfl, _⟩ := attempt
      exact .inr ⟨reply, [], rfl⟩
  | again attempt _ _ =>
      obtain ⟨reply, rfl, _⟩ := attempt
      exact .inr ⟨reply, _, rfl⟩

theorem isRefusedLock_server {cause : ServerError} :
    (Error.database (.server cause)).isRefusedLock = true ↔ cause.code = Error.refusedLockCode := by
  simp [Error.isRefusedLock, DatabaseError.code?]

/-- A request that is repeated while a lock is refused. -/
theorem heeded_of_repeated {request : Request} {notes : List Note} {outcome : Except Error Answer}
    (repeated : Repeated (SentOnce request) notes outcome) : Heeded notes outcome := by
  induction repeated with
  | cancelled =>
      intro before other cause after split
      exact absurd split (by simp)
  | value attempt =>
      obtain ⟨given | answer, rfl, made⟩ := attempt
      · cases made
      · intro before other cause after split
        cases before with
        | nil => cases split
        | cons note before => exact absurd (List.cons.inj split).2 (by simp)
  | failure attempt lasting =>
      obtain ⟨given | answer, rfl, made⟩ := attempt
      · cases made
        intro before other cause after split
        cases before with
        | nil =>
            cases split
            have lasts : ¬given.code = Error.refusedLockCode := by
              rw [← isRefusedLock_server, lasting]
              exact Bool.false_ne_true
            rw [AfterRefusal, if_neg lasts]
            exact ⟨rfl, rfl⟩
        | cons note before => exact absurd (List.cons.inj split).2 (by simp)
      · cases made
  | again attempt refused later ih =>
      obtain ⟨given | answer, rfl, made⟩ := attempt
      · cases made
        intro before other cause after split
        cases before with
        | nil =>
            cases split
            rw [AfterRefusal, if_pos (isRefusedLock_server.mp refused)]
            exact begins_of_repeated later
        | cons note before => exact ih before other cause after (List.cons.inj split).2
      · cases made

/-! ## Procedures that heed refusals -/

/-- There is nothing among the notes but requests of an allowed kind. -/
def AsksAlone (allowed : Request → Prop) (notes : List Note) : Prop :=
  ∀ note ∈ notes, ∃ request reply, note = .asked request reply ∧ allowed request

namespace Procedure

/-- The procedure does nothing but make requests of an allowed kind, and ends with the first refusal
that lasts. -/
structure Heeds (p : Procedure α) (allowed : Request → Prop) : Prop where
  asks : ∀ notes outcome, p.Dialogue notes outcome → AsksAlone allowed notes
  heeds : ∀ notes outcome, p.Dialogue notes outcome → Heeded notes outcome

namespace Heeds

variable {allowed : Request → Prop}

theorem ofExcept (value : Except Error α) : (Procedure.ofExcept value).Heeds allowed where
  asks notes outcome dialogue := by
    obtain ⟨rfl, _⟩ := dialogue_ofExcept.mp dialogue
    rintro _ ⟨⟩
  heeds notes outcome dialogue := by
    obtain ⟨rfl, _⟩ := dialogue_ofExcept.mp dialogue
    intro before request cause after split
    exact absurd split (by simp)

theorem done (value : α) : (Procedure.done value).Heeds allowed :=
  ofExcept (.ok value)

theorem fail (error : Error) : (Procedure.fail error : Procedure α).Heeds allowed :=
  ofExcept (.error error)

theorem bind {p : Procedure α} {f : α → Procedure β} (first : p.Heeds allowed)
    (rest : ∀ value, (f value).Heeds allowed) : (p.bind f).Heeds allowed where
  asks notes outcome dialogue := by
    rcases dialogue_bind.mp dialogue with ⟨early, late, value, rfl, began, follows⟩ | ⟨_, _, fails⟩
    · exact List.forall_mem_append.mpr
        ⟨first.asks early _ began, (rest value).asks late outcome follows⟩
    · exact first.asks notes _ fails
  heeds notes outcome dialogue := by
    intro before request cause after split
    rcases dialogue_bind.mp dialogue with
      ⟨early, late, value, rfl, began, follows⟩ | ⟨error, rfl, fails⟩
    · have later := (rest value).heeds late outcome follows
      rcases split_around split with ⟨between, rfl, same⟩ | ⟨between, rfl, rfl⟩
      · exact later between request cause after same
      · exact (first.heeds _ _ began before request cause between rfl).of_ok outcome
    · refine (first.heeds notes _ fails before request cause after split).read ?_
      rintro _ ⟨⟩
      rfl

/-- A request whose failure is a failure of the call. -/
theorem send {request : Request} {read : Except Error Answer → Except Error α}
    (allows : allowed request) (passes : ∀ error, read (.error error) = .error error) :
    (Procedure.send request fun outcome => Procedure.ofExcept (read outcome)).Heeds allowed where
  asks notes outcome dialogue := by
    obtain ⟨given, _, repeated⟩ := dialogue_send dialogue
    rcases repeated_sent repeated with ⟨refusals, answer, _, refused, rfl⟩ | ⟨_, _, refused, _⟩
    · refine List.forall_mem_append.mpr ⟨fun note member => ?_, ?_⟩
      · obtain ⟨cause, rfl⟩ := refused note member
        exact ⟨request, _, rfl, allows⟩
      · simpa using allows
    · intro note member
      obtain ⟨cause, rfl⟩ := refused note member
      exact ⟨request, _, rfl, allows⟩
  heeds notes outcome dialogue := by
    obtain ⟨given, rfl, repeated⟩ := dialogue_send dialogue
    intro before other cause after split
    refine (heeded_of_repeated repeated before other cause after split).read ?_
    rintro error rfl
    exact passes error

theorem change {statement : Sql.Change} (allows : allowed (.change statement)) :
    (Procedure.change statement).Heeds allowed :=
  send allows fun _ => rfl

theorem fetch? {request : Request} (allows : allowed request) :
    (Procedure.fetch? request).Heeds allowed :=
  send allows fun _ => rfl

theorem forM {step : τ → Procedure PUnit} {items : List τ}
    (each : ∀ item ∈ items, (step item).Heeds allowed) : (items.forM step).Heeds allowed := by
  induction items with
  | nil => exact done _
  | cons item rest ih =>
      exact (each item List.mem_cons_self).bind fun _ =>
        ih fun other member => each other (List.mem_cons_of_mem _ member)

end Heeds

end Procedure

end ExpandContract.Session
