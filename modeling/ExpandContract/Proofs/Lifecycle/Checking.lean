import ExpandContract.Proofs.Ledger.Queries
import ExpandContract.Proofs.Lifecycle.Closing
import ExpandContract.Proofs.Session.Heeding

/-!
# Checks before changes

A completion cannot be undone, so it begins with checks that change nothing a client can see: it
reads which migration is active and validates the pending constraints of all its operations
(`MigrationSession.checks`). Only when the server has accepted them all does it touch a version
schema, a table or the ledger, or run a hook. A check that fails ends the completion, and the
migration can be completed again or rolled back as if nothing had happened
(`checks_before_changes`).
-/

set_option autoImplicit false

namespace ExpandContract

open Session Procedure Sql

namespace MigrationSession

variable {s : MigrationSession} {m : Migration} {notes : List Note} {outcome : Except Error Unit}

/-! ## The checks -/

/-- The requests of the checks. None of them changes what a client sees, or the ledger. -/
inductive CheckRequest (s : MigrationSession) : Request → Prop where
  | reads : CheckRequest s (s.ledger.request (.activeMigration s.schema))
  | validates (table constraint : String) :
      CheckRequest s (.change (.validateConstraint s.schema table constraint))

/-- The server has told the active migration, and has accepted every validation that any of its
operations asks for. -/
def Checked (s : MigrationSession) (notes : List Note) : Prop :=
  ∃ m, s.ledger.Tells s.schema m notes ∧
    m.operations.flatMap (Operation.preparation (s.phaseContext m)) <+: acceptedChanges notes

theorem Checked.append {first : List Note} (checked : s.Checked first) (rest : List Note) :
    s.Checked (first ++ rest) := by
  obtain ⟨m, tells, validated⟩ := checked
  refine ⟨m, tells.mono (List.subset_append_left ..), ?_⟩
  rw [acceptedChanges_append]
  exact validated.trans (List.prefix_append ..)

/-- The checks of a completion. -/
def checks (s : MigrationSession) : Procedure Migration := do
  let m ← s.ledger.activeMigration s.schema
  prepareOperations (s.phaseContext m) m.operations
  return m

/-- A completion is its checks, and what it does with the migration that they give. -/
theorem complete_eq_checks :
    s.complete = s.checks.bind fun m => s.retirePrevious.bind fun _ => s.contract m := by
  change s.complete = s.checks >>= fun m => s.retirePrevious >>= fun _ => s.contract m
  rw [complete_eq]
  simp only [checks, LawfulMonad.bind_assoc, LawfulMonad.pure_bind]
  rfl

theorem heeds_prepareOperations {operations : List Operation} :
    (prepareOperations (s.phaseContext m) operations).Heeds s.CheckRequest := by
  induction operations with
  | nil => exact .done _
  | cons op rest ih =>
      refine .bind ?_ fun _ => ih
      cases op with
      | addColumn op => exact .forM fun name _ => .change (.validates op.table name)
      | _ => exact .done _

theorem heeds_checks : s.checks.Heeds s.CheckRequest := by
  have reading : (s.ledger.activeMigration s.schema).Heeds s.CheckRequest := by
    rw [Ledger.activeMigration_eq]
    exact .send .reads fun _ => rfl
  exact .bind reading fun _ => heeds_prepareOperations.bind fun _ => .done _

/-- Checks that succeed have been made in full. -/
theorem checked_of_checks (dialogue : s.checks.Dialogue notes (.ok m)) : s.Checked notes := by
  obtain ⟨reading, rest, active, rfl, told, follows⟩ := dialogue_bind_ok.mp dialogue
  obtain ⟨validating, _, _, rfl, validated, rfl, _⟩ := dialogue_bind_ok.mp follows
  refine ⟨active, (Ledger.tells_of_dialogue told).mono (List.subset_append_left ..), ?_⟩
  have noneYet : acceptedChanges reading = [] :=
    acceptedChanges_eq_nil fun statement reply member => not_reads_change statement
      (Ledger.asksOnly_activeMigration reading _ told _ _ member)
  rw [acceptedChanges_append, noneYet, List.append_nil,
    follows_prepareOperations.whole validating validated]
  exact List.prefix_rfl

/-! ## A completion around its checks -/

/-- How the checks stand in the notes of a completion: it has got past them, or it has ended with
them. -/
inductive AroundChecks (s : MigrationSession) : List Note → Except Error Unit → Prop where
  | past {first rest : List Note} {m : Migration} {outcome : Except Error Unit}
      (checks : s.checks.Dialogue first (.ok m)) : AroundChecks s (first ++ rest) outcome
  | ended {notes : List Note} {error : Error} (checks : s.checks.Dialogue notes (.error error)) :
      AroundChecks s notes (.error error)

theorem aroundChecks_of_complete (dialogue : s.complete.Dialogue notes outcome) :
    s.AroundChecks notes outcome := by
  rw [complete_eq_checks] at dialogue
  rcases dialogue_bind.mp dialogue with ⟨first, rest, m, rfl, checks, _⟩ | ⟨error, rfl, checks⟩
  · exact .past checks
  · exact .ended checks

/-- A note that is made before all checks have passed is one of a check. -/
theorem split_of_not_checked {first rest before after : List Note} {note : Note}
    (checks : s.checks.Dialogue first (.ok m))
    (split : first ++ rest = before ++ note :: after) (unchecked : ¬s.Checked before) :
    ∃ later, first = before ++ note :: later ∧ after = later ++ rest := by
  have checked := checked_of_checks checks
  rcases split_around split with ⟨between, rfl, _⟩ | ⟨between, rfl, rfl⟩
  · exact absurd (checked.append between) unchecked
  · exact ⟨between, rfl, rfl⟩

/-- The answer from which the checks go on tells a migration, and they end with any other one. -/
theorem answered_of_checks {result : Except Error Migration} {before after : List Note}
    {answer : Answer} {error : Error}
    (checks : s.checks.Dialogue
      (before ++ .asked (s.ledger.request (.activeMigration s.schema)) (.ok answer) :: after)
        result)
    (unread : Ledger.migrationIn (.noActiveMigration s.schema) answer = .error error) :
    after = [] ∧ result = .error error := by
  rw [show s.checks = (s.ledger.activeMigration s.schema).bind fun m =>
    (prepareOperations (s.phaseContext m) m.operations).bind fun _ => .done m from rfl,
    Ledger.activeMigration_eq] at checks
  rcases dialogue_bind.mp checks with
    ⟨reading, rest, m, split, told, follows⟩ | ⟨failed, rfl, fails⟩
  · -- The answer has told the migration, so it is not the unreadable one.
    obtain ⟨refusals, other, tells, refused, rfl⟩ := dialogue_ask_ok told
    have member : .asked (s.ledger.request (.activeMigration s.schema)) (.ok answer) ∈
        (refusals ++ [.asked (s.ledger.request (.activeMigration s.schema)) (.ok other)]) ++ rest :=
      split ▸ by simp
    rcases List.mem_append.mp member with early | late
    · cases (refused.eq_of_answered early).2
      cases tells.symm.trans unread
    · have validating : ((prepareOperations (s.phaseContext m) m.operations).bind fun _ =>
          (.done m : Procedure Migration)).AsksOnly
            fun request => ∃ statement, request = .change statement :=
        .bind (follows_prepareOperations.asks.mono fun _ ⟨statement, _, same⟩ => ⟨statement, same⟩)
          fun _ => .done _
      obtain ⟨_, impossible⟩ := validating rest _ follows _ _ late
      cases impossible
  · rcases dialogue_ask fails with ⟨refusals, other, tells, refused, split⟩ | ⟨_, refused⟩
    · have member : .asked (s.ledger.request (.activeMigration s.schema)) (.ok answer) ∈
          refusals ++ [.asked (s.ledger.request (.activeMigration s.schema)) (.ok other)] :=
        split ▸ by simp
      cases (refused.eq_of_answered member).2
      obtain ⟨_, _, ends⟩ := Closing.attempts_around refused (.inr ⟨answer, rfl⟩) split.symm
      exact ⟨ends answer rfl, tells.trans unread⟩
    · obtain ⟨_, impossible⟩ := refused _ (List.mem_append_right _ List.mem_cons_self)
      cases impossible

/-- A completion checks before it changes. As long as not all checks have passed, it does nothing
but make checks. A check that is refused for a lasting cause ends it with that cause, one that is
refused a lock is made again unless the session has been cancelled, and an answer that tells no
active migration ends it with that error. So where the checks do not pass, the completion fails,
and checks are all that it has made. -/
theorem checks_before_changes (shown : s.complete.Shows notes outcome) :
    (∀ before note after, notes = before ++ note :: after → ¬s.Checked before →
      ∃ request reply, note = .asked request reply ∧ s.CheckRequest request) ∧
    (∀ before request cause after, notes = before ++ .asked request (.error cause) :: after →
      ¬s.Checked before → AfterRefusal request cause after outcome) ∧
    (∀ before answer after error,
      notes =
        before ++ .asked (s.ledger.request (.activeMigration s.schema)) (.ok answer) :: after →
      ¬s.Checked before →
      Ledger.migrationIn (.noActiveMigration s.schema) answer = .error error →
        after = [] ∧ outcome = .error error) ∧
    (¬s.Checked notes → AsksAlone s.CheckRequest notes ∧ ∃ error, outcome = .error error) := by
  cases aroundChecks_of_complete shown.dialogue with
  | past checks =>
      refine ⟨?_, ?_, ?_, fun unchecked => absurd ((checked_of_checks checks).append _) unchecked⟩
      · intro before note after split unchecked
        obtain ⟨later, rfl, rfl⟩ := split_of_not_checked checks split unchecked
        exact heeds_checks.asks _ _ checks note (by simp)
      · intro before request cause after split unchecked
        obtain ⟨later, rfl, rfl⟩ := split_of_not_checked checks split unchecked
        exact (heeds_checks.heeds _ _ checks before request cause later rfl).of_ok outcome
      · intro before answer after error split unchecked unread
        obtain ⟨later, rfl, rfl⟩ := split_of_not_checked checks split unchecked
        cases (answered_of_checks checks unread).2
  | ended checks =>
      have asks := heeds_checks.asks notes _ checks
      refine ⟨?_, ?_, ?_, fun _ => ⟨asks, _, rfl⟩⟩
      · intro before note after split _
        exact asks note (split ▸ by simp)
      · intro before request cause after split _
        refine (heeds_checks.heeds notes _ checks before request cause after split).read ?_
        rintro _ ⟨⟩
        rfl
      · intro before answer after error split _ unread
        subst split
        obtain ⟨nothing, same⟩ := answered_of_checks checks unread
        cases same
        exact ⟨nothing, rfl⟩

/-! ## A validation that is refused -/

/-- A migration that adds a column which every row must have a value for. -/
def requiresEmail : Migration :=
  { name := "require_email"
    versionSchema := none
    operations := [.addColumn
      { table := "users"
        column := { ColumnDefinition.ofType "email" "text" with nullable := false }
        up := none }] }

/-- The server has found a row without a value. -/
def violatedCheck : ServerError :=
  { code := "23514", message := "check constraint is violated by some row" }

/-- A server that refuses all validations, and has a version before the active one. -/
def refusingValidations : Request → Except ServerError Answer
  | .change (.validateConstraint _ _ _) => .error violatedCheck
  | request => succeeding (initialVersion none) requiresEmail request

/-- What is noted of a completion with that server. -/
def uncheckedEnd : List Note :=
  usual.complete.notesWith refusingValidations

/-- The completion ends with the refused validation: the version schema before is still there. -/
theorem refused_validation_ends_completion :
    usual.complete.Shows uncheckedEnd (.error (.database (.server violatedCheck))) ∧
      uncheckedEnd.length = 2 ∧ versionSteps uncheckedEnd = [] ∧ ¬usual.Checked uncheckedEnd ∧
        AsksAlone usual.CheckRequest uncheckedEnd := by
  have shown : usual.complete.Shows uncheckedEnd (.error (.database (.server violatedCheck))) :=
    shows_of_outcomeWith rfl
  have unchecked : ¬usual.Checked uncheckedEnd := by
    rintro ⟨m, tells, validated⟩
    cases Ledger.eq_of_told_answering (m := requiresEmail) rfl tells
    have none : acceptedChanges uncheckedEnd = [] := rfl
    rw [none] at validated
    exact absurd (List.prefix_nil.mp validated) (List.cons_ne_nil _ _)
  exact ⟨shown, rfl, rfl, unchecked, ((checks_before_changes shown).2.2.2 unchecked).1⟩

end MigrationSession

end ExpandContract
