import ExpandContract.Proofs.Lifecycle.Courses

/-!
# What a rollback takes back

A rollback makes the changes that undo all the operations of the active migration, from the first to
the last (`undoPlan`), up to the first that fails (`Undoes`). That a change may find nothing to undo
is provided for by the changes themselves, which leave out what is not there.

A start that fails has asked for no change at all, or it has done a part of `expandAndFill` and was
then rolled back (`compensated_of_dialogue`).
-/

set_option autoImplicit false

namespace ExpandContract.MigrationSession

open Session Procedure Sql

variable {s : MigrationSession} {m : Migration} {snapshot : Schema} {notes : List Note}
  {error : Error}

/-! ## No changes -/

/-- No change was asked for. -/
def Unchanging (notes : List Note) : Prop :=
  ∀ statement reply, Note.asked (.change statement) reply ∉ notes

theorem Unchanging.append {first rest : List Note} (early : Unchanging first)
    (late : Unchanging rest) : Unchanging (first ++ rest) := by
  intro statement reply member
  rcases List.mem_append.mp member with inFirst | inRest
  · exact early statement reply inFirst
  · exact late statement reply inRest

theorem unchanging_of_asks {allowed : Request → Prop} (asked : AskedOnly allowed notes)
    (none : ∀ statement, ¬allowed (.change statement)) : Unchanging notes :=
  fun statement reply member => none statement (asked _ reply member)

theorem not_reads_change {l : Ledger} (statement : Change) : ¬l.Reads (.change statement) := by
  rintro ⟨query, _, impossible⟩
  cases impossible

theorem unchanging_of_reads {l : Ledger} (asked : AskedOnly l.Reads notes) : Unchanging notes :=
  unchanging_of_asks asked not_reads_change

theorem unchanging_of_start {l : Ledger} {schema : String}
    (asked : AskedOnly (l.StartRequest schema m) notes) : Unchanging notes := by
  refine unchanging_of_asks asked ?_
  rintro statement (reads | impossible)
  · exact not_reads_change statement reads
  · cases impossible

/-! ## Rollbacks -/

/-- The rollback makes the changes that undo a migration, in their order. -/
structure Undoes (s : MigrationSession) (active : Migration) (notes : List Note)
    (outcome : Except Error Unit) : Prop where
  /-- The server has told that this migration is the active one. -/
  tells : s.ledger.Tells s.schema active notes
  /-- Nothing is changed but what the migration has changed, and the version schema before it. -/
  asks : ∀ statement reply, Note.asked (.change statement) reply ∈ notes →
    statement ∈ s.undoPlan active ∨ ∃ version, statement = .makeVersionSchema version
  /-- A beginning of the changes is accepted, and only behind all of them the version schema. -/
  accepts : acceptedChanges notes <+: s.undoPlan active ∨
    ∃ restored, acceptedChanges notes = s.undoPlan active ++ restored ∧
      ∀ statement ∈ restored, ∃ version, statement = .makeVersionSchema version
  /-- All of them are accepted where the rollback succeeds. -/
  whole : outcome = .ok () → s.undoPlan active <+: acceptedChanges notes

/-- Behind its changes a rollback makes at most a version schema. -/
theorem version_of_finishRollback {outcome : Except Error Unit} {statement : Change}
    {reply : Except ServerError Answer} (dialogue : (s.finishRollback m).Dialogue notes outcome)
    (member : Note.asked (.change statement) reply ∈ notes) :
    ∃ version, statement = .makeVersionSchema version := by
  have finishes := asksOnly_finishRollback notes outcome dialogue _ reply member
  generalize same : Request.change statement = request at finishes
  cases finishes with
  | reads reads => exact absurd (same ▸ reads) (not_reads_change statement)
  | hasSchema => cases same
  | version =>
      cases same
      exact ⟨_, rfl⟩
  | erase => cases same

/-- What is asked for to undo a migration is in the plan. -/
theorem mem_undoPlan_of_asked {outcome : Except Error Unit} {statement : Change}
    {reply : Except ServerError Answer} (dialogue : (s.undoChanges m).Dialogue notes outcome)
    (member : Note.asked (.change statement) reply ∈ notes) : statement ∈ s.undoPlan m := by
  obtain ⟨_, among, same⟩ := follows_undoChanges.asks notes outcome dialogue _ reply member
  cases same
  exact among

/-- A rollback undoes the migration that the server tells, or it cannot read which one that is and
changes nothing. -/
theorem undoes_of_dialogue {outcome : Except Error Unit}
    (dialogue : s.rollback.Dialogue notes outcome) :
    (Unchanging notes ∧ ∃ error, outcome = .error error) ∨
      ∃ active, s.Undoes active notes outcome := by
  rw [rollback_eq] at dialogue
  rcases dialogue_bind.mp dialogue with
    ⟨first, rest, active, rfl, told, follows⟩ | ⟨error, rfl, fails⟩
  · have tells := (Ledger.tells_of_dialogue told).mono (List.subset_append_left first rest)
    have still := unchanging_of_reads (Ledger.asksOnly_activeMigration first _ told)
    have accepted : acceptedChanges (first ++ rest) = acceptedChanges rest := by
      rw [acceptedChanges_append, acceptedChanges_eq_nil still, List.nil_append]
    refine .inr ⟨active, ?_⟩
    rcases dialogue_bind.mp follows with
      ⟨undone, last, _, rfl, undoes, finishes⟩ | ⟨error, rfl, fails⟩
    · have whole := follows_undoChanges.whole undone undoes
      rw [acceptedChanges_append undone last, whole] at accepted
      refine ⟨tells, ?_, .inr ⟨_, accepted, ?_⟩, fun _ => accepted ▸ List.prefix_append _ _⟩
      · intro statement reply member
        rcases List.mem_append.mp member with early | late
        · exact absurd early (still statement reply)
        · rcases List.mem_append.mp late with inPlan | behind
          · exact .inl (mem_undoPlan_of_asked undoes inPlan)
          · exact .inr (version_of_finishRollback finishes behind)
      · intro statement member
        obtain ⟨answer, asked⟩ := mem_acceptedChanges.mp member
        exact version_of_finishRollback finishes asked
    · refine ⟨tells, ?_, .inl ?_, fun impossible => by cases impossible⟩
      · intro statement reply member
        rcases List.mem_append.mp member with early | late
        · exact absurd early (still statement reply)
        · exact .inl (mem_undoPlan_of_asked fails late)
      · rw [accepted]
        exact follows_undoChanges.prefixed rest _ fails
  · exact .inl ⟨unchanging_of_reads (Ledger.asksOnly_activeMigration notes _ fails), error, rfl⟩

/-! ## Starts that fail -/

/-- What a start does up to the snapshot that it works on. -/
def record (s : MigrationSession) (m : Migration) : Procedure Schema :=
  (s.ledger.isActive s.schema).bind fun active =>
    if active then s.refuseStart else s.ledger.start s.schema m

/-- Fills tables, and does nothing about those that cannot be filled. -/
def fillAll (s : MigrationSession) : List Table → Procedure (List Backfill.Progress)
  | [] => .done []
  | table :: rest => (Backfill.run s.config.backfill s.schema table).bind fun progress =>
      (s.fillAll rest).bind fun others => .done (progress :: others)

/-- What a start does with the snapshot of a valid migration, up to the first failure. -/
def expandAndFill (s : MigrationSession) (m : Migration) (snapshot : Schema) :
    Procedure (List Backfill.Progress) :=
  (s.expand m snapshot).bind s.fillAll

/-- A start has failed and was rolled back: `forward` is what was noted from the first change to the
failure, and `back` is what was noted of the rollback. -/
structure Compensated (s : MigrationSession) (m : Migration) (snapshot : Schema)
    (forward back notes : List Note) (outcome : Except Error Unit) (error : Error) : Prop where
  records : ∃ before, (s.record m).Dialogue before (.ok snapshot) ∧
    notes = before ++ (forward ++ back)
  fails : ∃ cause, (s.expandAndFill m snapshot).Dialogue forward (.error cause) ∧
    error = .ofUndoing cause outcome
  undoes : s.rollback.Dialogue back outcome

theorem start_eq_record : s.start m = (s.record m).bind (s.startWith m) := by
  unfold record
  rw [start_eq, Procedure.bind_assoc]
  refine congrArg _ (funext fun active => ?_)
  cases active with
  | true =>
      change s.refuseStart = s.refuseStart.bind (s.startWith m)
      unfold refuseStart
      rw [Procedure.bind_assoc]
      rfl
  | false => rfl

theorem unchanging_of_record {result : Except Error Schema}
    (dialogue : (s.record m).Dialogue notes result) : Unchanging notes := by
  have read {α : Type} {p : Procedure α} (asks : p.AsksOnly s.ledger.Reads) :
      p.AsksOnly (s.ledger.StartRequest s.schema m) := asks.mono fun _ => .inl
  have asks : (s.record m).AsksOnly (s.ledger.StartRequest s.schema m) := by
    refine .bind (read Ledger.asksOnly_isActive) fun active => ?_
    split
    · exact .bind (read Ledger.asksOnly_activeMigration) fun _ => .fail _
    · exact Ledger.asksOnly_start
  exact unchanging_of_start (asks notes result dialogue)

theorem dialogue_fillTables_error {tables : List Table}
    (dialogue : (s.fillTables tables).Dialogue notes (.error error)) :
    ∃ forward back cause outcome, notes = forward ++ back ∧
      (s.fillAll tables).Dialogue forward (.error cause) ∧ s.rollback.Dialogue back outcome ∧
      error = .ofUndoing cause outcome := by
  induction tables generalizing notes with
  | nil => cases dialogue.2
  | cons table rest ih =>
      obtain ⟨filling, others, tried, rfl, filled, follows⟩ := dialogue_attempt_bind.mp dialogue
      cases tried with
      | error cause =>
          obtain ⟨outcome, rolled, same⟩ := dialogue_undoStart follows
          cases same
          exact ⟨filling, others, cause, outcome, rfl,
            dialogue_bind.mpr (.inr ⟨cause, rfl, filled⟩), rolled, rfl⟩
      | ok progress =>
          rcases dialogue_bind.mp follows with ⟨_, _, _, _, _, _, impossible⟩ | ⟨_, same, fails⟩
          · cases impossible
          · cases same
            obtain ⟨forward, back, cause, outcome, rfl, failed, rolled, told⟩ := ih fails
            refine ⟨filling ++ forward, back, cause, outcome, (List.append_assoc ..).symm, ?_,
              rolled, told⟩
            exact dialogue_bind.mpr (.inl ⟨filling, forward, progress, rfl, filled,
              dialogue_bind.mpr (.inr ⟨cause, rfl, failed⟩)⟩)

/-- An expansion goes through, or fails and is rolled back, unless the migration is invalid. -/
theorem dialogue_expandOrUndo_cases {result : Except Error (List Table)}
    (dialogue : (s.expandOrUndo m snapshot).Dialogue notes result) :
    (Unchanging notes ∧ ∃ error, result = .error error) ∨
    (∃ tables, result = .ok tables ∧ (s.expand m snapshot).Dialogue notes (.ok tables)) ∨
    ∃ forward back cause outcome, notes = forward ++ back ∧
      (s.expand m snapshot).Dialogue forward (.error cause) ∧ s.rollback.Dialogue back outcome ∧
      result = .error (.ofUndoing cause outcome) := by
  unfold expandOrUndo at dialogue
  split at dialogue
  · obtain ⟨outcome, erased, rfl⟩ := dialogue_rejectMigration dialogue
    refine .inl ⟨unchanging_of_asks (Ledger.asksOnly_rollback _ _ erased) ?_, _, rfl⟩
    intro statement impossible
    cases impossible
  · obtain ⟨forward, rest, tried, rfl, expanded, follows⟩ := dialogue_attempt_bind.mp dialogue
    cases tried with
    | ok tables =>
        obtain ⟨rfl, rfl⟩ := follows
        rw [List.append_nil]
        exact .inr (.inl ⟨tables, rfl, expanded⟩)
    | error cause =>
        obtain ⟨outcome, rolled, rfl⟩ := dialogue_undoStart follows
        exact .inr (.inr ⟨forward, rest, cause, outcome, rfl, expanded, rolled, rfl⟩)

/-- A start that fails has asked for no change, or it has been rolled back. -/
theorem compensated_of_dialogue (dialogue : (s.start m).Dialogue notes (.error error)) :
    Unchanging notes ∨ ∃ snapshot forward back outcome,
      s.Compensated m snapshot forward back notes outcome error := by
  rw [start_eq_record] at dialogue
  rcases dialogue_bind.mp dialogue with ⟨before, rest, snapshot, rfl, recorded, follows⟩ |
    ⟨_, _, fails⟩
  · have still := unchanging_of_record recorded
    rcases dialogue_bind.mp follows with ⟨expanding, filling, tables, rfl, expanded, filled⟩ |
      ⟨_, same, fails⟩
    · rcases dialogue_expandOrUndo_cases expanded with ⟨_, _, impossible⟩ | ⟨_, same, expanded⟩ |
        ⟨_, _, _, _, _, _, _, impossible⟩
      · cases impossible
      · cases same
        obtain ⟨forward, back, cause, outcome, rfl, failed, rolled, told⟩ :=
          dialogue_fillTables_error filled
        refine .inr ⟨snapshot, expanding ++ forward, back, outcome,
          ⟨before, recorded, by simp only [List.append_assoc]⟩, ⟨cause, ?_, told⟩, rolled⟩
        exact dialogue_bind.mpr (.inl ⟨expanding, forward, tables, rfl, expanded, failed⟩)
      · cases impossible
    · cases same
      rcases dialogue_expandOrUndo_cases fails with ⟨quiet, _⟩ | ⟨_, impossible, _⟩ |
        ⟨forward, back, cause, outcome, rfl, failed, rolled, told⟩
      · exact .inl (still.append quiet)
      · cases impossible
      · cases told
        exact .inr ⟨snapshot, forward, back, outcome, ⟨before, recorded, rfl⟩,
          ⟨cause, dialogue_bind.mpr (.inr ⟨cause, rfl, failed⟩), rfl⟩, rolled⟩
  · exact .inl (unchanging_of_record fails)

end ExpandContract.MigrationSession
