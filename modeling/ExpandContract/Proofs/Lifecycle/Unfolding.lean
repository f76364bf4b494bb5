import ExpandContract.Proofs.Catalogue.Mirroring
import ExpandContract.Proofs.Lifecycle.Compensation

/-!
# What a start has changed

A start that succeeds on a snapshot on which its migration is valid has made the changes of all
operations, in their order, and around them only such as are not about tables: those of hooks, and
the version schema (`achieves_startWith`). The tables that it has filled are those to which the
migration adds a computed column.
-/

set_option autoImplicit false

namespace ExpandContract.MigrationSession

open Session Procedure Sql Check

variable {s : MigrationSession} {m : Migration} {ctx : PhaseContext} {before after : Schema}
  {operations : List Operation}

/-- The table is filled for a column that one of the operations adds. -/
def FilledFor (operations : List Operation) (table : Table) : Prop :=
  ∃ added, .addColumn added ∈ operations ∧ added.up ≠ none ∧ table.name = added.table

/-- Operations that pass their checks unfold, and play what the checks play. -/
theorem achieves_startOperations {alone : Bool} (known : ∀ op ∈ operations, op.isRawSql = false)
    (checked : (checkOperations alone operations).Passes before () after) :
    (s.startOperations ctx operations before).Achieves fun changes result =>
      Unfolds ctx before operations changes after ∧ result.2 = after ∧
        (before.OwnNames → ∀ table ∈ result.1, FilledFor operations table) := by
  induction operations generalizing before with
  | nil =>
      cases passes_checkOperations_nil.mp checked
      exact .done ⟨.nil, rfl, by simp⟩
  | cons op rest ih =>
      obtain ⟨_, between, first, others⟩ := passes_checkOperations_cons.mp checked
      have notRaw := known op List.mem_cons_self
      have foreseen : (op.effectUnknown && op.standsAlone) = false := by
        cases op with
        | rawSql op => cases notRaw
        | _ => rfl
      simp only [startOperations, foreseen, Bool.false_eq_true, if_false, pure_bind]
      refine .bind (op.achieves_start notRaw first) fun changes started starts => ?_
      rw [starts.schema]
      refine .bind (ih (fun other member => known other (List.mem_cons_of_mem _ member)) others) ?_
      rintro later ⟨tables, final⟩ ⟨unfolds, rfl, fills⟩
      refine .done ⟨?_, rfl, fun own table member => ?_⟩
      · rw [List.append_nil]
        exact .cons first starts.expands unfolds
      · rcases List.mem_append.mp member with now | later
        · obtain ⟨added, rfl, computed, shown, found, rfl⟩ :=
            starts.fills table (Option.mem_toList.mp now)
          exact ⟨added, List.mem_cons_self, computed, own _ shown found⟩
        · obtain ⟨added, among, rest⟩ := fills (Operation.ownNames_of_check first own) table later
          exact ⟨added, List.mem_cons_of_mem _ among, rest⟩

/-- The changes of all operations of the migration, and around them changes that are not about
tables. -/
def Unfolded (s : MigrationSession) (m : Migration) (before after : Schema)
    (changes : List Change) : Prop :=
  ∃ early made late, changes = early ++ (made ++ late) ∧ (∀ statement ∈ early, statement.Neutral) ∧
    (∀ statement ∈ late, statement.Neutral) ∧
      Unfolds (s.phaseContext m) before m.operations made after

/-- On tables and triggers, the changes of the operations are all that counts. -/
theorem Unfolded.after_eq {changes : List Change} (unfolded : s.Unfolded m before after changes) :
    ∃ made, Unfolds (s.phaseContext m) before m.operations made after ∧
      ∀ h : Holdings, h.after changes = h.after made := by
  obtain ⟨early, made, late, rfl, earlyNeutral, lateNeutral, unfolds⟩ := unfolded
  refine ⟨made, unfolds, fun h => ?_⟩
  rw [Holdings.after_append, Holdings.after_append, Holdings.after_neutral earlyNeutral,
    Holdings.after_neutral lateNeutral]

theorem achieves_runPhaseHooks (phase : HookPhase) :
    (s.runPhaseHooks phase).Achieves fun changes _ => ∀ statement ∈ changes, statement.Neutral := by
  refine (Achieves.of_asks asksOnly_runPhaseHooks).mono fun changes _ hooked statement member => ?_
  obtain ⟨_, _, _, _, isRaw⟩ := hooked statement member
  cases isRaw
  trivial

/-- Changes as described, and around them changes that are not about tables. -/
def Framed (described : List Change → Prop) (changes : List Change) : Prop :=
  ∃ early made late, changes = early ++ (made ++ late) ∧ (∀ statement ∈ early, statement.Neutral) ∧
    (∀ statement ∈ late, statement.Neutral) ∧ described made

theorem Framed.mono {described more : List Change → Prop} {changes : List Change}
    (framed : Framed described changes) (implies : ∀ made, described made → more made) :
    Framed more changes := by
  obtain ⟨early, made, late, split, earlyNeutral, lateNeutral, holds⟩ := framed
  exact ⟨early, made, late, split, earlyNeutral, lateNeutral, implies made holds⟩

/-- An expansion makes the changes of the operations, and around them those of hooks and the version
schema. -/
theorem achieves_expand_of (described : List Change → List Table → Prop)
    (started : (s.startOperations (s.phaseContext m) m.operations before).Achieves
      fun changes result => described changes result.1) :
    (s.expand m before).Achieves fun changes tables => Framed (described · tables) changes := by
  refine .bind (achieves_runPhaseHooks _) fun early _ earlyNeutral => ?_
  refine .bind started ?_
  rintro made ⟨tables, final⟩ holds
  refine .bind (achieves_runPhaseHooks _) fun late _ lateNeutral => ?_
  dsimp only
  split
  · refine .bind (.change _) ?_
    rintro _ _ rfl
    refine .done ⟨early, made, _, rfl, earlyNeutral, ?_, holds⟩
    exact List.forall_mem_append.mpr ⟨lateNeutral, by simp [Change.Neutral]⟩
  · refine .done ⟨early, made, late, ?_, earlyNeutral, lateNeutral, holds⟩
    rw [List.append_nil]

/-- Tables are filled without a change. -/
theorem achieves_fillTables (tables : List Table) :
    (s.fillTables tables).Achieves fun changes _ => changes = [] := by
  induction tables with
  | nil => exact .done rfl
  | cons table rest ih =>
      intro notes progress dialogue
      obtain ⟨filling, others, outcome, rfl, filled, follows⟩ := dialogue_attempt_bind.mp dialogue
      have quiet : acceptedChanges filling = [] := by
        refine acceptedChanges_eq_nil fun statement reply member => ?_
        cases Backfill.asksOnly_run _ _ _ filling outcome filled _ reply member
      cases outcome with
      | error cause =>
          obtain ⟨_, _, impossible⟩ := dialogue_undoStart follows
          cases impossible
      | ok done =>
          obtain ⟨between, last, value, rfl, begun, ends, _⟩ := dialogue_bind_ok.mp follows
          rw [acceptedChanges_append, acceptedChanges_append, quiet, ih between value begun, ends]
          rfl

section Valid

variable (validated : m.validated before = .ok after)
include validated

/-- Where the migration is valid, what is done with the snapshot is an expansion, if it succeeds. -/
theorem achieves_expandOrUndo_of (described : List Change → List Table → Prop)
    (started : (s.startOperations (s.phaseContext m) m.operations before).Achieves
      fun changes result => described changes result.1) :
    (s.expandOrUndo m before).Achieves fun changes tables =>
      Framed (described · tables) changes := by
  rw [expandOrUndo_of_validated validated]
  intro notes tables dialogue
  obtain ⟨forward, rest, outcome, rfl, expanded, follows⟩ := dialogue_attempt_bind.mp dialogue
  cases outcome with
  | ok expandedTables =>
      obtain ⟨rfl, same⟩ := follows
      cases same
      rw [List.append_nil]
      exact achieves_expand_of described started forward _ expanded
  | error cause =>
      obtain ⟨_, _, impossible⟩ := dialogue_undoStart follows
      cases impossible

/-- Where the migration is valid, a start that succeeds makes the changes of the operations, and
around them changes that are not about tables. -/
theorem achieves_startWith_of (described : List Change → Prop)
    (started : (s.startOperations (s.phaseContext m) m.operations before).Achieves
      fun changes _ => described changes) :
    (s.startWith m before).Achieves fun changes _ => Framed described changes := by
  refine .bind (achieves_expandOrUndo_of validated (fun changes _ => described changes) started)
    fun changes tables framed => ?_
  refine (achieves_fillTables tables).mono ?_
  rintro _ _ rfl
  rw [List.append_nil]
  exact framed

variable (known : ∀ op ∈ m.operations, op.isRawSql = false)
include known

/-- Where the migration is valid, what is done with the snapshot unfolds it, if it succeeds. -/
theorem achieves_expandOrUndo :
    (s.expandOrUndo m before).Achieves fun changes tables =>
      s.Unfolded m before after changes ∧
        (before.OwnNames → ∀ table ∈ tables, FilledFor m.operations table) := by
  obtain ⟨_, _, checked⟩ := Migration.validated_eq_ok.mp validated
  have expanded := achieves_expandOrUndo_of validated
    (fun changes tables => Unfolds (s.phaseContext m) before m.operations changes after ∧
      (before.OwnNames → ∀ table ∈ tables, FilledFor m.operations table))
    ((achieves_startOperations known checked).mono fun _ _ ⟨unfolds, _, fills⟩ => ⟨unfolds, fills⟩)
  refine expanded.mono fun changes tables framed => ⟨framed.mono fun _ holds => holds.1, ?_⟩
  obtain ⟨_, _, _, _, _, _, _, fills⟩ := framed
  exact fills

/-- A start that succeeds unfolds the migration. -/
theorem achieves_startWith :
    (s.startWith m before).Achieves fun changes _ => s.Unfolded m before after changes := by
  obtain ⟨_, _, checked⟩ := Migration.validated_eq_ok.mp validated
  exact achieves_startWith_of validated (Unfolds (s.phaseContext m) before m.operations · after)
    ((achieves_startOperations known checked).mono fun _ _ holds => holds.1)

end Valid

end ExpandContract.MigrationSession
