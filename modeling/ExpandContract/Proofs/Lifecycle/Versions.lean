import ExpandContract.Proofs.Ledger.Answers
import ExpandContract.Proofs.Lifecycle.Courses

/-!
# Version schemas along the lifecycle

A version schema is made and dropped by its name, and by different calls: a start makes the one of
its migration, and a completion drops the one of the version before and may make its own anew.
`versionSteps` reads off the notes of a session which of them were made and which were dropped, each
under the name that the server stores. `thereAfter` follows one name through such steps.

Most parts of the lifecycle leave version schemas alone (`SparesVersions`). The steps of the others
follow from the session and the migration: `stepsThrough_expand` for what a start does to a schema,
`versionSteps_of_start` for a whole start that succeeds, and `dialogue_complete` for a completion.

Nothing is known about SQL of the user. It is taken to leave version schemas alone.
-/

set_option autoImplicit false

namespace ExpandContract

/-! ## Steps -/

namespace Sql

/-- What a change does to the version schemas. -/
inductive VersionStep where
  | made (name : String)
  | dropped (name : String)
deriving DecidableEq, Repr

namespace VersionStep

/-- The version schema that a step is about. -/
def name : VersionStep → String
  | .made name => name
  | .dropped name => name

/-- Whether there is a version schema of that name after a step. -/
def leaves (name : String) (there : Bool) : VersionStep → Bool
  | .made other => if other = name then true else there
  | .dropped other => if other = name then false else there

theorem leaves_of_ne {name : String} {there : Bool} {step : VersionStep}
    (other : step.name ≠ name) :
    step.leaves name there = there := by
  cases step with
  | made _ => exact if_neg other
  | dropped _ => exact if_neg other

end VersionStep

/-- What a change does to the version schemas, if it is about one. -/
def Change.versionStep? : Change → Option VersionStep
  | .makeVersionSchema version => some (.made (storedName version.name))
  | .dropVersionSchema name => some (.dropped (storedName name))
  | _ => none

/-- Whether there is a version schema of that name after some steps. -/
def thereAfter (name : String) : Bool → List VersionStep → Bool :=
  List.foldl (VersionStep.leaves name)

section ThereAfter

variable {name : String} {there : Bool}

@[simp]
theorem thereAfter_nil : thereAfter name there [] = there := rfl

@[simp]
theorem thereAfter_cons (step : VersionStep) (rest : List VersionStep) :
    thereAfter name there (step :: rest) = thereAfter name (step.leaves name there) rest := rfl

theorem thereAfter_append (first rest : List VersionStep) :
    thereAfter name there (first ++ rest) = thereAfter name (thereAfter name there first) rest :=
  List.foldl_append

/-- Steps that are about others leave a version schema as it is. -/
theorem thereAfter_of_ne {steps : List VersionStep} (others : ∀ step ∈ steps, step.name ≠ name) :
    thereAfter name there steps = there := by
  induction steps with
  | nil => rfl
  | cons step rest ih =>
      rw [thereAfter_cons, VersionStep.leaves_of_ne (others step List.mem_cons_self)]
      exact ih fun other member => others other (List.mem_cons_of_mem _ member)

end ThereAfter

end Sql

namespace Session

open Sql

variable {α β : Type}

/-- What the accepted changes have done to the version schemas. -/
def versionSteps (notes : List Note) : List VersionStep :=
  (acceptedChanges notes).filterMap Change.versionStep?

theorem versionSteps_append (first rest : List Note) :
    versionSteps (first ++ rest) = versionSteps first ++ versionSteps rest := by
  unfold versionSteps
  rw [acceptedChanges_append, List.filterMap_append]

/-- The request does nothing to the version schemas. -/
def SparesVersions (request : Request) : Prop :=
  ∀ statement, request = .change statement → statement.versionStep? = none

theorem versionSteps_of_spares {notes : List Note} (asked : AskedOnly SparesVersions notes) :
    versionSteps notes = [] := by
  refine List.filterMap_eq_nil_iff.mpr fun statement member => ?_
  obtain ⟨answer, asks⟩ := mem_acceptedChanges.mp member
  exact asked _ _ asks statement rfl

theorem sparesVersions_of_reads {l : Ledger} {request : Request} (reads : l.Reads request) :
    SparesVersions request := by
  obtain ⟨query, _, rfl⟩ := reads
  rintro statement ⟨⟩

namespace Procedure

/-- The procedure takes these steps in their order, up to the first that fails. -/
structure StepsThrough (p : Procedure α) (plan : List VersionStep) : Prop where
  prefixed : ∀ notes result, p.Dialogue notes result → versionSteps notes <+: plan
  whole : ∀ notes value, p.Dialogue notes (.ok value) → versionSteps notes = plan

namespace StepsThrough

variable {p : Procedure α} {plan later : List VersionStep}

theorem spares (asks : p.AsksOnly SparesVersions) : p.StepsThrough [] where
  prefixed notes result dialogue := by
    simp [versionSteps_of_spares (asks notes result dialogue)]
  whole notes value dialogue := versionSteps_of_spares (asks notes _ dialogue)

theorem done (value : α) : (Procedure.done value).StepsThrough [] :=
  spares (.done value)

theorem bind {f : α → Procedure β} (first : p.StepsThrough plan)
    (rest : ∀ value, (f value).StepsThrough later) :
    (p.bind f).StepsThrough (plan ++ later) where
  prefixed notes result dialogue := by
    rcases dialogue_bind.mp dialogue with ⟨before, after, value, rfl, done, follows⟩ | ⟨_, _, fails⟩
    · rw [versionSteps_append, first.whole before value done]
      exact (List.prefix_append_right_inj plan).mpr ((rest value).prefixed after result follows)
    · exact (first.prefixed notes _ fails).trans (List.prefix_append plan later)
  whole notes last dialogue := by
    obtain ⟨before, after, value, rfl, done, follows⟩ := dialogue_bind_ok.mp dialogue
    rw [versionSteps_append, first.whole before value done, (rest value).whole after last follows]

/-- What follows a procedure that leaves version schemas alone. -/
theorem after {f : α → Procedure β} (first : p.AsksOnly SparesVersions)
    (rest : ∀ value, (f value).StepsThrough plan) : (p.bind f).StepsThrough plan :=
  (spares first).bind rest

theorem change (statement : Change) :
    (Procedure.change statement).StepsThrough statement.versionStep?.toList := by
  have follows := Follows.change statement
  have steps : [statement].filterMap Change.versionStep? = statement.versionStep?.toList := by
    rw [List.filterMap_cons]
    cases statement.versionStep? <;> rfl
  constructor
  · intro notes result dialogue
    rw [← steps]
    exact (follows.prefixed notes result dialogue).filterMap _
  · intro notes _ dialogue
    rw [← steps, versionSteps, follows.whole notes dialogue]

end StepsThrough

end Procedure

end Session

/-! ## Operations -/

section Operations

open Session Procedure Sql

variable {ctx : PhaseContext}

theorem spares_change {statement : Change} (spares : statement.versionStep? = none) :
    (Procedure.change statement).AsksOnly SparesVersions := by
  refine .change ?_
  rintro _ ⟨⟩
  exact spares

theorem RawSql.spares_runText {sql : String} : (runText ctx sql).AsksOnly SparesVersions :=
  .bind PhaseContext.asksOnly_transform fun _ => spares_change rfl

theorem Operation.spares_prepare (op : Operation) : (op.prepare ctx).AsksOnly SparesVersions := by
  cases op with
  | addColumn op => exact .forM (fun _ => spares_change rfl) _
  | _ => exact .done _

theorem AddColumn.spares_complete (op : AddColumn) : (op.complete ctx).AsksOnly SparesVersions := by
  refine .guarded (spares_change rfl) (.bind (spares_change rfl) fun _ => ?_)
  refine .guarded (spares_change rfl) ?_
  split
  · exact spares_change rfl
  · exact .done _

theorem Operation.spares_complete (op : Operation) : (op.complete ctx).AsksOnly SparesVersions := by
  cases op with
  | createTable op => exact .done _
  | dropTable op => exact spares_change rfl
  | addColumn op => exact op.spares_complete
  | dropColumn op => exact .guarded (spares_change rfl) (spares_change rfl)
  | renameColumn op => exact spares_change rfl
  | createIndex op => exact .done _
  | dropIndex op => exact spares_change rfl
  | rawSql op =>
      change (op.complete ctx).AsksOnly SparesVersions
      unfold RawSql.complete
      split
      · exact RawSql.spares_runText
      · exact .done _

end Operations

namespace MigrationSession

open Session Procedure Sql

variable {s : MigrationSession} {m : Migration} {notes : List Note}

/-! ## Starts -/

/-- The name under which the server stores the version schema of a migration. -/
def versionName (s : MigrationSession) (m : Migration) : String :=
  storedName (m.versionSchemaName s.schema)

theorem sparesVersions_of_hook {request : Request} (hook : s.HookRequest request) :
    SparesVersions request := by
  obtain ⟨_, _, _, _, rfl⟩ := hook
  rintro _ ⟨⟩
  rfl

theorem spares_runPhaseHooks (phase : HookPhase) :
    (s.runPhaseHooks phase).AsksOnly SparesVersions :=
  asksOnly_runPhaseHooks.mono fun _ => sparesVersions_of_hook

theorem spares_readSchema : (s.ledger.readSchema s.schema).AsksOnly SparesVersions :=
  Ledger.asksOnly_readSchema.mono fun _ reads => sparesVersions_of_reads reads.reads

theorem spares_startOperations {ctx : PhaseContext} {operations : List Operation}
    {snapshot : Schema} :
    (s.startOperations ctx operations snapshot).AsksOnly SparesVersions := by
  refine asksOnly_startOperations ?_ fun _ reads => sparesVersions_of_reads reads.reads
  rintro op _ statement starts _ ⟨⟩
  cases starts <;> rfl

theorem stepsThrough_makeVersionSchema (snapshot : Schema) :
    (s.makeVersionSchema snapshot (m.versionSchemaName s.schema)).StepsThrough
      [.made (s.versionName m)] :=
  .change _

/-- The version schema that a start makes. -/
def startSteps (s : MigrationSession) (m : Migration) : List VersionStep :=
  if s.config.keepsVersionSchema m then [.made (s.versionName m)] else []

theorem name_of_mem_startSteps {step : VersionStep} (member : step ∈ s.startSteps m) :
    step.name = s.versionName m := by
  unfold startSteps at member
  split at member
  · rw [List.mem_singleton.mp member]
    rfl
  · cases member

/-- What a start does to a schema ends with its version schema, where the session keeps one. -/
theorem stepsThrough_expand {snapshot : Schema} :
    (s.expand m snapshot).StepsThrough (s.startSteps m) := by
  refine .after (spares_runPhaseHooks _) fun _ => ?_
  refine .after spares_startOperations fun (tables, final) => ?_
  refine .after (spares_runPhaseHooks _) fun _ => ?_
  unfold startSteps
  dsimp only
  split
  · exact .bind (stepsThrough_makeVersionSchema final) fun _ => .done _
  · exact .done _

/-- A start that is undone does not succeed. -/
theorem not_ok_undoStart {α : Type} {cause : Error} {value : α}
    (dialogue : (s.undoStart cause : Procedure α).Dialogue notes (.ok value)) : False := by
  obtain ⟨_, _, impossible⟩ := dialogue_undoStart dialogue
  cases impossible

theorem versionSteps_of_expandOrUndo {snapshot : Schema} {tables : List Table}
    (dialogue : (s.expandOrUndo m snapshot).Dialogue notes (.ok tables)) :
    versionSteps notes = s.startSteps m := by
  unfold expandOrUndo at dialogue
  split at dialogue
  · obtain ⟨_, _, impossible⟩ := dialogue_rejectMigration dialogue
    cases impossible
  · obtain ⟨forward, rest, outcome, rfl, expanded, follows⟩ := dialogue_attempt_bind.mp dialogue
    cases outcome with
    | ok tables =>
        obtain ⟨rfl, _⟩ := follows
        rw [List.append_nil]
        exact stepsThrough_expand.whole forward tables expanded
    | error cause => exact (not_ok_undoStart follows).elim

theorem versionSteps_of_fillTables {tables : List Table} {progress : List Backfill.Progress}
    (dialogue : (s.fillTables tables).Dialogue notes (.ok progress)) : versionSteps notes = [] := by
  induction tables generalizing notes progress with
  | nil =>
      obtain ⟨rfl, _⟩ := dialogue
      rfl
  | cons table rest ih =>
      obtain ⟨filling, others, outcome, rfl, filled, follows⟩ := dialogue_attempt_bind.mp dialogue
      have quiet : versionSteps filling = [] := by
        refine versionSteps_of_spares ((Backfill.asksOnly_run _ _ _ filling outcome filled).mono ?_)
        rintro _ fills statement rfl
        cases fills
      cases outcome with
      | ok progress =>
          obtain ⟨first, last, value, rfl, done, rfl, _⟩ := dialogue_bind_ok.mp follows
          rw [versionSteps_append, quiet, List.append_nil, ih done]
          rfl
      | error cause => exact (not_ok_undoStart follows).elim

/-- A start that succeeds makes the version schema of its migration, where the session keeps one,
and does nothing else to version schemas. -/
theorem versionSteps_of_start {progress : List Backfill.Progress}
    (dialogue : (s.start m).Dialogue notes (.ok progress)) :
    versionSteps notes = s.startSteps m := by
  rw [start_eq] at dialogue
  obtain ⟨looking, rest, active, rfl, looked, follows⟩ := dialogue_bind_ok.mp dialogue
  have spared := (Ledger.asksOnly_isActive looking _ looked).mono fun _ => sparesVersions_of_reads
  cases active with
  | true =>
      obtain ⟨_, _, impossible⟩ := dialogue_refuseStart follows
      cases impossible
  | false =>
      obtain ⟨starting, others, snapshot, rfl, started, goes⟩ := dialogue_bind_ok.mp follows
      have recorded : AskedOnly SparesVersions starting := by
        refine (Ledger.asksOnly_start starting _ started).mono fun _ asked => ?_
        rcases asked with reads | rfl
        · exact sparesVersions_of_reads reads
        · rintro _ ⟨⟩
      obtain ⟨forward, filling, tables, rfl, expanded, filled⟩ := dialogue_bind_ok.mp goes
      rw [versionSteps_append, versionSteps_append, versionSteps_append,
        versionSteps_of_spares spared, versionSteps_of_spares recorded,
        versionSteps_of_expandOrUndo expanded, versionSteps_of_fillTables filled, List.append_nil]
      rfl

/-! ## Completions -/

/-- The version schema that a completion makes anew, because SQL of the user may have changed what
it shows. -/
def refreshSteps (s : MigrationSession) (m : Migration) : List VersionStep :=
  if m.effectUnknown && s.config.keepsVersionSchema m then [.made (s.versionName m)] else []

theorem spares_prepareOperations {ctx : PhaseContext} {operations : List Operation} :
    (prepareOperations ctx operations).AsksOnly SparesVersions := by
  induction operations with
  | nil => exact .done _
  | cons op rest ih => exact .bind op.spares_prepare fun _ => ih

theorem spares_completeOperations {ctx : PhaseContext} {operations : List Operation} :
    (completeOperations ctx operations).AsksOnly SparesVersions := by
  induction operations with
  | nil => exact .done _
  | cons op rest ih => exact .bind op.spares_complete fun _ => ih

/-- What a completion does before it touches the tables. -/
def retirePrevious (s : MigrationSession) : Procedure Unit :=
  if s.config.disableVersionSchemas then .done () else s.dropPreviousVersionSchema

/-- What a completion does with the tables, and all that follows. -/
def contract (s : MigrationSession) (m : Migration) : Procedure Unit := do
  let _ ← s.ledger.readSchema s.schema
  s.runPhaseHooks .beforeComplete
  completeOperations (s.phaseContext m) m.operations
  if m.effectUnknown && s.config.keepsVersionSchema m then
    let refreshed ← s.ledger.readSchema s.schema
    s.makeVersionSchema refreshed (m.versionSchemaName s.schema)
  s.runPhaseHooks .afterComplete
  s.ledger.complete s.schema m.name

/-- A completion reads which migration is active, prepares it, retires the version before and
contracts the schema. -/
theorem complete_eq :
    s.complete = (s.ledger.activeMigration s.schema).bind fun m =>
      (prepareOperations (s.phaseContext m) m.operations).bind fun _ =>
        s.retirePrevious.bind fun _ => s.contract m := by
  unfold complete contract retirePrevious
  refine congrArg _ (funext fun m => congrArg _ (funext fun _ => ?_))
  cases s.config.disableVersionSchemas <;> rfl

theorem stepsThrough_contract : (s.contract m).StepsThrough (s.refreshSteps m) := by
  have recorded : (s.ledger.complete s.schema m.name).AsksOnly SparesVersions := by
    refine AsksOnly.bind (.fetch? (by rintro _ ⟨⟩)) fun answer => ?_
    cases answer with
    | none => exact .fail _
    | some row => exact .done _
  have ending : ((s.runPhaseHooks .afterComplete).bind fun _ =>
      s.ledger.complete s.schema m.name).StepsThrough [] :=
    .after (spares_runPhaseHooks _) fun _ => .spares recorded
  refine .after spares_readSchema fun _ => ?_
  refine .after (spares_runPhaseHooks _) fun _ => ?_
  refine .after spares_completeOperations fun _ => ?_
  unfold refreshSteps
  split
  · exact .after spares_readSchema fun refreshed =>
      (stepsThrough_makeVersionSchema refreshed).bind fun _ => ending
  · exact ending

/-- The version before is retired by dropping the version schema of a migration that the server has
told, unless there is none, or none is kept. -/
theorem versionSteps_of_retirePrevious (dialogue : s.retirePrevious.Dialogue notes (.ok ())) :
    ∃ previous : Option Migration, versionSteps notes =
        (previous.map fun other => .dropped (s.versionName other)).toList ∧
      ∀ other ∈ previous, s.config.disableVersionSchemas = false ∧
        ∃ name, s.ledger.Told (.migrationNamed s.schema name) other notes := by
  unfold retirePrevious at dialogue
  split at dialogue
  · obtain ⟨rfl, _⟩ := dialogue
    exact ⟨none, rfl, by simp⟩
  · rename_i enabled
    obtain ⟨asking, rest, version, rfl, asked, follows⟩ := dialogue_bind_ok.mp dialogue
    have spared : versionSteps asking = [] :=
      versionSteps_of_spares
        ((Ledger.asksOnly_previousVersion asking _ asked).mono fun _ => sparesVersions_of_reads)
    cases version with
    | none =>
        obtain ⟨rfl, _⟩ := follows
        refine ⟨none, ?_, by simp⟩
        rw [List.append_nil, spared]
        rfl
    | some name =>
        obtain ⟨naming, dropping, other, rfl, named, drops⟩ := dialogue_bind_ok.mp follows
        have quiet : versionSteps naming = [] :=
          versionSteps_of_spares
            ((Ledger.asksOnly_migrationNamed naming _ named).mono fun _ => sparesVersions_of_reads)
        refine ⟨some other, ?_, ?_⟩
        · rw [versionSteps_append, versionSteps_append, spared, quiet,
            (StepsThrough.change _).whole dropping () drops]
          rfl
        · rintro _ ⟨⟩
          refine ⟨Bool.eq_false_iff.mpr enabled, name, ?_⟩
          refine (Ledger.told_of_migrationNamed named).mono fun note member => ?_
          exact List.mem_append_right _ (List.mem_append_left _ member)

/-- A completion that succeeds drops at most the version schema of one migration that the server has
told under a name, and then may make that of the active migration anew. -/
theorem dialogue_complete (dialogue : s.complete.Dialogue notes (.ok ())) :
    ∃ (m : Migration) (previous : Option Migration), s.ledger.Tells s.schema m notes ∧
      versionSteps notes =
        (previous.map fun other => .dropped (s.versionName other)).toList ++ s.refreshSteps m ∧
      ∀ other ∈ previous, s.config.disableVersionSchemas = false ∧
        ∃ name, s.ledger.Told (.migrationNamed s.schema name) other notes := by
  rw [complete_eq] at dialogue
  obtain ⟨finding, rest, m, rfl, found, follows⟩ := dialogue_bind_ok.mp dialogue
  obtain ⟨preparing, rest, _, rfl, prepared, follows⟩ := dialogue_bind_ok.mp follows
  obtain ⟨retiring, contracting, _, rfl, retired, contracts⟩ := dialogue_bind_ok.mp follows
  obtain ⟨previous, drops, told⟩ := versionSteps_of_retirePrevious retired
  have spared : versionSteps finding = [] :=
    versionSteps_of_spares
      ((Ledger.asksOnly_activeMigration finding _ found).mono fun _ => sparesVersions_of_reads)
  refine ⟨m, previous, (Ledger.tells_of_dialogue found).mono (List.subset_append_left ..), ?_, ?_⟩
  · rw [versionSteps_append, versionSteps_append, versionSteps_append, spared,
      versionSteps_of_spares (spares_prepareOperations preparing _ prepared), drops,
      stepsThrough_contract.whole contracting () contracts]
    rfl
  · intro other isPrevious
    obtain ⟨enabled, name, told⟩ := told other isPrevious
    refine ⟨enabled, name, told.mono fun note member => ?_⟩
    exact List.mem_append_right _ (List.mem_append_right _ (List.mem_append_left _ member))

/-- A completion with these steps drops a version schema just if it retires a migration of that
name. -/
theorem dropped_mem_iff {previous : Option Migration}
    (steps : versionSteps notes =
      (previous.map fun other => .dropped (s.versionName other)).toList ++ s.refreshSteps m)
    {name : String} :
    .dropped name ∈ versionSteps notes ↔ ∃ other ∈ previous, s.versionName other = name := by
  have notRefreshed : VersionStep.dropped name ∉ s.refreshSteps m := by
    unfold refreshSteps
    split <;> simp
  rw [steps, List.mem_append, or_iff_left notRefreshed]
  simp

/-! ## A ledger with a version before -/

/-- The first version of a schema, under its own name or under another one. -/
def initialVersion (label : Option String) : Migration :=
  { Migration.createsUsers with name := "01_init", versionSchema := label }

/-- A server that accepts all changes, and whose ledger tells an active migration and the one
before it. -/
def succeeding (previous active : Migration) : Request → Except ServerError Answer
  | .ledger _ (.previousVersion _ _) => .ok (.ofRow [some (.string previous.name)])
  | .ledger _ (.migrationNamed _ _) => .ok (.ofRow [some previous.toJson])
  | .ledger _ (.markDone _ name) => .ok (.ofRow [some (.string name)])
  | request => reporting (.ofName "public") active (fun _ => .ok .none) request

variable {previous active other : Migration} {events : List Event}

theorem eq_of_tells_succeeding (tells : s.ledger.Tells s.schema other
    (Server.notes (.answering (succeeding previous active)) () events)) : other = active :=
  Ledger.eq_of_told_answering rfl tells

/-- Such a server tells no other migration to be the one before. -/
theorem eq_of_told_succeeding {name : String}
    (told : s.ledger.Told (.migrationNamed s.schema name) other
      (Server.notes (.answering (succeeding previous active)) () events)) : other = previous :=
  Ledger.eq_of_told_answering rfl told

/-- What is noted of a start that succeeds another version. -/
def successionStart (s : MigrationSession) (previous m : Migration) : List Note :=
  (s.start m).notesWith (succeeding previous m)

/-- What is noted of the completion of a migration that succeeds another version. -/
def successionEnd (s : MigrationSession) (previous m : Migration) : List Note :=
  s.complete.notesWith (succeeding previous m)

end MigrationSession

end ExpandContract
