import ExpandContract.Proofs.Ledger.Queries
import ExpandContract.Proofs.Lifecycle.Closing

/-!
# The version before, after a rollback

A rollback gives the schema back to the previous version, so the version schema of that version has
to be there when the entry of the active migration is erased. It may never have gone, it may have
been dropped by a completion that failed, or by the rollback itself, where both versions share one
name. A rollback therefore asks for it last, after all changes are undone, and makes it anew where
the server does not say that it is there (`restored_of_restorePreviousVersion`).

Which version schemas are there follows from the changes that the server has accepted, as in
`thereAfter`. What was there before the rollback is arbitrary, so it does not matter what failed
before.
-/

set_option autoImplicit false

namespace ExpandContract

open Session Procedure Sql

variable {notes : List Note}

/-! ## What the server says about schemas -/

namespace Session

/-- What an answer says about whether there is a schema. -/
def existsIn (answer : Answer) : Except Error Bool :=
  match answer.rows with
  | [] => .error (.database .noRow)
  | row :: _ => row.value 0 (.place 0) Json.bool?

/-- Whether there is a version schema of a stored name, where `there` tells which there were before
the notes. -/
def versionThere (there : String → Bool) (notes : List Note) (name : String) : Bool :=
  thereAfter name (there name) (versionSteps notes)

/-- Where the server says that there is a schema, there is one. -/
def Truthful (there : String → Bool) (notes : List Note) : Prop :=
  ∀ before name answer after, notes = before ++ .asked (.hasSchema name) (.ok answer) :: after →
    existsIn answer = .ok true → versionThere there before (storedName name) = true

variable {there : String → Bool} {name : String}

theorem versionThere_append_of_spares {first rest : List Note}
    (spares : AskedOnly SparesVersions rest) :
    versionThere there (first ++ rest) name = versionThere there first name := by
  unfold versionThere
  rw [versionSteps_append, versionSteps_of_spares spares, List.append_nil]

theorem versionThere_append_made {version : VersionSchema} {answer : Answer} :
    versionThere there (notes ++ [.asked (.change (.makeVersionSchema version)) (.ok answer)])
      (storedName version.name) = true := by
  unfold versionThere
  rw [versionSteps_append, thereAfter_append]
  exact if_pos rfl

end Session

namespace MigrationSession

variable {s : MigrationSession} {m previous : Migration} {there : String → Bool}

theorem hasSchema_eq {name : String} : hasSchema name = ask (.hasSchema name) existsIn := by
  refine congrArg (Procedure.send _) (funext fun outcome => ?_)
  rcases outcome with error | ⟨_ | ⟨row, others⟩, affected⟩ <;> rfl

/-! ## The version before -/

/-- Whenever the server answers which version was before, it gives this name, and whenever it
answers which migration has the name, it tells this one. -/
structure HandsPrevious (s : MigrationSession) (name : String) (previous : Migration)
    (notes : List Note) : Prop where
  names : ∀ answer,
    .asked (s.ledger.request (.previousVersion s.schema false)) (.ok answer) ∈ notes →
      Ledger.nameIn answer = .ok (some name)
  tells : ∀ answer, .asked (s.ledger.request (.migrationNamed s.schema name)) (.ok answer) ∈ notes →
    Ledger.migrationIn (.migrationNotFound s.schema name) answer = .ok previous

/-- The server has answered which version was before. -/
def AskedPrevious (s : MigrationSession) (notes : List Note) : Prop :=
  ∃ answer, .asked (s.ledger.request (.previousVersion s.schema false)) (.ok answer) ∈ notes

theorem HandsPrevious.part {name : String} {part : List Note}
    (hands : s.HandsPrevious name previous notes) (among : part ⊆ notes) :
    s.HandsPrevious name previous part where
  names answer member := hands.names answer (among member)
  tells answer member := hands.tells answer (among member)

/-- The version schema of the version before has been found, or has just been made. -/
inductive Restored (s : MigrationSession) (previous : Migration) : List Note → Prop where
  | found {before : List Note} {answer : Answer} (affirms : existsIn answer = .ok true) :
      Restored s previous
        (before ++ [.asked (.hasSchema (previous.versionSchemaName s.schema)) (.ok answer)])
  | made {before : List Note} {version : VersionSchema} {answer : Answer}
      (named : version.name = previous.versionSchemaName s.schema) :
      Restored s previous (before ++ [.asked (.change (.makeVersionSchema version)) (.ok answer)])

theorem Restored.append {rest : List Note} (restored : s.Restored previous rest)
    (first : List Note) : s.Restored previous (first ++ rest) := by
  cases restored with
  | found affirms =>
      rw [← List.append_assoc]
      exact .found affirms
  | made named =>
      rw [← List.append_assoc]
      exact .made named

/-- What is found or made is there. -/
theorem Restored.isThere {rest : List Note} (restored : s.Restored previous notes)
    (truthful : Truthful there (notes ++ rest)) :
    versionThere there notes (s.versionName previous) = true := by
  cases restored with
  | @found before answer affirms =>
      have spares : AskedOnly SparesVersions
          [.asked (.hasSchema (previous.versionSchemaName s.schema)) (.ok answer)] := by
        intro request reply member
        cases List.mem_singleton.mp member
        rintro _ ⟨⟩
      rw [versionThere_append_of_spares spares]
      exact truthful before _ answer rest (List.append_assoc ..) affirms
  | made named =>
      rw [versionName, ← named]
      exact versionThere_append_made

/-- Makes the version schema of the version before anew, if it should be there and is not. -/
def restoreVersion (s : MigrationSession) (previous : Migration) : Procedure Unit :=
  if s.config.keepsVersionSchema previous then
    (hasSchema (previous.versionSchemaName s.schema)).bind fun isThere =>
      if isThere then .done ()
      else (s.ledger.readSchema s.schema).bind fun live =>
        s.makeVersionSchema live (previous.versionSchemaName s.schema)
  else .done ()

theorem restorePreviousVersion_eq (enabled : s.config.disableVersionSchemas = false) :
    s.restorePreviousVersion = (s.ledger.previousVersion s.schema false).bind fun
      | none => .done ()
      | some name => (s.ledger.migrationNamed s.schema name).bind s.restoreVersion := by
  unfold restorePreviousVersion
  rw [if_neg (by simp [enabled])]
  refine congrArg _ (funext fun version => ?_)
  cases version with
  | none => rfl
  | some name =>
      refine congrArg (s.ledger.migrationNamed s.schema name).bind (funext fun previous => ?_)
      unfold restoreVersion
      cases s.config.keepsVersionSchema previous <;> rfl

theorem restored_of_restoreVersion (dialogue : (s.restoreVersion previous).Dialogue notes (.ok ()))
    (kept : s.config.keepsVersionSchema previous = true) : s.Restored previous notes := by
  unfold restoreVersion at dialogue
  rw [if_pos kept, hasSchema_eq] at dialogue
  obtain ⟨asking, rest, isThere, rfl, asked, follows⟩ := dialogue_bind_ok.mp dialogue
  obtain ⟨refusals, answer, affirms, _, rfl⟩ := dialogue_ask_ok asked
  cases isThere with
  | true =>
      obtain ⟨rfl, _⟩ := follows
      rw [List.append_nil]
      exact .found affirms
  | false =>
      obtain ⟨reading, making, live, rfl, _, made⟩ := dialogue_bind_ok.mp follows
      rcases dialogue_change made with ⟨others, accepted, _, _, rfl⟩ | ⟨_, impossible, _⟩
      · exact ((Restored.made rfl).append reading).append _
      · cases impossible

/-- Where version schemas are kept, restoring that of the version before begins with the question
which version that is. It ends when the version schema is found or made. -/
theorem restored_of_restorePreviousVersion {name : String}
    (enabled : s.config.disableVersionSchemas = false)
    (dialogue : s.restorePreviousVersion.Dialogue notes (.ok ()))
    (hands : s.HandsPrevious name previous notes)
    (kept : s.config.keepsVersionSchema previous = true) :
    s.AskedPrevious notes ∧ s.Restored previous notes := by
  rw [restorePreviousVersion_eq enabled, Ledger.previousVersion_eq] at dialogue
  obtain ⟨asking, rest, version, rfl, asks, follows⟩ := dialogue_bind_ok.mp dialogue
  obtain ⟨refusals, answer, named, _, rfl⟩ := dialogue_ask_ok asks
  refine ⟨⟨answer, by simp⟩, ?_⟩
  rw [hands.names answer (by simp)] at named
  cases named
  simp only [Ledger.migrationNamed_eq] at follows
  obtain ⟨naming, restoring, found, rfl, names, restores⟩ := dialogue_bind_ok.mp follows
  obtain ⟨denials, given, gives, _, rfl⟩ := dialogue_ask_ok names
  rw [hands.tells given (by simp)] at gives
  cases gives
  exact ((restored_of_restoreVersion restores kept).append _).append _

/-! ## Rollbacks -/

/-- A rollback asks which version was before, and erases the entry of the active migration only when
the version schema of that version is there. -/
theorem previous_version_there_at_erasure {name : String}
    (shown : s.rollback.Shows notes (.ok ()))
    (enabled : s.config.disableVersionSchemas = false) (truthful : Truthful there notes)
    (hands : s.HandsPrevious name previous notes)
    (kept : s.config.keepsVersionSchema previous = true) :
    s.AskedPrevious notes ∧
    ∃ m, s.ledger.Tells s.schema m notes ∧ s.ledger.Erased s.schema m.name notes ∧
      (∀ before reply after,
        notes = before ++ .asked (s.ledger.request (.erase s.schema m.name)) reply :: after →
          versionThere there before (s.versionName previous) = true) ∧
      versionThere there notes (s.versionName previous) = true := by
  have dialogue := shown.dialogue
  rw [rollback_eq] at dialogue
  obtain ⟨reading, rest, m, rfl, read, follows⟩ := dialogue_bind_ok.mp dialogue
  obtain ⟨undoing, rest, _, rfl, undone, follows⟩ := dialogue_bind_ok.mp follows
  obtain ⟨restoring, erasing, _, rfl, restores, erases⟩ := dialogue_bind_ok.mp follows
  have told : s.ledger.Tells s.schema m reading := Ledger.tells_of_dialogue read
  have erased := Ledger.erased_of_dialogue erases
  have erasesOnly := Ledger.asksOnly_rollback erasing _ erases
  have reads := Ledger.asksOnly_activeMigration reading _ read
  have changes := follows_undoChanges.asks undoing _ undone
  obtain ⟨⟨answer, asked⟩, restored⟩ := restored_of_restorePreviousVersion enabled restores
    (hands.part fun note member => by simp [member]) kept
  -- The notes are those of the work, and those of the entry.
  rw [← List.append_assoc, ← List.append_assoc] at truthful ⊢
  have isThere := (restored.append (reading ++ undoing)).isThere truthful
  have spares : AskedOnly SparesVersions erasing := erasesOnly.mono (by rintro _ rfl _ ⟨⟩)
  refine ⟨⟨answer, by simp [asked]⟩, m, told.mono ?_,
    erased.mono (List.subset_append_right ..), ?_, ?_⟩
  · intro note member
    simp [member]
  · intro before reply after split
    have unwritten : AskedOnly SparesLedger (reading ++ undoing ++ restoring) := by
      refine .append (.append (reads.mono fun _ => sparesLedger_of_reads) (changes.mono ?_))
        (spares_restorePreviousVersion restoring _ restores)
      rintro _ ⟨statement, _, rfl⟩
      exact sparesLedger_change statement
    obtain ⟨earlier, rfl, same⟩ := Closing.split_of_writes unwritten ⟨_, _, rfl, rfl⟩ split
    have early : AskedOnly SparesVersions earlier :=
      fun request reply member => spares request reply (same ▸ List.mem_append_left _ member)
    rw [versionThere_append_of_spares early]
    exact isThere
  · rw [versionThere_append_of_spares spares]
    exact isThere

/-! ## Two versions of one name -/

/-- The next version, under the same label. -/
def relabelled : Migration :=
  { Migration.createsUsers with versionSchema := some "v1" }

/-- A server that denies every schema, and whose ledger tells two versions of one label. -/
def denying : Request → Except ServerError Answer
  | .hasSchema _ => .ok (.ofRow [some (.bool false)])
  | request => succeeding (initialVersion (some "v1")) relabelled request

/-- What is noted of a rollback with that server. -/
def denyingEnd : List Note :=
  usual.rollback.notesWith denying

/-- Which version schemas a completion leaves that could not be recorded, where all were there
before. -/
def interruptedLeaves (name : String) : Bool :=
  versionThere (fun _ => true) (usual.interruptedEnd (initialVersion (some "v1")) relabelled) name

/-- The completion that could not be recorded has dropped the version schema of both versions, and
the rollback after it makes it anew. -/
theorem previous_version_there_after_interruption :
    interruptedLeaves "public_v1" = false ∧ usual.rollback.Shows denyingEnd (.ok ()) ∧
      Truthful interruptedLeaves denyingEnd ∧
        usual.HandsPrevious "01_init" (initialVersion (some "v1")) denyingEnd ∧
          versionThere interruptedLeaves denyingEnd "public_v1" = true := by
  have shown : usual.rollback.Shows denyingEnd (.ok ()) := shows_of_outcomeWith rfl
  have truthful : Truthful interruptedLeaves denyingEnd := by
    intro before name answer after split affirms
    have asked : .asked (.hasSchema name) (.ok answer) ∈ denyingEnd := split ▸ by simp
    cases eq_of_asked_answering asked
    cases affirms
  have hands : usual.HandsPrevious "01_init" (initialVersion (some "v1")) denyingEnd := by
    refine ⟨fun answer member => ?_, fun answer member => ?_⟩
    · cases eq_of_asked_answering member
      rfl
    · cases eq_of_asked_answering member
      exact Ledger.migrationOfRow_toJson
  obtain ⟨_, m, _, _, _, isThere⟩ :=
    previous_version_there_at_erasure shown rfl truthful hands rfl
  exact ⟨rfl, shown, truthful, hands, isThere⟩

end MigrationSession

end ExpandContract
