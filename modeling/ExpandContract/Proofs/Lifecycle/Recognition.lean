import ExpandContract.Proofs.Lifecycle.Finishing
import ExpandContract.Proofs.Lifecycle.Starting
import ExpandContract.Proofs.Sql.Quoting

/-!
# How a trigger recognises its version

A session reads and writes through a version if its search path is the version schema. The function
of a trigger asks for the setting and compares it with the name of the version schema of its
migration: a new column is computed in all other sessions, and a dropped one in these only.

The setting shows a name that is not plain in quotes, whereas the function compares it with the name
as it is. So a trigger tells the sessions of its version from others if and only if the name of the
version schema is plain and no keyword (`recognises_version_iff`). With any other name the function
takes the sessions of the new version for sessions of the previous one.
-/

set_option autoImplicit false

namespace ExpandContract

open Session Procedure Sql

/-! ## The comparison -/

namespace Sql.SyncTrigger

/-- What stands in the text of a trigger before the comparison. -/
def preamble (t : SyncTrigger) : String :=
  "CREATE OR REPLACE FUNCTION " ++ qualifiedName t.schema (syncTriggerName t.table t.key) ++
    "() RETURNS TRIGGER LANGUAGE plpgsql AS $pgshift$\n" ++
  "DECLARE\n" ++
  "  search_path text;\n" ++
  "BEGIN\n" ++
  "  SELECT current_setting INTO search_path FROM current_setting('search_path');\n"

/-- What is done where the comparison holds, and the trigger itself. -/
def remainder (t : SyncTrigger) : String :=
  "    NEW." ++ quotedName t.target ++ " := (SELECT " ++ t.expression ++
    " FROM (SELECT NEW.*) AS n);\n" ++
  "  END IF;\n" ++
  "  RETURN NEW;\n" ++
  "END;\n" ++
  "$pgshift$;\n" ++
  "DROP TRIGGER IF EXISTS " ++ quotedName (syncTriggerName t.table t.key) ++ " ON " ++
    qualifiedName t.schema t.table ++ ";\n" ++
  "CREATE TRIGGER " ++ quotedName (syncTriggerName t.table t.key) ++
    " BEFORE UPDATE OR INSERT ON " ++ qualifiedName t.schema t.table ++ "\n" ++
  "  FOR EACH ROW EXECUTE PROCEDURE " ++
    qualifiedName t.schema (syncTriggerName t.table t.key) ++ "();"

/-- How the search path is compared. -/
def operator (t : SyncTrigger) : String :=
  if t.fromNewVersion then "=" else "<>"

theorem createText_eq (t : SyncTrigger) :
    t.createText = t.preamble ++ ("  IF search_path " ++ t.operator ++ " " ++
      (quotedText t.versionSchema ++ (" THEN\n" ++ t.remainder))) := by
  unfold createText preamble operator remainder
  simp only [String.append_assoc]

/-- The function compares the setting with a literal that reads as this text. -/
def ComparesWith (t : SyncTrigger) (compared : String) : Prop :=
  ∃ before literal after, t.createText =
      before ++ ("  IF search_path " ++ t.operator ++ " " ++ String.ofList ('\'' :: literal)) ∧
    undoubled '\'' literal = some (compared.toList, (" THEN\n" ++ after).toList)

/-- The literal reads as the name of the version schema, whatever the name holds. -/
theorem comparesWith_versionSchema (t : SyncTrigger) : t.ComparesWith t.versionSchema := by
  have blank : (" THEN\n").toList.head? = some ' ' := by decide
  have next : (" THEN\n" ++ t.remainder).toList.head? ≠ some '\'' := by
    rw [String.toList_append, List.head?_append, blank]
    simp
  refine ⟨t.preamble, _, t.remainder, ?_, undoubled_doubled '\'' t.versionSchema.toList next⟩
  rw [createText_eq]
  refine congrArg
    (fun compared => t.preamble ++ ("  IF search_path " ++ t.operator ++ " " ++ compared))
    (String.toList_inj.mp ?_)
  rw [String.toList_append, quotedText, toList_quoted, String.toList_ofList, List.append_assoc,
    List.cons_append]
  rfl

/-- The trigger computes its column in a session with this search path. -/
def ComputesIn (t : SyncTrigger) (searchPath : String) : Prop :=
  if t.fromNewVersion then searchPath = t.versionSchema else searchPath ≠ t.versionSchema

/-- The trigger computes its column in a session with another search path just if it is to compute
it in the sessions of other versions. -/
theorem computesIn_of_ne {t : SyncTrigger} {searchPath : String}
    (other : searchPath ≠ t.versionSchema) :
    t.ComputesIn searchPath ↔ t.fromNewVersion = false := by
  unfold ComputesIn
  cases t.fromNewVersion <;> simp [other]

/-- The trigger tells the sessions of its version from all others: it computes its column in these
only, or in all others. -/
def Recognises (isKeyword : String → Bool) (t : SyncTrigger) : Prop :=
  ∀ session, t.ComputesIn (shownName isKeyword session) ↔
    if t.fromNewVersion then session = t.versionSchema else session ≠ t.versionSchema

/-- It does so just if the setting shows the name of its version schema as it is. -/
theorem recognises_iff {isKeyword : String → Bool} {t : SyncTrigger} :
    t.Recognises isKeyword ↔
      isPlain t.versionSchema = true ∧ isKeyword t.versionSchema = false := by
  rw [← shownName_eq_self_iff]
  constructor
  · intro recognises
    by_contra differs
    have own := (computesIn_of_ne differs).symm.trans (recognises t.versionSchema)
    cases computes : t.fromNewVersion <;> simp [computes] at own
  · intro shown session
    have plain := (shownName_eq_self_iff.mp shown).1
    have same : shownName isKeyword session = t.versionSchema ↔ session = t.versionSchema :=
      ⟨eq_of_shownName_eq plain, fun same => same ▸ shown⟩
    unfold ComputesIn
    cases t.fromNewVersion <;> simp [same]

end Sql.SyncTrigger

namespace MigrationSession

variable {s : MigrationSession} {m : Migration} {notes : List Note} {t : SyncTrigger}
  {reply : Except ServerError Answer} {outcome : Except Error (List Backfill.Progress)}

/-! ## The triggers of a start -/

/-- The request installs no triggers but those of the operations. -/
def InstallsOwn (s : MigrationSession) (m : Migration) (request : Request) : Prop :=
  ∀ t, request = .change (.createSyncTrigger t) →
    ∃ op ∈ m.operations, op.Starts (s.phaseContext m) (.createSyncTrigger t)

theorem installsOwn_of_reads {request : Request} (reads : s.ledger.Reads request) :
    s.InstallsOwn m request := by
  rintro t rfl
  exact absurd reads (not_reads_change _)

theorem installsOwn_of_expand {request : Request} (expands : s.ExpandRequest m request) :
    s.InstallsOwn m request := by
  rintro t rfl
  generalize same : Request.change (.createSyncTrigger t) = request at expands
  cases expands with
  | starts member starts =>
      cases same
      exact ⟨_, member, starts⟩
  | snapshot reads => exact absurd (same ▸ reads.reads) (not_reads_change _)
  | hook hook =>
      obtain ⟨_, _, _, _, isRaw⟩ := hook
      cases same.trans isRaw
  | version => cases same
  | backfill fills =>
      subst same
      cases fills

theorem not_createSyncTrigger_of_undo {ctx : PhaseContext} {op : Operation} :
    .createSyncTrigger t ∉ op.undo ctx := by
  intro member
  cases op with
  | dropColumn op => cases op.eq_of_mem_undo member
  | rawSql op =>
      obtain ⟨_, impossible⟩ := op.eq_of_mem_undo member
      cases impossible
  | _ => simp [Operation.undo] at member

theorem installsOwn_of_rollback {request : Request} (rolls : s.RollbackRequest request) :
    s.InstallsOwn m request := by
  rintro t rfl
  rcases undo_of_rollbackRequest rolls with neutral | ⟨_, op, _, undoes⟩
  · exact neutral.elim
  · exact absurd undoes not_createSyncTrigger_of_undo

/-- A start, whether it succeeds or is undone, asks for no triggers but those of the operations. -/
theorem installsOwn_of_start (dialogue : (s.start m).Dialogue notes outcome) :
    AskedOnly (s.InstallsOwn m) notes := by
  have records {notes : List Note} (asks : AskedOnly (s.ledger.StartRequest s.schema m) notes) :
      AskedOnly (s.InstallsOwn m) notes := by
    refine asks.mono fun request asked => ?_
    rcases asked with reads | rfl
    · exact installsOwn_of_reads reads
    · rintro t ⟨⟩
  have snapshot {notes : List Note} (asks : AskedOnly (s.ledger.ReadsSnapshot s.schema) notes) :
      AskedOnly (s.InstallsOwn m) notes :=
    asks.mono fun _ reads => installsOwn_of_reads reads.reads
  cases dialogue_start dialogue with
  | unrecorded asks _ => exact records asks
  | @recorded before after answer _ asks _ goesOn =>
      have goes : AskedOnly (s.InstallsOwn m) after := by
        cases goesOn with
        | succeeds asks => exact asks.mono fun _ => installsOwn_of_expand
        | fails course =>
            cases course with
            | unread asks _ => exact snapshot asks
            | rejected asks erases =>
                refine (snapshot asks).append ((Ledger.asksOnly_rollback _ _ erases).mono ?_)
                rintro _ rfl t ⟨⟩
            | undone asks undoes =>
                exact (asks.mono fun _ => installsOwn_of_expand).append
                  ((asksOnly_rollback _ _ undoes).mono fun _ => installsOwn_of_rollback)
      intro request reply member
      rcases List.mem_append.mp member with early | rest
      · exact records asks request reply early
      · rcases List.mem_cons.mp rest with same | late
        · cases same
          rintro t ⟨⟩
        · exact goes request reply late

/-- A trigger of an operation is for the version schema of the migration. -/
theorem versionSchema_of_starts {ctx : PhaseContext} {op : Operation}
    (starts : op.Starts ctx (.createSyncTrigger t)) : t.versionSchema = ctx.versionSchema := by
  cases starts <;> rfl

/-- Every trigger that a start asks for compares the search path with the name of the version schema
of its migration. Whichever names are keywords, this is what a session of the version shows just if
the name is plain and no keyword, and just in this case the trigger tells the sessions of its
version from all others. In any other case it computes its column in the sessions of its own version
just if it is meant for those of other versions. -/
theorem recognises_version_iff (isKeyword : String → Bool) (shown : (s.start m).Shows notes outcome)
    (asked : .asked (.change (.createSyncTrigger t)) reply ∈ notes) :
    t.ComparesWith (m.versionSchemaName s.schema) ∧
    (shownName isKeyword (m.versionSchemaName s.schema) = m.versionSchemaName s.schema ↔
      isPlain (m.versionSchemaName s.schema) = true ∧
        isKeyword (m.versionSchemaName s.schema) = false) ∧
    (t.Recognises isKeyword ↔
      isPlain (m.versionSchemaName s.schema) = true ∧
        isKeyword (m.versionSchemaName s.schema) = false) ∧
    (¬(isPlain (m.versionSchemaName s.schema) = true ∧
        isKeyword (m.versionSchemaName s.schema) = false) →
      (t.ComputesIn (shownName isKeyword (m.versionSchemaName s.schema)) ↔
        t.fromNewVersion = false)) := by
  obtain ⟨op, _, starts⟩ := installsOwn_of_start shown.dialogue _ reply asked t rfl
  have own : t.versionSchema = m.versionSchemaName s.schema := versionSchema_of_starts starts
  rw [← own]
  refine ⟨t.comparesWith_versionSchema, shownName_eq_self_iff, SyncTrigger.recognises_iff, ?_⟩
  intro dressed
  exact SyncTrigger.computesIn_of_ne (mt shownName_eq_self_iff.mp dressed)

/-! ## A name with underscores and one with dashes -/

/-- A migration of this name that adds a computed column to the users. -/
def computesEmail (name : String) : Migration :=
  { name
    versionSchema := none
    operations := [.addColumn
      { table := "users"
        column := { ColumnDefinition.ofType "email" "text" with nullable := true }
        up := some "lower(name)" }] }

/-- What is noted of its start, if everything is accepted. -/
def computingNotes (name : String) : List Note :=
  (usual.start (computesEmail name)).notesWith
    (filling (reporting withOrders (computesEmail name) fun _ => .ok .none))

/-- The trigger of the new column, for a version schema of this name. -/
def emailTrigger (versionSchema : String) : SyncTrigger :=
  { schema := "public", table := "users", key := "_pgshift_new_email",
    target := "_pgshift_new_email", expression := "lower(name)", versionSchema,
    fromNewVersion := false }

/-- Some keywords of the server. -/
def isCommonKeyword (name : String) : Bool :=
  ["all", "select", "table", "user"].contains name

/-- With underscores in the name, the column is computed in the sessions of all versions but the new
one. -/
theorem recognises_underscores :
    (computesEmail "02_add_email").validate withOrders = .ok () ∧
    (∃ progress, (usual.start (computesEmail "02_add_email")).Shows (computingNotes "02_add_email")
      (.ok progress)) ∧
    .createSyncTrigger (emailTrigger "public_02_add_email") ∈
      acceptedChanges (computingNotes "02_add_email") ∧
    (emailTrigger "public_02_add_email").Recognises isCommonKeyword := by
  obtain ⟨progress, shown⟩ : ∃ progress, (usual.start (computesEmail "02_add_email")).Shows
      (computingNotes "02_add_email") (.ok progress) := ⟨_, shows_of_outcomeWith rfl⟩
  have accepted : .createSyncTrigger (emailTrigger "public_02_add_email") ∈
      acceptedChanges (computingNotes "02_add_email") :=
    List.mem_of_getElem? (show (acceptedChanges (computingNotes "02_add_email"))[1]? = _ from rfl)
  obtain ⟨answer, asked⟩ := mem_acceptedChanges.mp accepted
  exact ⟨rfl, ⟨progress, shown⟩, accepted,
    (recognises_version_iff isCommonKeyword shown asked).2.2.1.mpr ⟨by decide, by decide⟩⟩

/-- With dashes in the name, the column is computed in the sessions of the new version as well, in
place of what they have written. The migration is valid all the same. -/
theorem not_recognises_dashes :
    (computesEmail "02-add-email").validate withOrders = .ok () ∧
    (∃ progress, (usual.start (computesEmail "02-add-email")).Shows (computingNotes "02-add-email")
      (.ok progress)) ∧
    .createSyncTrigger (emailTrigger "public_02-add-email") ∈
      acceptedChanges (computingNotes "02-add-email") ∧
    ∀ isKeyword, shownName isKeyword "public_02-add-email" = "\"public_02-add-email\"" ∧
      (emailTrigger "public_02-add-email").ComputesIn
        (shownName isKeyword "public_02-add-email") := by
  refine ⟨rfl, ⟨_, shows_of_outcomeWith rfl⟩,
    List.mem_of_getElem? (show (acceptedChanges (computingNotes "02-add-email"))[1]? = _ from rfl),
    fun isKeyword => ?_⟩
  have shown : shownName isKeyword "public_02-add-email" = "\"public_02-add-email\"" := by
    have dressed : isPlain "public_02-add-email" = false := by decide
    rw [shownName, dressed, Bool.false_and, if_neg Bool.false_ne_true]
    decide
  refine ⟨shown, ?_⟩
  rw [shown]
  exact (SyncTrigger.computesIn_of_ne (by decide)).mpr rfl

end MigrationSession

end ExpandContract
