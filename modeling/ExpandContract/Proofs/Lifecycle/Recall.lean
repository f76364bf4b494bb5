import ExpandContract.Proofs.Lifecycle.Closing

/-!
# The migration that is closed is the one that was started

A start records its migration as JSON, and the calls that close the migration read it again from
the ledger. The database may keep the JSON in another form: with other white space, with members
in another order and with other ways to write a character. None of this matters
(`started_migration_is_recalled`): as long as the server hands out what it was given, a completion
and a rollback do their steps for the very migration that was started.
-/

set_option autoImplicit false

namespace ExpandContract

open Session Procedure Sql Json

/-! ## What a start records -/

namespace MigrationSession

variable {s : MigrationSession} {m : Migration} {notes : List Note}

/-- The request records no migration but this one, in the form in which this library writes it. -/
def RecordsOnly (s : MigrationSession) (m : Migration) (request : Request) : Prop :=
  ∀ schema name definition,
    request = s.ledger.request (.insertMigration schema name definition) →
      schema = s.schema ∧ name = m.name ∧ definition = m.toJson

theorem recordsOnly_insertion : s.RecordsOnly m (s.ledger.insertion s.schema m) := by
  rintro schema name definition ⟨⟩
  exact ⟨rfl, rfl, rfl⟩

theorem recordsOnly_of_reads {request : Request} (reads : s.ledger.Reads request) :
    s.RecordsOnly m request := by
  obtain ⟨query, isRead, rfl⟩ := reads
  rintro schema name definition ⟨⟩
  cases isRead

theorem recordsOnly_of_startRequest {request : Request}
    (asks : s.ledger.StartRequest s.schema m request) : s.RecordsOnly m request := by
  rcases asks with reads | rfl
  · exact recordsOnly_of_reads reads
  · exact recordsOnly_insertion

theorem recordsOnly_of_expandRequest {request : Request} (asks : s.ExpandRequest m request) :
    s.RecordsOnly m request := by
  cases asks with
  | starts => rintro _ _ _ ⟨⟩
  | snapshot reads => exact recordsOnly_of_reads reads.reads
  | hook hook =>
      obtain ⟨_, _, _, _, rfl⟩ := hook
      rintro _ _ _ ⟨⟩
  | version => rintro _ _ _ ⟨⟩
  | backfill fills => cases fills <;> rintro _ _ _ ⟨⟩

theorem recordsOnly_of_rollbackRequest {request : Request} (asks : s.RollbackRequest request) :
    s.RecordsOnly m request := by
  cases asks with
  | undo => rintro _ _ _ ⟨⟩
  | finish finishes =>
      cases finishes with
      | reads reads => exact recordsOnly_of_reads reads
      | _ => rintro _ _ _ ⟨⟩

/-- A start records its own migration and no other one. -/
theorem recordsOnly_of_start {outcome : Except Error (List Backfill.Progress)}
    (dialogue : (s.start m).Dialogue notes outcome) : AskedOnly (s.RecordsOnly m) notes := by
  have after {rest : List Note} {error : Error} (course : s.FailsAfterRecord m rest error) :
      AskedOnly (s.RecordsOnly m) rest := by
    cases course with
    | unread asks => exact asks.mono fun _ reads => recordsOnly_of_reads reads.reads
    | rejected asks erases =>
        refine (asks.mono fun _ reads => recordsOnly_of_reads reads.reads).append ?_
        refine (Ledger.asksOnly_rollback _ _ erases).mono ?_
        rintro _ rfl _ _ _ ⟨⟩
    | undone asks undoes =>
        exact (asks.mono fun _ => recordsOnly_of_expandRequest).append
          ((asksOnly_rollback _ _ undoes).mono fun _ => recordsOnly_of_rollbackRequest)
  cases dialogue_start dialogue with
  | unrecorded asks => exact asks.mono fun _ => recordsOnly_of_startRequest
  | recorded asks _ goesOn =>
      refine (asks.mono fun _ => recordsOnly_of_startRequest).append ?_
      intro request reply member
      rcases List.mem_cons.mp member with own | later
      · cases own
        exact recordsOnly_insertion
      · cases goesOn with
        | fails course => exact after course request reply later
        | succeeds asks => exact recordsOnly_of_expandRequest (asks request reply later)

end MigrationSession

/-! ## What is read of it -/

namespace Ledger

variable {l : Ledger} {schema : String} {m : Migration} {stored : Json} {notes : List Note}

/-- Whenever the server answers which migration is in progress, it hands out this value. -/
def HandsOut (l : Ledger) (schema : String) (stored : Json) (notes : List Note) : Prop :=
  ∀ answer, Note.asked (l.request (.activeMigration schema)) (.ok answer) ∈ notes →
    ∃ cells rest, answer.rows = (some stored :: cells) :: rest

theorem migrationOfRow_of_reorders (same : m.toJson.Reorders stored) (cells : Row) :
    migrationOfRow (some stored :: cells) = .ok m := by
  have read : readMigration stored = .ok m := by
    rw [readMigration, m.ofJson?_of_reorders same]
  exact read

/-- What the server hands out is read as the migration, if the question is answered at all. -/
theorem dialogue_activeMigration_of_handsOut {result : Except Error Migration}
    (same : m.toJson.Reorders stored) (hands : l.HandsOut schema stored notes)
    (dialogue : (l.activeMigration schema).Dialogue notes result) :
    result = .ok m ∨ (∃ error, result = .error error) ∧
      ∀ answer, Note.asked (l.request (.activeMigration schema)) (.ok answer) ∉ notes := by
  unfold activeMigration at dialogue
  change (Procedure.bind _ _).Dialogue notes result at dialogue
  rcases dialogue_bind.mp dialogue with ⟨first, rest, found, rfl, fetched, follows⟩ |
    ⟨error, rfl, fails⟩
  · rcases dialogue_fetch? fetched with ⟨refusals, answer, answered, _, rfl⟩ | ⟨_, impossible, _⟩
    · cases answered
      obtain ⟨cells, others, rows⟩ := hands answer (by simp)
      rw [rows] at follows
      obtain ⟨_, read⟩ := dialogue_ofExcept.mp follows
      exact .inl (read.trans (migrationOfRow_of_reorders same cells))
    · cases impossible
  · rcases dialogue_fetch? fails with ⟨_, _, impossible, _⟩ | ⟨_, _, refused, _⟩
    · cases impossible
    · refine .inr ⟨⟨error, rfl⟩, fun answer member => ?_⟩
      obtain ⟨_, same⟩ := refused _ member
      cases same

end Ledger

namespace MigrationSession

variable {m : Migration}

/-- A migration is read as it was from every text that says the JSON of which a start makes its
record. If the server hands out such a text, then a completion and a rollback do their steps for
this migration, unless they fail before they have heard of it. -/
theorem started_migration_is_recalled (s : MigrationSession) {text : String}
    (said : m.toJson.SaidBy text) :
    Migration.parse? text = some m ∧
      (∀ notes outcome, (s.start m).Dialogue notes outcome → AskedOnly (s.RecordsOnly m) notes) ∧
      ∀ stored, Json.parse? text = some stored → ∀ (c : Closing) notes outcome,
        (c.call s).Dialogue notes outcome → s.ledger.HandsOut s.schema stored notes →
          ((∃ error, outcome = .error error) ∧ ∀ answer,
            Note.asked (s.ledger.request (.activeMigration s.schema)) (.ok answer) ∉ notes) ∨
          ∃ reads rest, notes = reads ++ rest ∧
            (s.ledger.activeMigration s.schema).Dialogue reads (.ok m) ∧
            ((c.steps s m).bind fun _ => c.write s m).Dialogue rest outcome := by
  refine ⟨Migration.parse?_of_saidBy said, fun _ _ => recordsOnly_of_start, ?_⟩
  intro stored read c notes outcome dialogue hands
  obtain ⟨other, same, readOther⟩ := said.parse?
  obtain rfl : other = stored := Option.some.inj (readOther.symm.trans read)
  rw [Closing.call_eq] at dialogue
  rcases dialogue_bind.mp dialogue with ⟨reads, rest, told, rfl, reading, follows⟩ |
    ⟨error, rfl, fails⟩
  · have early : s.ledger.HandsOut s.schema other reads := fun answer member =>
      hands answer (List.mem_append_left _ member)
    rcases Ledger.dialogue_activeMigration_of_handsOut same early reading with told | ⟨⟨_, no⟩, _⟩
    · cases told
      exact .inr ⟨reads, rest, rfl, reading, follows⟩
    · cases no
  · rcases Ledger.dialogue_activeMigration_of_handsOut same hands fails with no | unanswered
    · cases no
    · exact .inl ⟨⟨error, rfl⟩, unanswered.2⟩

/-- A migration with a name that has to be escaped. -/
def renamesSize : Migration :=
  { name := "größe \"2\""
    versionSchema := none
    operations := [.renameColumn { table := "shoes", source := "größe", target := "size" }] }

/-- Its operations as a database may keep them, with the members in another order. -/
def keptOperations : Json :=
  .array [.object [("rename_column",
    .object [("to", .string "size"), ("from", .string "größe"), ("table", .string "shoes")])]]

/-- The value under which a database may keep it. -/
def keptValue : Json :=
  .object [("operations", keptOperations), ("name", .string renamesSize.name)]

/-- The text in which a database may hand it out. -/
def keptText : String :=
  spacedText "operations" keptOperations "\"n\\u0061me\"".toList (.string renamesSize.name)

theorem reorders_keptValue : renamesSize.toJson.Reorders keptValue := by
  have fields : (Json.object [("table", .string "shoes"), ("from", .string "größe"),
      ("to", .string "size")]).Reorders (.object
        [("to", .string "size"), ("from", .string "größe"), ("table", .string "shoes")]) :=
    reorders_reversed _
  have operations : (Json.array (renamesSize.operations.map Operation.toJson)).Reorders
      keptOperations :=
    ⟨_, ⟨_, _, reorders_single.mpr ⟨_, fields, rfl⟩, rfl, rfl⟩, rfl⟩
  exact reorders_swapped operations (reorders_refl _)

theorem surrounded_keptText : Surrounded keptValue.Spells keptText.toList :=
  surrounded_spacedText spellsString_name (by simp [keptOperations]) (readable_string _)

/-- A server that hands out this value and has every schema, and otherwise answers as one on which
all succeeds. -/
def handingOut : Request → Except ServerError Answer
  | .ledger _ (.activeMigration _) => .ok (.ofRow [some keptValue])
  | .hasSchema _ => .ok (.ofRow [some (.bool true)])
  | request => succeeding (initialVersion none) renamesSize request

/-- What is noted of the call that closes the migration, with this server. -/
def recalledNotes (c : Closing) : List Note :=
  (c.call usual).notesWith handingOut

theorem handsOut_recalledNotes (c : Closing) :
    usual.ledger.HandsOut usual.schema keptValue (recalledNotes c) := by
  intro answer asked
  cases eq_of_asked_answering asked
  exact ⟨[], [], rfl⟩

/-- The migration is read from the text, and both calls do their steps for it and succeed. -/
theorem recall_of_reordered :
    renamesSize.toJson.SaidBy keptText ∧ Migration.parse? keptText = some renamesSize ∧
      (∃ reads rest, recalledNotes .completion = reads ++ rest ∧
        ((Closing.completion.steps usual renamesSize).bind fun _ =>
          Closing.completion.write usual renamesSize).Dialogue rest (.ok ())) ∧
      ∃ reads rest, recalledNotes .rollback = reads ++ rest ∧
        ((Closing.rollback.steps usual renamesSize).bind fun _ =>
          Closing.rollback.write usual renamesSize).Dialogue rest (.ok ()) := by
  have said : renamesSize.toJson.SaidBy keptText := ⟨_, reorders_keptValue, surrounded_keptText⟩
  obtain ⟨read, -, recalls⟩ := started_migration_is_recalled usual said
  have stored : Json.parse? keptText = some keptValue := parse?_of_surrounded surrounded_keptText
  have recalled (c : Closing) (dialogue : (c.call usual).Dialogue (recalledNotes c) (.ok ())) :
      ∃ reads rest, recalledNotes c = reads ++ rest ∧
        ((c.steps usual renamesSize).bind fun _ => c.write usual renamesSize).Dialogue rest
          (.ok ()) := by
    rcases recalls keptValue stored c _ _ dialogue (handsOut_recalledNotes c) with
      ⟨⟨_, impossible⟩, _⟩ | ⟨reads, rest, split, _, follows⟩
    · cases impossible
    · exact ⟨reads, rest, split, follows⟩
  have completed : (Closing.completion.call usual).Shows (recalledNotes .completion) (.ok ()) :=
    shows_of_outcomeWith rfl
  have rolledBack : (Closing.rollback.call usual).Shows (recalledNotes .rollback) (.ok ()) :=
    shows_of_outcomeWith rfl
  exact ⟨said, read, recalled _ completed.dialogue, recalled _ rolledBack.dialogue⟩

end MigrationSession

end ExpandContract
