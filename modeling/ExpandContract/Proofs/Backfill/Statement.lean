import ExpandContract.Proofs.Sql.Delimiting
import ExpandContract.Session.Request

/-!
# What a server reads in the requests of a backfill

A server does not see what a request was meant for. It sees the text and the parameters, and it
finds the table and the key columns by the names in the text.

`Meaning.of?` is how a server reads a request that is about one of its tables, which it knows by
the schema, the name, and the columns of the key with their types. A statement is read piece by
piece: a piece is what the server knows by heart, or a name in quotes, which it reads up to the
closing quote. What is not read in this way is about something else, or about nothing at all.

The requests of a backfill are read as they were meant, whatever the names hold
(`Meaning.of?_updateBatch`, `Meaning.of?_estimateRows`, `Meaning.of?_countRows`).
-/

set_option autoImplicit false

namespace ExpandContract

/-! ## Reading by pieces -/

namespace Sql

/-- A piece of a statement. -/
inductive Piece where
  /-- Words and signs, as they stand. -/
  | plain (text : String)
  /-- A name in quotes. -/
  | name (name : String)

/-- What follows the piece in a text that begins with it. -/
def Piece.after? : Piece → String → Option String
  | .plain words, text => Sql.after? words text
  | .name wanted, text =>
      match readQuoted? '"' text with
      | some (read, rest) => if read = wanted then some rest else none
      | none => none

/-- Whether the text consists of these pieces. -/
def consistsOf : List Piece → String → Bool
  | [], text => text = ""
  | piece :: pieces, text =>
      match piece.after? text with
      | some rest => consistsOf pieces rest
      | none => false

/-- The pieces of a list with commas. -/
def listed (entries : List (List Piece)) : List Piece :=
  [.plain ", "].intercalate entries

/-- A name in quotes ends before this text. -/
def Unquoted (rest : String) : Prop :=
  rest.toList.head? ≠ some '"'

theorem Unquoted.of_text {text : String} {c : Char} (rest : String)
    (begins : text.toList.head? = some c) (other : c ≠ '"') : Unquoted (text ++ rest) := by
  rw [Unquoted, String.toList_append, List.head?_append, begins]
  exact fun same => other (Option.some.inj same)

variable {rest : String} {others : List Piece}

theorem consistsOf_plain (words rest : String) (others : List Piece) :
    consistsOf (.plain words :: others) (words ++ rest) = consistsOf others rest := by
  rw [consistsOf, Piece.after?, after?_eq_some_iff.mpr rfl]

theorem consistsOf_name (name : String) (apart : Unquoted rest) :
    consistsOf (.name name :: others) (quotedName name ++ rest) = consistsOf others rest := by
  have read : readQuoted? '"' (quotedName name ++ rest) = some (name, rest) :=
    readQuoted?_eq_some_iff.mpr ⟨rfl, apart⟩
  rw [consistsOf, Piece.after?, read]
  simp only [if_true]

/-- The text is made of these pieces, whatever follows apart from it. -/
def MadeOf (text : String) (pieces : List Piece) : Prop :=
  ∀ others rest, Unquoted rest →
    consistsOf (pieces ++ others) (text ++ rest) = consistsOf others rest

theorem madeOf_name (name : String) : MadeOf (quotedName name) [.name name] :=
  fun _ _ apart => consistsOf_name name apart

theorem madeOf_qualifiedName (schema name : String) :
    MadeOf (qualifiedName schema name) [.name schema, .plain ".", .name name] := by
  intro others rest apart
  have point : Unquoted ("." ++ (quotedName name ++ rest)) := .of_text _ rfl (by decide)
  rw [qualifiedName, String.append_assoc, String.append_assoc, List.cons_append,
    consistsOf_name schema point, List.cons_append, consistsOf_plain]
  exact madeOf_name name others rest apart

/-- A list with commas is made of the pieces of its entries. -/
theorem madeOf_listed {α : Type} {text : α → String} {pieces : α → List Piece}
    (each : ∀ entry, MadeOf (text entry) (pieces entry)) (list : List α) :
    MadeOf (joined ", " (list.map text)) (listed (list.map pieces)) := by
  induction list with
  | nil => exact fun _ rest _ => by simp [joined, listed]
  | cons entry list ih =>
      cases list with
      | nil =>
          intro others rest apart
          simpa [joined, listed] using each entry others rest apart
      | cons next list =>
          intro others rest apart
          have comma : Unquoted (", " ++ (joined ", " ((next :: list).map text) ++ rest)) :=
            .of_text _ rfl (by decide)
          have split : listed ((entry :: next :: list).map pieces) =
              pieces entry ++ .plain ", " :: listed ((next :: list).map pieces) := by
            simp [listed]
          have texts : joined ", " ((entry :: next :: list).map text) =
              text entry ++ (", " ++ joined ", " ((next :: list).map text)) := by
            simp [joined, String.append_assoc]
          rw [split, texts, String.append_assoc, String.append_assoc, List.append_assoc,
            each entry _ _ comma, List.cons_append, consistsOf_plain]
          exact ih others rest apart

end Sql

namespace Backfill

open Session
open Ledger (Arg)
open Sql (Piece listed Unquoted MadeOf consistsOf consistsOf_plain consistsOf_name madeOf_name
  madeOf_listed madeOf_qualifiedName)

/-! ## A table of the server -/

/-- What the server goes by when a request names one of its tables. -/
structure Known where
  schema : String
  table : String
  /-- The columns of the primary key, with their types. -/
  key : List (String × String)

namespace Known

variable (known : Known)

/-- The table, by its name. -/
def relation : List Piece :=
  [.name known.schema, .plain ".", .name known.table]

/-- The columns of the key. -/
def columns : List Piece :=
  listed (known.key.map fun column => [.name column.1])

/-- The columns of the key with the same words behind each. -/
def columnsWith (words : String) : List Piece :=
  listed (known.key.map fun column => [.name column.1, .plain words])

/-- The columns of the key in a row that has a name of its own. -/
def columnsOf (row : String) : List Piece :=
  listed (known.key.map fun column => [.plain (row ++ "."), .name column.1])

/-- The columns of the key, each set to what it is in the row `t`. -/
def settings : List Piece :=
  listed (known.key.map fun column => [.name column.1, .plain " = t.", .name column.1])

/-- The parameters that hold a key, from the second one on. They are given as texts, and each is
converted to the type of its column. -/
def parameters : List Piece :=
  listed (known.key.zipIdx.map fun entry =>
    [.plain ("$" ++ toString (entry.2 + 2) ++ "::" ++ entry.1.2)])

/-- The rows that come next: the first ones in the order of the key, behind the given key if there
is one. They are locked for the update. -/
def next (withCursor : Bool) : List Piece :=
  [.plain "SELECT "] ++ known.columns ++ [.plain " FROM "] ++ known.relation ++ [.plain " "] ++
    (if withCursor then
      [.plain "WHERE ("] ++ known.columns ++ [.plain ") > ("] ++ known.parameters ++ [.plain ") "]
    else []) ++
    [.plain "ORDER BY "] ++ known.columns ++ [.plain " LIMIT $1 FOR NO KEY UPDATE"]

/-- The update of these rows, which leaves their keys as they are. -/
def update : List Piece :=
  [.plain "UPDATE "] ++ known.relation ++ [.plain " AS t SET "] ++ known.settings ++
    [.plain " FROM batch WHERE ("] ++ known.columnsOf "t" ++ [.plain ") = ("] ++
    known.columnsOf "batch" ++ [.plain ") RETURNING "] ++ known.columnsOf "t"

/-- The last key of the updated rows, as texts. -/
def last : List Piece :=
  [.plain "SELECT ARRAY["] ++ known.columnsWith "::text" ++
    [.plain "] FROM updated ORDER BY "] ++ known.columnsWith " DESC" ++ [.plain " LIMIT 1"]

/-- The statement that updates the rows that come next and tells their number and the last key. -/
def batch (withCursor : Bool) : List Piece :=
  [.plain "WITH batch AS ( "] ++ known.next withCursor ++ [.plain " ), updated AS ( "] ++
    known.update ++ [.plain " ) "] ++
    [.plain "SELECT (SELECT count(*) FROM updated) AS updated, ("] ++ known.last ++
    [.plain ") AS last_key"]

end Known

/-! ## What a request means -/

/-- What is asked of a server about one of its tables. -/
inductive Meaning where
  | begin
  | commit
  | rollback
  /-- How many rows the server believes the table to have. -/
  | estimate
  | count
  /-- The update of the rows that come next, with a limit and the last key of those before. -/
  | update (limit : Nat) (cursor : Option (List String))
deriving DecidableEq

/-- The texts of parameters that are texts. -/
def textsOf? (args : List Arg) : Option (List String) :=
  args.mapM fun
    | .text value => some value
    | _ => none

/-- How the server reads a statement with parameters: there is one parameter more than the key has
columns if the rows behind a key are asked for. -/
def Meaning.ofQuery? (known : Known) (text : String) : List Arg → Option Meaning
  | [] => do
      let relation ← Sql.after? "SELECT count(*) FROM " text
      if Sql.readQualified? relation = some (known.schema, known.table) then some .count else none
  | [.text relation] =>
      if text = "SELECT reltuples::bigint FROM pg_catalog.pg_class WHERE oid = to_regclass($1)" ∧
          Sql.readQualified? relation = some (known.schema, known.table) then some .estimate
      else none
  | [.int limit] =>
      if consistsOf (known.batch false) text then some (.update limit.toNat none) else none
  | .int limit :: values => do
      let cursor ← textsOf? values
      if cursor.length = known.key.length ∧ consistsOf (known.batch true) text then
        some (.update limit.toNat cursor)
      else none
  | _ => none

/-- How the server reads a text and its parameters, if it has any. -/
def Meaning.of? (known : Known) (text : String) : Option (List Arg) → Option Meaning
  | some args => ofQuery? known text args
  | none =>
      if text = "BEGIN" then some .begin
      else if text = "COMMIT" then some .commit
      else if text = "ROLLBACK" then some .rollback
      else none

/-! ## The requests of a backfill are read as they are meant -/

/-- The table of a batch, as the server knows it. -/
def Batch.known (batch : Batch) : Known :=
  { schema := batch.schema, table := batch.table, key := batch.key }

section Statement

variable (batch : Batch)

theorem madeOf_columns : MadeOf (Sql.joined ", " batch.columns) batch.known.columns := by
  have each (column : String × String) :
      MadeOf (Sql.quotedName column.1) [.name column.1] := madeOf_name column.1
  exact madeOf_listed each batch.key

theorem madeOf_columnsWith {words : String} {c : Char} (begins : words.toList.head? = some c)
    (other : c ≠ '"') :
    MadeOf (Sql.joined ", " (batch.columns.map fun column => column ++ words))
      (batch.known.columnsWith words) := by
  have each (column : String × String) : MadeOf (Sql.quotedName column.1 ++ words)
      [.name column.1, .plain words] := by
    intro others rest _
    rw [String.append_assoc, List.cons_append, consistsOf_name _ (.of_text _ begins other)]
    exact consistsOf_plain ..
  have list := madeOf_listed each batch.key
  rwa [Batch.columns, List.map_map]

theorem madeOf_columnsOf (row : String) :
    MadeOf (batch.columnsOf row) (batch.known.columnsOf row) := by
  have each (column : String × String) : MadeOf (row ++ "." ++ Sql.quotedName column.1)
      [.plain (row ++ "."), .name column.1] := by
    intro others rest apart
    rw [String.append_assoc, List.cons_append, consistsOf_plain]
    exact madeOf_name column.1 others rest apart
  have list := madeOf_listed each batch.key
  rwa [Batch.columnsOf, Batch.columns, List.map_map]

theorem madeOf_settings :
    MadeOf (Sql.joined ", " (batch.columns.map fun column => column ++ (" = t." ++ column)))
      batch.known.settings := by
  have each (column : String × String) :
      MadeOf (Sql.quotedName column.1 ++ (" = t." ++ Sql.quotedName column.1))
        [.name column.1, .plain " = t.", .name column.1] := by
    intro others rest apart
    rw [String.append_assoc, String.append_assoc, List.cons_append,
      consistsOf_name _ (.of_text _ rfl (by decide)), List.cons_append, consistsOf_plain]
    exact madeOf_name column.1 others rest apart
  have list := madeOf_listed each batch.key
  rwa [Batch.columns, List.map_map]

theorem madeOf_cursorPlaces : MadeOf batch.cursorPlaces batch.known.parameters := by
  have each (entry : (String × String) × Nat) :
      MadeOf ("$" ++ toString (entry.2 + 2) ++ "::" ++ entry.1.2)
        [.plain ("$" ++ toString (entry.2 + 2) ++ "::" ++ entry.1.2)] :=
    fun _ _ _ => consistsOf_plain ..
  exact madeOf_listed each batch.key.zipIdx

/-- The condition that the rows come behind the last key, if there is one. -/
theorem consistsOf_condition (withCursor : Bool) (others : List Piece) (rest : String) :
    consistsOf
        ((if withCursor then
          .plain "WHERE (" :: (batch.known.columns ++ .plain ") > (" ::
            (batch.known.parameters ++ [.plain ") "]))
        else []) ++ others)
        ((if withCursor then
          "WHERE (" ++ (Sql.joined ", " batch.columns ++ (") > (" ++ (batch.cursorPlaces ++ ") ")))
        else "") ++ rest) =
      consistsOf others rest := by
  cases withCursor with
  | false => simp
  | true =>
      simp only [if_true, String.append_assoc, List.append_assoc, List.cons_append,
        List.nil_append, consistsOf_plain]
      rw [madeOf_columns batch _ _ (.of_text _ rfl (by decide)), consistsOf_plain,
        madeOf_cursorPlaces batch _ _ (.of_text _ rfl (by decide)), consistsOf_plain]

/-- The statement of a batch is the one that the server knows for its table and key. -/
theorem consistsOf_text (withCursor : Bool) :
    consistsOf (batch.known.batch withCursor) (batch.text withCursor) = true := by
  -- Where the text goes on from one clause to the next within a literal, it is divided.
  have opening : "WITH batch AS ( SELECT " = "WITH batch AS ( " ++ "SELECT " := rfl
  have writing : " LIMIT $1 FOR NO KEY UPDATE ), updated AS ( UPDATE " =
      " LIMIT $1 FOR NO KEY UPDATE" ++ (" ), updated AS ( " ++ "UPDATE ") := rfl
  have telling : "SELECT (SELECT count(*) FROM updated) AS updated, (SELECT ARRAY[" =
      "SELECT (SELECT count(*) FROM updated) AS updated, (" ++ "SELECT ARRAY[" := rfl
  have closing : " LIMIT 1) AS last_key" = " LIMIT 1" ++ (") AS last_key" ++ "") := rfl
  have relation (others : List Piece) {rest : String} (apart : Unquoted rest) :
      consistsOf (batch.known.relation ++ others)
        (Sql.qualifiedName batch.schema batch.table ++ rest) = consistsOf others rest :=
    madeOf_qualifiedName batch.schema batch.table others rest apart
  unfold Batch.text Known.batch Known.next Known.update Known.last
  rw [opening, writing, telling, closing]
  simp only [String.append_assoc, List.append_assoc, List.cons_append, List.nil_append,
    consistsOf_plain]
  -- The rows that come next.
  rw [madeOf_columns batch _ _ (.of_text _ rfl (by decide)), consistsOf_plain,
    relation _ (.of_text _ rfl (by decide)), consistsOf_plain, consistsOf_condition,
    consistsOf_plain, madeOf_columns batch _ _ (.of_text _ rfl (by decide)), consistsOf_plain]
  -- The update.
  rw [consistsOf_plain, consistsOf_plain, relation _ (.of_text _ rfl (by decide)),
    consistsOf_plain, madeOf_settings batch _ _ (.of_text _ rfl (by decide)), consistsOf_plain,
    madeOf_columnsOf batch "t" _ _ (.of_text _ rfl (by decide)), consistsOf_plain,
    madeOf_columnsOf batch "batch" _ _ (.of_text _ rfl (by decide)), consistsOf_plain,
    madeOf_columnsOf batch "t" _ _ (.of_text _ rfl (by decide)), consistsOf_plain]
  -- What is told of it.
  rw [consistsOf_plain, consistsOf_plain,
    madeOf_columnsWith batch rfl (by decide) _ _ (.of_text _ rfl (by decide)), consistsOf_plain,
    madeOf_columnsWith batch rfl (by decide) _ _ (.of_text _ rfl (by decide)), consistsOf_plain,
    consistsOf_plain]
  rfl

end Statement

/-! ## The batches of a table -/

theorem mapM_eq_map {α β : Type} {f : α → Option β} {g : α → β} {values : List α}
    (each : ∀ value ∈ values, f value = some (g value)) :
    values.mapM f = some (values.map g) := by
  induction values with
  | nil => rfl
  | cons value rest ih =>
      rw [List.mapM_cons, each value List.mem_cons_self,
        ih fun other member => each other (List.mem_cons_of_mem _ member)]
      rfl

/-- The type that a table has for the column of this name. -/
def typeOf (table : Table) (name : String) : String :=
  ((table.columns.values.find? fun column => column.name == name).map (·.dataType)).getD ""

/-- A table of this schema, as the server knows it. -/
def Known.ofTable (schema : String) (table : Table) : Known :=
  { schema
    table := table.name
    key := table.primaryKey.map fun name => (name, typeOf table name) }

theorem keyTypes?_eq_map {table : Table}
    (known : ∀ key ∈ table.primaryKey, ∃ column ∈ table.columns.values, column.name = key) :
    table.keyTypes? = some (table.primaryKey.map (typeOf table)) := by
  refine mapM_eq_map fun key member => ?_
  obtain ⟨column, among, named⟩ := known key member
  have found : (table.columns.values.find? fun c => c.name == key).isSome :=
    List.find?_isSome.mpr ⟨column, among, beq_iff_eq.mpr named⟩
  obtain ⟨column, same⟩ := Option.isSome_iff_exists.mp found
  rw [typeOf, same]
  rfl

/-- A table with a primary key whose columns are known can be filled, by batches of just this table
and its key. -/
theorem exists_batch (schema : String) {table : Table} (keyed : table.primaryKey ≠ [])
    (known : ∀ key ∈ table.primaryKey, ∃ column ∈ table.columns.values, column.name = key) :
    ∃ batch, Batch.ofTable schema table = .ok batch ∧
      batch.known = Known.ofTable schema table := by
  refine ⟨{ schema, table := table.name, key := (Known.ofTable schema table).key }, ?_, rfl⟩
  unfold Batch.ofTable
  rw [if_neg (by simpa using keyed), keyTypes?_eq_map known]
  simp only [Known.ofTable, List.map_prod_left_eq_zip]

/-! ## Whole requests -/

theorem textsOf?_map (values : List String) : textsOf? (values.map .text) = some values := by
  induction values with
  | nil => rfl
  | cons value rest ih =>
      rw [textsOf?] at ih ⊢
      rw [List.map_cons, List.mapM_cons, ih]
      rfl

/-- A batch is read as the update of the rows that come next in its table. The last key has to have
a value for each column of the key. -/
theorem Meaning.of?_updateBatch (batch : Batch) (limit : Nat) {cursor : Option (List String)}
    (keyed : batch.key ≠ [])
    (fits : ∀ values ∈ cursor, values.length = batch.key.length) :
    Meaning.of? batch.known (Request.updateBatch batch limit cursor).text
      (Request.updateBatch batch limit cursor).args? = some (.update limit cursor) := by
  cases cursor with
  | none =>
      change ofQuery? batch.known (batch.text false) [.int limit] = _
      rw [ofQuery?, if_pos (consistsOf_text batch false), Int.toNat_natCast]
  | some values =>
      have same := fits values rfl
      obtain ⟨value, rest, rfl⟩ : ∃ value rest, values = value :: rest := by
        refine List.exists_cons_of_ne_nil fun empty => keyed (List.eq_nil_of_length_eq_zero ?_)
        rw [← same, empty, List.length_nil]
      have texts : textsOf? (.text value :: rest.map .text) = some (value :: rest) :=
        textsOf?_map (value :: rest)
      have read : (value :: rest).length = batch.known.key.length ∧
          consistsOf (batch.known.batch true) (batch.text true) = true :=
        ⟨same, consistsOf_text batch true⟩
      change ofQuery? batch.known (batch.text true)
        (.int limit :: .text value :: rest.map .text) = _
      rw [ofQuery?, texts, Option.bind_eq_bind, Option.bind_some, if_pos read, Int.toNat_natCast]
      nofun

theorem Meaning.of?_estimateRows (known : Known) :
    Meaning.of? known (Request.estimateRows known.schema known.table).text
      (Request.estimateRows known.schema known.table).args? = some .estimate :=
  if_pos ⟨rfl, Sql.readQualified?_eq_some_iff.mpr rfl⟩

theorem Meaning.of?_countRows (known : Known) :
    Meaning.of? known (Request.countRows known.schema known.table).text
      (Request.countRows known.schema known.table).args? = some .count := by
  have behind : Sql.after? "SELECT count(*) FROM "
      (Request.countRows known.schema known.table).text =
      some (Sql.qualifiedName known.schema known.table) := Sql.after?_eq_some_iff.mpr rfl
  change ofQuery? known (Request.countRows known.schema known.table).text [] = _
  rw [ofQuery?, behind]
  exact if_pos (Sql.readQualified?_eq_some_iff.mpr rfl)

end Backfill

end ExpandContract
