import ExpandContract.Migration.Json
import ExpandContract.Proofs.Json.Reading
import ExpandContract.Proofs.Json.Reordering

/-!
# Reading back what was written

The ledger keeps migrations and snapshots as JSON. What this library writes it reads back as it was,
also when the members of objects come in another order: `Migration.ofJson?_of_reorders` and
`Schema.ofJson?_of_reorders`, each put together from the parts. Together with the texts of a value
this gives what is read of every text that says a migration or a snapshot (`Json.SaidBy`).
-/

set_option autoImplicit false

namespace ExpandContract

open Json

namespace Json

theorem strings?_strings (texts : List String) : strings? (strings texts) = some texts :=
  list?_of_reorders (fun text other same => by rw [reorders_string.mp same]; rfl) texts
    (reorders_refl _)

theorem int32?_toInt (n : Int32) : int32? (int n.toInt) = some n := by
  have low : -2147483648 ≤ n.toInt := n.le_toInt
  have high : n.toInt < 2147483648 := n.toInt_lt
  simp only [int32?, int, int?, Option.bind_eq_bind, Option.bind_some]
  rw [if_pos ⟨low, high⟩, Int32.ofInt_toInt]

/-- An option that is always written, with null for none. -/
theorem optional_optString (text : Option String) :
    Json.optional string? (some (optString text)) = some text := by
  cases text <;> rfl

@[simp]
theorem required_some {α : Type} (read : Json → Option α) (value : Json) :
    required read (some value) = read value := rfl

@[simp]
theorem withDefault_some {α : Type} (default : α) (read : Json → Option α) (value : Json) :
    withDefault default read (some value) = read value := rfl

@[simp]
theorem withDefault_none {α : Type} (default : α) (read : Json → Option α) :
    withDefault default read none = some default := rfl

@[simp]
theorem optional_none {α : Type} (read : Json → Option α) :
    Json.optional read none = some none := rfl

@[simp]
theorem optional_string (text : String) :
    Json.optional string? (some (.string text)) = some (some text) := rfl

/-- A map that may be left out is read back as it was written. -/
theorem withDefault_map? {α : Type} {read : Json → Option α} {write : α → Json}
    {m : NameMap α} {field : Option Json}
    (back : ∀ value other, (write value).Reorders other → read other = some value)
    (told : ∃ other, field = some other ∧ (ofMap write m).Reorders other) :
    withDefault .empty (map? read) field = some m :=
  withDefault_of_reorders (fun _ => map?_of_reorders back m) told

/-- The members of one name among those of an option. -/
theorem filter_optMember (name other : String) (text : Option String) :
    (optMember other text).filter (fun member => member.1 == name) =
      if other = name then optMember other text else [] := by
  by_cases same : other = name <;> cases text <;> simp [optMember, same]

/-- An option is read from an object in which the members of its name are those of the option. -/
theorem optional_of_members {members : List (String × Json)} {said : String → Option Json}
    {name : String} {text : Option String}
    (holds : ∀ member ∈ members, ∃ value, said member.1 = some value ∧ member.2.Reorders value)
    (absent : ∀ name, name ∉ members.map (·.1) → said name = none)
    (own : members.filter (fun member => member.1 == name) = optMember name text) :
    Json.optional string? (said name) = some text := by
  cases text with
  | none =>
      have missing : name ∉ members.map (·.1) := by
        intro there
        obtain ⟨member, among, rfl⟩ := List.mem_map.mp there
        exact List.filter_eq_nil_iff.mp own member among (beq_self_eq_true _)
      rw [absent name missing, optional_none]
  | some given =>
      have there : (name, .string given) ∈ members.filter fun member => member.1 == name :=
        own ▸ List.mem_singleton_self _
      obtain ⟨value, found, same⟩ := holds _ (List.mem_filter.mp there).1
      rw [found, reorders_string.mp same, optional_string]

end Json

/-! ## What has a text -/

namespace Json

@[simp]
theorem readable_int (n : Int) : (int n).Readable := trivial

@[simp]
theorem readable_optString (text : Option String) : (optString text).Readable := by
  cases text <;> trivial

@[simp]
theorem readable_strings (texts : List String) : (strings texts).Readable := by
  simp [strings]

theorem readable_ofMap {α : Type} {write : α → Json} (readable : ∀ value, (write value).Readable)
    (m : NameMap α) : (ofMap write m).Readable := by
  rw [ofMap, readable_object]
  induction m.entries with
  | nil => exact readableMembers_nil
  | cons entry rest ih => exact readableMembers_cons.mpr ⟨readable entry.2, ih⟩

@[simp]
theorem readable_optMember (name : String) (text : Option String) :
    ReadableMembers (optMember name text) := by
  cases text <;> simp [optMember]

end Json

theorem Column.readable_toJson (c : Column) : c.toJson.Readable := by
  simp [toJson]

theorem Index.readable_toJson (i : Index) : i.toJson.Readable := by
  simp [toJson]

theorem CheckConstraint.readable_toJson (c : CheckConstraint) : c.toJson.Readable := by
  simp [toJson]

theorem UniqueConstraint.readable_toJson (c : UniqueConstraint) : c.toJson.Readable := by
  simp [toJson]

theorem ForeignKey.readable_toJson (k : ForeignKey) : k.toJson.Readable := by
  simp [toJson]

theorem Table.readable_toJson (t : Table) : t.toJson.Readable := by
  simp [toJson, readable_ofMap Column.readable_toJson, readable_ofMap Index.readable_toJson,
    readable_ofMap CheckConstraint.readable_toJson,
    readable_ofMap UniqueConstraint.readable_toJson, readable_ofMap ForeignKey.readable_toJson]

theorem Schema.readable_toJson (s : Schema) : s.toJson.Readable := by
  simp [toJson, readable_ofMap Table.readable_toJson]

theorem ColumnDefinition.readable_toJson (c : ColumnDefinition) : c.toJson.Readable := by
  simp [toJson]

theorem Operation.readable_toJson (op : Operation) : op.toJson.Readable := by
  have fields : op.fieldsToJson.Readable := by
    cases op with
    | rawSql op =>
        rw [fieldsToJson]
        split <;> simp
    | _ => simp [fieldsToJson, ColumnDefinition.readable_toJson]
  simpa [toJson] using fields

theorem Migration.readable_toJson (m : Migration) : m.toJson.Readable := by
  simp [toJson, Operation.readable_toJson]

/-! ## Snapshots -/

section Snapshots

variable {other : Json}

theorem Column.ofJson?_of_reorders (c : Column) (same : c.toJson.Reorders other) :
    ofJson? other = some c := by
  unfold ofJson?
  refine record?_bind_of_reorders same (by simp) fun said holds _ => ?_
  simp only [List.forall_mem_cons, reorders_string, reorders_optString, reorders_bool,
    reorders_int, exists_eq_right] at holds
  simp [holds, string?, bool?, optional_optString, int32?_toInt]

theorem Index.ofJson?_of_reorders (i : Index) (same : i.toJson.Reorders other) :
    ofJson? other = some i := by
  unfold ofJson?
  refine record?_bind_of_reorders same (by simp) fun said holds _ => ?_
  simp only [List.forall_mem_cons, reorders_string, reorders_bool, reorders_strings,
    exists_eq_right] at holds
  simp [holds, string?, bool?, strings?_strings]

theorem CheckConstraint.ofJson?_of_reorders (c : CheckConstraint)
    (same : c.toJson.Reorders other) : ofJson? other = some c := by
  unfold ofJson?
  refine record?_bind_of_reorders same (by simp) fun said holds _ => ?_
  simp only [List.forall_mem_cons, reorders_string, reorders_strings, exists_eq_right] at holds
  simp [holds, string?, strings?_strings]

theorem UniqueConstraint.ofJson?_of_reorders (c : UniqueConstraint)
    (same : c.toJson.Reorders other) : ofJson? other = some c := by
  unfold ofJson?
  refine record?_bind_of_reorders same (by simp) fun said holds _ => ?_
  simp only [List.forall_mem_cons, reorders_string, reorders_strings, exists_eq_right] at holds
  simp [holds, string?, strings?_strings]

theorem ForeignKey.ofJson?_of_reorders (k : ForeignKey) (same : k.toJson.Reorders other) :
    ofJson? other = some k := by
  unfold ofJson?
  refine record?_bind_of_reorders same (by simp) fun said holds _ => ?_
  simp only [List.forall_mem_cons, reorders_string, reorders_strings, exists_eq_right] at holds
  simp [holds, string?, strings?_strings]

theorem Table.ofJson?_of_reorders (t : Table) (same : t.toJson.Reorders other) :
    ofJson? other = some t := by
  unfold ofJson?
  refine record?_bind_of_reorders same (by simp) fun said holds _ => ?_
  simp only [List.forall_mem_cons, reorders_string, reorders_optString, reorders_strings,
    exists_eq_right] at holds
  obtain ⟨name, oid, comment, columns, primaryKey, indexes, checks, uniques, foreignKeys, -⟩ :=
    holds
  simp [name, oid, comment, primaryKey, string?, optional_optString, strings?_strings,
    withDefault_map? (fun c _ => Column.ofJson?_of_reorders c) columns,
    withDefault_map? (fun i _ => Index.ofJson?_of_reorders i) indexes,
    withDefault_map? (fun c _ => CheckConstraint.ofJson?_of_reorders c) checks,
    withDefault_map? (fun c _ => UniqueConstraint.ofJson?_of_reorders c) uniques,
    withDefault_map? (fun k _ => ForeignKey.ofJson?_of_reorders k) foreignKeys]

/-- A snapshot is read back as it was written, in whatever order the members come. -/
theorem Schema.ofJson?_of_reorders (s : Schema) (same : s.toJson.Reorders other) :
    ofJson? other = some s := by
  unfold ofJson?
  refine record?_bind_of_reorders same (by simp) fun said holds _ => ?_
  simp only [List.forall_mem_cons, reorders_string, exists_eq_right] at holds
  obtain ⟨name, tables, -⟩ := holds
  simp [name, string?, withDefault_map? (fun t _ => Table.ofJson?_of_reorders t) tables]

theorem Schema.ofJson?_toJson (s : Schema) : ofJson? s.toJson = some s :=
  s.ofJson?_of_reorders (reorders_refl _)

end Snapshots

/-! ## Migrations -/

section Migrations

variable {other : Json}

theorem ColumnDefinition.ofJson?_of_reorders (c : ColumnDefinition)
    (same : c.toJson.Reorders other) : ofJson? other = some c := by
  unfold toJson at same
  unfold ofJson?
  refine record?_bind_of_reorders same ?_ fun said holds absent => ?_
  · cases c.default <;> cases c.check <;> cases c.comment <;> simp [optMember]
  · have default : Json.optional string? (said "default") = some c.default :=
      optional_of_members holds absent (by simp [filter_optMember])
    have check : Json.optional string? (said "check") = some c.check :=
      optional_of_members holds absent (by simp [filter_optMember])
    have comment : Json.optional string? (said "comment") = some c.comment :=
      optional_of_members holds absent (by simp [filter_optMember])
    simp only [List.cons_append, List.forall_mem_cons, reorders_string, reorders_bool,
      exists_eq_right] at holds
    simp [holds, default, check, comment, string?, bool?]

theorem CreateTable.ofJson?_of_reorders (op : CreateTable)
    (same : (Operation.createTable op).fieldsToJson.Reorders other) :
    ofJson? other = some op := by
  unfold Operation.fieldsToJson at same
  unfold ofJson?
  refine record?_bind_of_reorders same (by cases op.comment <;> simp [optMember])
    fun said holds absent => ?_
  have comment : Json.optional string? (said "comment") = some op.comment :=
    optional_of_members holds absent (by simp [filter_optMember])
  simp only [List.cons_append, List.forall_mem_cons, reorders_string, exists_eq_right] at holds
  have columns : required (list? ColumnDefinition.ofJson?) (said "columns") = some op.columns :=
    required_of_reorders
      (fun _ => list?_of_reorders (fun c _ => c.ofJson?_of_reorders) op.columns) holds.2.1
  simp [holds, columns, comment, string?]

theorem DropTable.ofJson?_of_reorders (op : DropTable)
    (same : (Operation.dropTable op).fieldsToJson.Reorders other) : ofJson? other = some op := by
  unfold ofJson?
  refine record?_bind_of_reorders same (by simp) fun said holds _ => ?_
  simp only [List.forall_mem_cons, reorders_string, exists_eq_right] at holds
  simp [holds, string?]

theorem AddColumn.ofJson?_of_reorders (op : AddColumn)
    (same : (Operation.addColumn op).fieldsToJson.Reorders other) : ofJson? other = some op := by
  unfold Operation.fieldsToJson at same
  unfold ofJson?
  refine record?_bind_of_reorders same (by cases op.up <;> simp [optMember])
    fun said holds absent => ?_
  have up : Json.optional string? (said "up") = some op.up :=
    optional_of_members holds absent (by simp [filter_optMember])
  simp only [List.cons_append, List.forall_mem_cons, reorders_string, exists_eq_right] at holds
  have column := required_of_reorders (fun _ => op.column.ofJson?_of_reorders) holds.2.1
  simp [holds, column, up, string?]

theorem DropColumn.ofJson?_of_reorders (op : DropColumn)
    (same : (Operation.dropColumn op).fieldsToJson.Reorders other) : ofJson? other = some op := by
  unfold Operation.fieldsToJson at same
  unfold ofJson?
  refine record?_bind_of_reorders same (by cases op.down <;> simp [optMember])
    fun said holds absent => ?_
  have down : Json.optional string? (said "down") = some op.down :=
    optional_of_members holds absent (by simp [filter_optMember])
  simp only [List.cons_append, List.forall_mem_cons, reorders_string, exists_eq_right] at holds
  simp [holds, down, string?]

theorem RenameColumn.ofJson?_of_reorders (op : RenameColumn)
    (same : (Operation.renameColumn op).fieldsToJson.Reorders other) :
    ofJson? other = some op := by
  unfold ofJson?
  refine record?_bind_of_reorders same (by simp) fun said holds _ => ?_
  simp only [List.forall_mem_cons, reorders_string, exists_eq_right] at holds
  simp [holds, string?]

theorem CreateIndex.ofJson?_of_reorders (op : CreateIndex)
    (same : (Operation.createIndex op).fieldsToJson.Reorders other) :
    ofJson? other = some op := by
  unfold ofJson?
  refine record?_bind_of_reorders same (by simp) fun said holds _ => ?_
  simp only [List.forall_mem_cons, reorders_string, reorders_bool, reorders_strings,
    exists_eq_right] at holds
  simp [holds, string?, bool?, strings?_strings]

theorem DropIndex.ofJson?_of_reorders (op : DropIndex)
    (same : (Operation.dropIndex op).fieldsToJson.Reorders other) : ofJson? other = some op := by
  unfold ofJson?
  refine record?_bind_of_reorders same (by simp) fun said holds _ => ?_
  simp only [List.forall_mem_cons, reorders_string, exists_eq_right] at holds
  simp [holds, string?]

theorem RawSql.ofJson?_of_reorders (op : RawSql)
    (same : (Operation.rawSql op).fieldsToJson.Reorders other) : ofJson? other = some op := by
  obtain ⟨up, down, onComplete⟩ := op
  unfold Operation.fieldsToJson at same
  unfold ofJson?
  cases down <;> cases onComplete <;>
    · refine record?_bind_of_reorders same (by simp [optMember]) fun said holds absent => ?_
      simp [optMember] at holds absent
      simp [holds, absent, string?, bool?]

/-- An operation is read back as it was written, in whatever order the members come. -/
theorem Operation.ofJson?_of_reorders (op : Operation) (same : op.toJson.Reorders other) :
    ofJson? other = some op := by
  obtain ⟨fields, sameFields, rfl⟩ := reorders_single.mp same
  cases op with
  | createTable op => simp [kind, ofJson?, op.ofJson?_of_reorders sameFields]
  | dropTable op => simp [kind, ofJson?, op.ofJson?_of_reorders sameFields]
  | addColumn op => simp [kind, ofJson?, op.ofJson?_of_reorders sameFields]
  | dropColumn op => simp [kind, ofJson?, op.ofJson?_of_reorders sameFields]
  | renameColumn op => simp [kind, ofJson?, op.ofJson?_of_reorders sameFields]
  | createIndex op => simp [kind, ofJson?, op.ofJson?_of_reorders sameFields]
  | dropIndex op => simp [kind, ofJson?, op.ofJson?_of_reorders sameFields]
  | rawSql op => simp [kind, ofJson?, op.ofJson?_of_reorders sameFields]

/-- A migration is read back as it was written, in whatever order the members come. -/
theorem Migration.ofJson?_of_reorders (m : Migration) (same : m.toJson.Reorders other) :
    ofJson? other = some m := by
  unfold toJson at same
  unfold ofJson?
  refine record?_bind_of_reorders same (by cases m.versionSchema <;> simp [optMember])
    fun said holds absent => ?_
  have versionSchema : Json.optional string? (said "version_schema") = some m.versionSchema :=
    optional_of_members holds absent (by simp [filter_optMember])
  have operations : withDefault [] (list? Operation.ofJson?) (said "operations") =
      some m.operations :=
    withDefault_of_reorders
      (fun _ => list?_of_reorders (fun op _ => op.ofJson?_of_reorders) m.operations)
      (holds ("operations", _) (by simp))
  simp only [List.cons_append, List.forall_mem_cons, reorders_string, exists_eq_right] at holds
  simp [holds, versionSchema, operations, string?]

theorem Migration.ofJson?_toJson (m : Migration) : ofJson? m.toJson = some m :=
  m.ofJson?_of_reorders (reorders_refl _)

end Migrations

/-! ## Texts -/

/-- The text says the value: it is a text of the value, with the members of objects in any order,
white space at any place between tokens, and the characters of strings written in any way. -/
def Json.SaidBy (v : Json) (text : String) : Prop :=
  ∃ other, v.Reorders other ∧ Surrounded other.Spells text.toList

namespace Json

/-- A text that says a value is read as the value, but for the order of members. -/
theorem SaidBy.parse? {v : Json} {text : String} (said : v.SaidBy text) :
    ∃ other, v.Reorders other ∧ Json.parse? text = some other := by
  obtain ⟨other, same, written⟩ := said
  exact ⟨other, same, parse?_of_surrounded written⟩

/-- What the printer writes says the value. -/
theorem saidBy_render {v : Json} (readable : v.Readable) : v.SaidBy v.render := by
  refine ⟨v, reorders_refl v, ?_⟩
  rw [render, String.toList_ofList]
  exact .bare (spells_print v readable)

end Json

/-- A migration is read from every text that says it. -/
theorem Migration.parse?_of_saidBy {m : Migration} {text : String} (said : m.toJson.SaidBy text) :
    Migration.parse? text = some m := by
  obtain ⟨other, same, read⟩ := said.parse?
  rw [Migration.parse?, read]
  exact m.ofJson?_of_reorders same

/-- A snapshot is read from every text that says it. -/
theorem Schema.parse?_of_saidBy {s : Schema} {text : String} (said : s.toJson.SaidBy text) :
    Schema.parse? text = some s := by
  obtain ⟨other, same, read⟩ := said.parse?
  rw [Schema.parse?, read]
  exact s.ofJson?_of_reorders same

/-- A snapshot is read as it was from the text that is written for it, and from every other text
that says the same. What is read of any text is not changed by writing it and reading it again. -/
theorem Schema.text_round_trip (s : Schema) :
    (s.toJson.SaidBy s.toJson.render ∧
      ∀ text, s.toJson.SaidBy text → Schema.parse? text = some s) ∧
    ∀ text, Schema.parse? text = some s → Schema.parse? s.toJson.render = Schema.parse? text := by
  have written := saidBy_render s.readable_toJson
  refine ⟨⟨written, fun text => parse?_of_saidBy⟩, fun text read => ?_⟩
  rw [parse?_of_saidBy written, read]

/-! ## A text with another order -/

namespace Json

theorem readable_reversed {v : Json} (readable : v.Readable) : v.reversed.Readable := by
  cases v with
  | object members =>
      rw [reversed, readable_object]
      rw [readable_object] at readable
      induction members with
      | nil => exact readable
      | cons member rest ih =>
          obtain ⟨first, others⟩ := readableMembers_cons.mp readable
          rw [List.reverse_cons, readableMembers_append]
          exact ⟨ih others, readableMembers_cons.mpr ⟨first, readableMembers_nil⟩⟩
  | _ => exact readable

/-- A text of an object of two members with white space in it; the name of the second member is
already spelled. -/
def spacedText (first : String) (v : Json) (second : List Char) (w : Json) : String :=
  .ofList ('\x7b' :: (' ' :: printString first ++ ':' :: v.print ++ [' ']) ++
    (',' :: '\n' :: second ++ ' ' :: ':' :: ' ' :: w.print ++ ['\x7d']))

theorem surrounded_spacedText {first second : String} {v w : Json} {spelled : List Char}
    (spells : SpellsString second spelled) (readableV : v.Readable) (readableW : w.Readable) :
    Surrounded (Spells (.object [(first, v), (second, w)]))
      (spacedText first v spelled w).toList := by
  have space : Blank [' '] := by simp [Blank, isSpace]
  have newline : Blank ['\n'] := by simp [Blank, isSpace]
  have nothing : Blank [] := by simp [Blank]
  have earlier : SpellsMember first (Spells v)
      (' ' :: printString first ++ ':' :: v.print ++ [' ']) := by
    refine ⟨_, _, ⟨_, _, _, space, spellsString_printString first, nothing, rfl⟩,
      ⟨_, _, _, nothing, spells_print v readableV, space, rfl⟩, ?_⟩
    simp
  have later : SpellsMember second (Spells w)
      ('\n' :: spelled ++ ' ' :: ':' :: ' ' :: w.print) := by
    refine ⟨_, _, ⟨_, _, _, newline, spells, space, rfl⟩,
      ⟨_, _, _, space, spells_print w readableW, nothing, rfl⟩, ?_⟩
    simp
  refine .bare ?_
  rw [Spells, spacedText, String.toList_ofList]
  refine ⟨_, ⟨_, _, earlier, later, rfl⟩, ?_⟩
  simp

/-- The members of an object of two may change places. -/
theorem reorders_swapped {first second : String} {v w v' w' : Json} (sameV : v.Reorders v')
    (sameW : w.Reorders w') :
    (Json.object [(second, w), (first, v)]).Reorders (.object [(first, v'), (second, w')]) := by
  rw [Reorders]
  exact ⟨_, _, ⟨w', _, sameW, ⟨v', _, sameV, rfl, rfl⟩, rfl⟩, .swap _ _ _, rfl⟩

/-- The name of a member in which a letter is written by its number. -/
theorem spellsString_name : SpellsString "name" "\"n\\u0061me\"".toList := by
  have first : SpellsText ['n'] ['n'] := .plain (by simp)
  have second : SpellsChar 'a' "\\u0061".toList := .unit (n := 0x61) rfl rfl rfl
  have last : SpellsText ['m', 'e'] ['m', 'e'] := .plain (by simp)
  exact ⟨_, first.append (.cons second last), rfl⟩

end Json

/-- A table with one column. -/
def keyedUsers : Table :=
  { Table.ofName "users" with
    columns := .ofList [("id", { Column.ofType "id" "int" with position := -1 })] }

/-- A schema with nothing but this table. -/
def Schema.withKeyedUsers : Schema :=
  (Schema.ofName "pub\tlic").exposeTable "users" keyedUsers

/-- A text of this schema: the members come in another order, also those of the table. -/
def shuffledSnapshot : String :=
  spacedText "tables" (.object [("users", keyedUsers.toJson.reversed)]) "\"n\\u0061me\"".toList
    (.string "pub\tlic")

theorem saidBy_shuffledSnapshot : Schema.withKeyedUsers.toJson.SaidBy shuffledSnapshot := by
  have written : Schema.withKeyedUsers.toJson = .object [("name", .string "pub\tlic"),
      ("tables", .object [("users", keyedUsers.toJson)])] := rfl
  have tables : (Json.object [("users", keyedUsers.toJson)]).Reorders
      (.object [("users", keyedUsers.toJson.reversed)]) :=
    reorders_single.mpr ⟨_, reorders_reversed _, rfl⟩
  have readable : (Json.object [("users", keyedUsers.toJson.reversed)]).Readable := by
    simpa using readable_reversed keyedUsers.readable_toJson
  rw [written]
  exact ⟨_, reorders_swapped tables (reorders_refl _),
    surrounded_spacedText spellsString_name readable (readable_string _)⟩

/-- The schema is read from this text, and what is read of a text that leaves out most of it stays
as it is. -/
theorem text_round_trip_of_shuffled :
    Schema.withKeyedUsers.toJson.SaidBy shuffledSnapshot ∧
      Schema.parse? shuffledSnapshot = some .withKeyedUsers ∧
      Schema.parse? (Schema.ofName "public").toJson.render =
        Schema.parse? "\x7b\"name\": \"public\"\x7d" := by
  have read : Schema.parse? "\x7b\"name\": \"public\"\x7d" = some (.ofName "public") := by
    decide +kernel
  refine ⟨saidBy_shuffledSnapshot, ?_, ?_⟩
  · exact (Schema.text_round_trip .withKeyedUsers).1.2 _ saidBy_shuffledSnapshot
  · exact (Schema.text_round_trip (.ofName "public")).2 _ read

end ExpandContract
