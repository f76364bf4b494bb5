import ExpandContract.Proofs.Sql.Splitting
import ExpandContract.Sql.Change
import Mathlib.Data.List.Forall2

/-!
# Statements that are read back

A script is read as a list of statements: it is split into tokens, blanks are left out, and the
semicolons say where one statement ends and the next one begins. A name in quotes is one token,
whatever it holds, so that no name can be taken for something else.

A text has a fixed reading if it reads as the same tokens whatever follows it, as long as that does
not go on with its last word or name (`Spells`). Such readings are put together as the texts are.

The statements of a version schema are read back as they were meant
(`VersionSchema.statements_text`), and their names are those of the version schema
(`VersionSchema.names_viewTokens`). So the text of a version schema says which version schema it
is (`VersionSchema.eq_of_text`).
-/

set_option autoImplicit false

namespace ExpandContract.Sql

/-! ## Reading -/

/-- The words, names and signs of a text, without the blanks between them. -/
def lexemes (chars : List Char) : List Token :=
  (tokensFrom .between chars).filter fun token => token ≠ .symbol ' '

/-- The statements of a script. -/
def statements (script : String) : List (List Token) :=
  (lexemes script.toList).splitOn (.symbol ';')

/-- The name that the token holds, if it is one in quotes. -/
def Token.name? : Token → Option String
  | .quoted name => some (String.ofList name)
  | _ => none

/-- The names of a statement, in their order. -/
def names (statement : List Token) : List String :=
  statement.filterMap Token.name?

section Names

variable {statement other : List Token}

@[simp]
theorem names_nil : names [] = [] := rfl

@[simp]
theorem names_quoted (name : List Char) :
    names (.quoted name :: statement) = String.ofList name :: names statement := rfl

@[simp]
theorem names_word (text : List Char) : names (.word text :: statement) = names statement := rfl

@[simp]
theorem names_symbol (c : Char) : names (.symbol c :: statement) = names statement := rfl

@[simp]
theorem names_append : names (statement ++ other) = names statement ++ names other :=
  List.filterMap_append

end Names

/-- What follows goes on neither with a word nor with a name in quotes. -/
def Apart (rest : List Char) : Prop :=
  ∀ c ∈ rest.head?, continuesWord c = false ∧ c ≠ '"'

theorem Apart.nil : Apart [] := nofun

/-- A text that begins apart is apart, whatever it goes on with. -/
theorem Apart.of_text {text : String} {c : Char} {rest : List Char}
    (begins : text.toList.head? = some c) (apart : continuesWord c = false ∧ c ≠ '"') :
    Apart (text.toList ++ rest) := by
  intro d first
  rw [List.head?_append, begins] at first
  cases first
  exact apart

/-- The text reads as these tokens, whatever follows apart from it. -/
def Spells (text : String) (list : List Token) : Prop :=
  ∀ rest, Apart rest → lexemes (text.toList ++ rest) = list ++ lexemes rest

variable {rest : List Char}

theorem lexemes_cons {token : Token} (wellFormed : token.WellFormed)
    (ends : token.EndsBefore rest.head?) (solid : token ≠ .symbol ' ') :
    lexemes (token.text ++ rest) = token :: lexemes rest := by
  rw [lexemes, tokensFrom_text_append wellFormed ends,
    List.filter_cons_of_pos (by simpa using solid)]
  rfl

theorem lexemes_blank (rest : List Char) : lexemes (' ' :: rest) = lexemes rest := rfl

theorem spells_quotedName (name : String) : Spells (quotedName name) [.quoted name.toList] := by
  intro rest apart
  have text : (quotedName name).toList = (Token.quoted name.toList).text := toList_quoted ..
  have wellFormed : (Token.quoted name.toList).WellFormed := trivial
  have ends : (Token.quoted name.toList).EndsBefore rest.head? :=
    fun next => (apart _ next).2 rfl
  rw [text, lexemes_cons wellFormed ends (by simp), List.singleton_append]

theorem spells_qualifiedName (schema name : String) :
    Spells (qualifiedName schema name)
      [.quoted schema.toList, .symbol '.', .quoted name.toList] := by
  intro rest apart
  have point (rest : List Char) : lexemes (".".toList ++ rest) = .symbol '.' :: lexemes rest := rfl
  rw [qualifiedName, String.toList_append, String.toList_append, List.append_assoc,
    List.append_assoc, spells_quotedName schema _ (.of_text rfl (by decide)), point,
    spells_quotedName name rest apart]
  simp only [List.cons_append, List.nil_append]

/-- Texts that are joined by a sign read as what they read as, joined by this sign. -/
theorem Spells.joined {separator : String} {sign : Token} {texts : List String}
    {lists : List (List Token)}
    (apart : ∀ rest, Apart (separator.toList ++ rest))
    (reads : ∀ rest, lexemes (separator.toList ++ rest) = sign :: lexemes rest)
    (each : List.Forall₂ Spells texts lists) :
    Spells (joined separator texts) ([sign].intercalate lists) := by
  induction each with
  | nil => exact fun rest _ => rfl
  | @cons text list texts lists first others ih =>
      cases others with
      | nil =>
          rw [Sql.joined, String.intercalate_singleton, List.intercalate_singleton]
          exact first
      | cons =>
          intro rest follows
          rw [Sql.joined, String.intercalate_cons_cons, List.intercalate_cons_cons,
            String.toList_append, String.toList_append, List.append_assoc, List.append_assoc,
            first _ (apart _), reads, List.append_assoc, List.append_assoc]
          exact congrArg _ (congrArg _ (ih rest follows))

/-! ## The statements of a version schema -/

/-- The tokens of the statement that drops a version schema. -/
def dropTokens (name : String) : List Token :=
  [.word "DROP".toList, .word "SCHEMA".toList, .word "IF".toList, .word "EXISTS".toList,
    .quoted name.toList, .word "CASCADE".toList]

/-- The tokens of the statement that creates it. -/
def createTokens (name : String) : List Token :=
  [.word "CREATE".toList, .word "SCHEMA".toList, .quoted name.toList]

/-- The tokens that show a physical column under an exposed name. -/
def columnTokens (column : String × String) : List Token :=
  [.quoted column.1.toList, .word "AS".toList, .quoted column.2.toList]

/-- The tokens that ask for the rights of the reader. -/
def invokerTokens (securityInvoker : Bool) : List Token :=
  if securityInvoker then
    [.word "WITH".toList, .symbol '(', .word "security_invoker".toList, .symbol '=',
      .word "true".toList, .symbol ')']
  else []

namespace VersionSchema

/-- The tokens of the statement that creates a view: it selects the columns from the table, and
nothing else. -/
def viewTokens (v : VersionSchema) (view : View) : List Token :=
  [.word "CREATE".toList, .word "VIEW".toList, .quoted v.name.toList, .symbol '.',
    .quoted view.name.toList] ++ invokerTokens v.securityInvoker ++
  [.word "AS".toList, .word "SELECT".toList] ++
  [.symbol ','].intercalate (view.columns.map columnTokens) ++
  [.word "FROM".toList, .quoted v.source.toList, .symbol '.', .quoted view.table.toList]

end VersionSchema

theorem spells_dropVersionSchemaText (name : String) :
    Spells (dropVersionSchemaText name) (dropTokens name) := by
  intro rest apart
  have drops (rest : List Char) : lexemes ("DROP SCHEMA IF EXISTS ".toList ++ rest) =
      [.word "DROP".toList, .word "SCHEMA".toList, .word "IF".toList, .word "EXISTS".toList] ++
        lexemes rest := rfl
  have last : " CASCADE".toList ++ rest = ' ' :: ((Token.word "CASCADE".toList).text ++ rest) := rfl
  have letters : "ASCADE".toList.all continuesWord = true := rfl
  have word : (Token.word "CASCADE".toList).WellFormed :=
    ⟨'C', "ASCADE".toList, rfl, rfl, List.all_eq_true.mp letters⟩
  have ends : (Token.word "CASCADE".toList).EndsBefore rest.head? :=
    fun c next => (apart c next).1
  unfold dropVersionSchemaText dropTokens
  simp only [String.toList_append, List.append_assoc]
  rw [drops, spells_quotedName name _ (.of_text rfl (by decide)), last, lexemes_blank,
    lexemes_cons word ends (by simp)]
  simp only [List.cons_append, List.nil_append]

theorem spells_create (name : String) :
    Spells ("CREATE SCHEMA " ++ quotedName name) (createTokens name) := by
  intro rest apart
  have creates (rest : List Char) : lexemes ("CREATE SCHEMA ".toList ++ rest) =
      [.word "CREATE".toList, .word "SCHEMA".toList] ++ lexemes rest := rfl
  rw [String.toList_append, List.append_assoc, creates, spells_quotedName name rest apart]
  simp only [createTokens, List.cons_append, List.nil_append]

theorem spells_column (column : String × String) :
    Spells (quotedName column.1 ++ " AS " ++ quotedName column.2) (columnTokens column) := by
  intro rest apart
  have names (rest : List Char) : lexemes (" AS ".toList ++ rest) =
      [.word "AS".toList] ++ lexemes rest := rfl
  rw [String.toList_append, String.toList_append, List.append_assoc, List.append_assoc,
    spells_quotedName _ _ (.of_text rfl (by decide)), names, spells_quotedName _ rest apart]
  simp only [columnTokens, List.cons_append, List.nil_append]

/-- The columns of a view, joined by commas. -/
theorem spells_columns (columns : List (String × String)) :
    Spells (joined ", " (columns.map fun column =>
        quotedName column.1 ++ " AS " ++ quotedName column.2))
      ([.symbol ','].intercalate (columns.map columnTokens)) := by
  refine .joined (fun rest => .of_text rfl (by decide)) (fun rest => rfl) ?_
  rw [List.forall₂_map_left_iff, List.forall₂_map_right_iff]
  exact List.forall₂_same.mpr fun column _ => spells_column column

theorem spells_viewText (v : VersionSchema) (view : View) :
    Spells (v.viewText view) (v.viewTokens view) := by
  intro rest apart
  have creates (rest : List Char) : lexemes ("CREATE VIEW ".toList ++ rest) =
      [.word "CREATE".toList, .word "VIEW".toList] ++ lexemes rest := rfl
  have option (rest : List Char) :
      lexemes ((if v.securityInvoker then " WITH (security_invoker = true)" else "").toList ++
        (" AS SELECT ".toList ++ rest)) =
      invokerTokens v.securityInvoker ++ [.word "AS".toList, .word "SELECT".toList] ++
        lexemes rest := by
    cases v.securityInvoker <;> rfl
  have separate (rest : List Char) :
      Apart ((if v.securityInvoker then " WITH (security_invoker = true)" else "").toList ++
        (" AS SELECT ".toList ++ rest)) := by
    cases v.securityInvoker with
    | false =>
        change Apart (" AS SELECT ".toList ++ rest)
        exact .of_text rfl (by decide)
    | true =>
        change Apart (" WITH (security_invoker = true)".toList ++ _)
        exact .of_text rfl (by decide)
  have source (rest : List Char) : lexemes (" FROM ".toList ++ rest) =
      [.word "FROM".toList] ++ lexemes rest := rfl
  unfold VersionSchema.viewText VersionSchema.viewTokens
  simp only [String.toList_append, List.append_assoc]
  rw [creates, spells_qualifiedName _ _ _ (separate _), option,
    spells_columns _ _ (.of_text rfl (by decide)), source, spells_qualifiedName _ _ rest apart]
  simp only [List.append_assoc, List.cons_append, List.nil_append]

/-! ## Reading a version schema -/

/-- What stands in joined lists stands in the separator or in one of the lists. -/
theorem mem_intercalate {α : Type} {separator : List α} {lists : List (List α)} {entry : α}
    (member : entry ∈ separator.intercalate lists) :
    entry ∈ separator ∨ ∃ list ∈ lists, entry ∈ list := by
  induction lists with
  | nil => cases member
  | cons list rest ih =>
      cases rest with
      | nil => exact .inr ⟨list, List.mem_cons_self, by simpa using member⟩
      | cons next others =>
          rw [List.intercalate_cons_cons, List.append_assoc] at member
          rcases List.mem_append.mp member with first | member
          · exact .inr ⟨list, List.mem_cons_self, first⟩
          rcases List.mem_append.mp member with sign | later
          · exact .inl sign
          · obtain sign | ⟨found, among, inside⟩ := ih later
            · exact .inl sign
            · exact .inr ⟨found, List.mem_cons_of_mem _ among, inside⟩

/-- A separator without names leaves the names of joined lists as they are. -/
theorem names_intercalate {separator : List Token} (nameless : names separator = [])
    (lists : List (List Token)) : names (separator.intercalate lists) = lists.flatMap names := by
  induction lists with
  | nil => rfl
  | cons list rest ih =>
      cases rest with
      | nil => simp
      | cons next others =>
          rw [List.intercalate_cons_cons, List.flatMap_cons, ← ih]
          rw [names_append, names_append, nameless, List.append_nil]

namespace VersionSchema

variable {v w : VersionSchema} {view other : View}

theorem spells_text (v : VersionSchema) :
    Spells v.text ([.symbol ';'].intercalate
      (dropTokens v.name :: createTokens v.name :: v.views.map v.viewTokens)) := by
  refine .joined (fun rest => .of_text rfl (by decide)) (fun rest => rfl) ?_
  refine .cons (spells_dropVersionSchemaText v.name) (.cons (spells_create v.name) ?_)
  rw [List.forall₂_map_left_iff, List.forall₂_map_right_iff]
  exact List.forall₂_same.mpr fun view _ => spells_viewText v view

/-- No semicolon stands in a view, except inside a name. -/
theorem semicolon_not_mem_viewTokens (v : VersionSchema) (view : View) :
    .symbol ';' ∉ v.viewTokens view := by
  have columns : .symbol ';' ∉ [Token.symbol ','].intercalate (view.columns.map columnTokens) := by
    intro member
    rcases mem_intercalate member with sign | ⟨_, among, inside⟩
    · simp at sign
    · obtain ⟨column, _, rfl⟩ := List.mem_map.mp among
      simp [columnTokens] at inside
  unfold viewTokens
  cases v.securityInvoker <;> simp [invokerTokens, columns]

/-- The text of a version schema consists of these statements, and of nothing else. -/
theorem statements_text (v : VersionSchema) :
    statements v.text =
      dropTokens v.name :: createTokens v.name :: v.views.map v.viewTokens := by
  have read := spells_text v [] .nil
  rw [List.append_nil] at read
  rw [statements, read, show lexemes [] = [] from rfl, List.append_nil]
  refine List.splitOn_intercalate _ (fun list member => ?_) (by simp)
  rcases List.mem_cons.mp member with rfl | member
  · simp [dropTokens]
  rcases List.mem_cons.mp member with rfl | member
  · simp [createTokens]
  · obtain ⟨view, _, rfl⟩ := List.mem_map.mp member
    exact semicolon_not_mem_viewTokens v view

theorem names_dropTokens (name : String) : names (dropTokens name) = [name] := by
  simp [dropTokens]

theorem names_createTokens (name : String) : names (createTokens name) = [name] := by
  simp [createTokens]

/-- The names of a view are those of the version schema and of the view, of the columns, and of the
table. -/
theorem names_viewTokens (v : VersionSchema) (view : View) :
    names (v.viewTokens view) =
      v.name :: view.name :: (view.columns.flatMap fun column => [column.1, column.2]) ++
        [v.source, view.table] := by
  have columns : names ([.symbol ','].intercalate (view.columns.map columnTokens)) =
      view.columns.flatMap fun column => [column.1, column.2] := by
    rw [names_intercalate rfl, List.flatMap_map]
    refine List.flatMap_congr fun column _ => ?_
    simp [columnTokens]
  unfold viewTokens
  cases v.securityInvoker <;> simp [invokerTokens, columns]

/-- The sixth token tells whether the view asks for the rights of the reader. -/
theorem sixth_viewTokens (v : VersionSchema) (view : View) :
    (v.viewTokens view)[5]? =
      some (.word (if v.securityInvoker then "WITH" else "AS").toList) := by
  unfold viewTokens invokerTokens
  cases v.securityInvoker <;> simp

theorem eq_of_flatMap_pairs {first second : List (String × String)}
    (same : (first.flatMap fun column => [column.1, column.2]) =
      second.flatMap fun column => [column.1, column.2]) : first = second := by
  induction first generalizing second with
  | nil =>
      cases second with
      | nil => rfl
      | cons => cases same
  | cons column rest ih =>
      cases second with
      | nil => cases same
      | cons other others =>
          obtain ⟨source, same⟩ := List.cons.inj same
          obtain ⟨exposed, same⟩ := List.cons.inj same
          rw [Prod.ext source exposed, ih same]

/-- A statement says which view it creates, and from what. -/
theorem eq_of_viewTokens (same : v.viewTokens view = w.viewTokens other) :
    view = other ∧ v.source = w.source ∧ v.securityInvoker = w.securityInvoker := by
  have named := congrArg names same
  rw [names_viewTokens, names_viewTokens] at named
  obtain ⟨_, named⟩ := List.cons.inj named
  obtain ⟨exposed, named⟩ := List.cons.inj named
  obtain ⟨columns, tables⟩ := List.append_inj' named rfl
  obtain ⟨source, tables⟩ := List.cons.inj tables
  refine ⟨?_, source, ?_⟩
  · cases view
    cases other
    exact (View.mk.injEq ..).mpr ⟨exposed, (List.cons.inj tables).1, eq_of_flatMap_pairs columns⟩
  · have sixth := congrArg (fun tokens => tokens[5]?) same
    simp only [sixth_viewTokens] at sixth
    revert sixth
    cases v.securityInvoker <;> cases w.securityInvoker <;> simp

/-- The text of a version schema says what its name is and which views it has. If it has any, the
text says all about it. -/
theorem eq_of_text (same : v.text = w.text) :
    v.name = w.name ∧ v.views = w.views ∧ (v.views ≠ [] → v = w) := by
  have read := statements_text v
  rw [same, statements_text w] at read
  obtain ⟨drops, read⟩ := List.cons.inj read
  have named : w.name = v.name := by
    have name := congrArg names drops
    rw [names_dropTokens, names_dropTokens] at name
    exact (List.cons.inj name).1
  have views : v.views.map v.viewTokens = w.views.map w.viewTokens := (List.cons.inj read).2.symm
  have pairs : List.Forall₂ (fun view other => v.viewTokens view = w.viewTokens other)
      v.views w.views := by
    rw [← List.forall₂_map_right_iff, ← List.forall₂_map_left_iff, List.forall₂_eq_eq_eq]
    exact views
  have equal : v.views = w.views := by
    rw [← List.forall₂_eq_eq_eq]
    exact pairs.imp fun view other same => (eq_of_viewTokens same).1
  refine ⟨named.symm, equal, fun some => ?_⟩
  obtain ⟨view, others, split⟩ := List.exists_cons_of_ne_nil some
  rw [← equal, split] at pairs
  obtain ⟨_, source, option⟩ := eq_of_viewTokens (List.forall₂_cons.mp pairs).1
  cases v
  cases w
  exact (VersionSchema.mk.injEq ..).mpr ⟨named.symm, source, equal, option⟩

end VersionSchema

end ExpandContract.Sql
