import ExpandContract.Proofs.Ledger.Filling
import ExpandContract.Proofs.Sql.Cutting

/-!
# Triggers that capture changes

The changes that other programs make are recorded in a ledger by two event triggers of its state
schema. Event triggers belong to the whole database. Their names carry the name of the state schema,
cut to what the server keeps: the name of a trigger is the longest beginning of the full name that
is short enough (`captureTriggerName_is_longest`), and so the one under which the server stores it.

The script of a state schema makes a trigger unless there is one of that name. So each of several
state schemas in a database has its own triggers just if the beginnings of their names that are kept
differ (`ledgers_apart_iff`). This is not so for all names of state schemas that the server keeps
whole (`capture_shared_of_long_names`).
-/

set_option autoImplicit false

namespace ExpandContract.Ledger

open Sql

/-! ## The names of triggers -/

variable {event another stateSchema other : String}

/-- The name of a trigger is the one under which the server stores it. -/
theorem captureTriggerName_eq_storedName (event stateSchema : String) :
    captureTriggerName event stateSchema = storedName (fullTriggerName event stateSchema) :=
  cutName_eq_storedName _

/-- The name of a trigger is the longest beginning of its full name that ends between two characters
and has no more bytes than the server keeps, and it is the full name if that is short enough.
Otherwise the search for its end goes back three bytes at most, past places inside of a character,
to a place in the full name between two characters. -/
theorem captureTriggerName_is_longest (event stateSchema : String) :
    LongestBeginning maxIdentifierBytes (fullTriggerName event stateSchema)
      (captureTriggerName event stateSchema) ∧
    ((fullTriggerName event stateSchema).utf8ByteSize ≤ maxIdentifierBytes →
      captureTriggerName event stateSchema = fullTriggerName event stateSchema) ∧
    (maxIdentifierBytes < (fullTriggerName event stateSchema).utf8ByteSize →
      ∃ steps ≤ 3,
        (lastBoundary (fullTriggerName event stateSchema) maxIdentifierBytes).offset.byteIdx =
          maxIdentifierBytes - steps ∧
        (∀ earlier < steps, ¬String.Pos.Raw.IsValid (fullTriggerName event stateSchema)
          ⟨maxIdentifierBytes - earlier⟩) ∧
        String.Pos.Raw.IsValid (fullTriggerName event stateSchema) ⟨maxIdentifierBytes - steps⟩ ∧
        (captureTriggerName event stateSchema).utf8ByteSize = maxIdentifierBytes - steps) := by
  refine ⟨longestBeginning_cutName _, fun short => if_neg (Nat.not_lt.mpr short), fun long => ?_⟩
  obtain ⟨steps, few, -, ends, passed, between⟩ := lastBoundary_steps long
  have cut : captureTriggerName event stateSchema =
      ((fullTriggerName event stateSchema).sliceTo
        (lastBoundary (fullTriggerName event stateSchema) maxIdentifierBytes)).copy := if_pos long
  refine ⟨steps, few, ends, passed, between, ?_⟩
  rw [cut, utf8ByteSize_copy_sliceTo, ends]

/-- A name of forty letters with accents, which have two bytes each. -/
def accented : String :=
  String.ofList (List.replicate 40 'é')

/-- A short name is kept whole, and a long one is cut in front of a letter that would not fit. -/
theorem captureTriggerName_is_longest_accented :
    (fullTriggerName "ddl" "pgshift").utf8ByteSize ≤ maxIdentifierBytes ∧
    captureTriggerName "ddl" "pgshift" = fullTriggerName "ddl" "pgshift" ∧
    maxIdentifierBytes < (fullTriggerName "drop" accented).utf8ByteSize ∧
    ∃ steps ≤ 3,
      (∀ earlier < steps, ¬String.Pos.Raw.IsValid (fullTriggerName "drop" accented)
        ⟨maxIdentifierBytes - earlier⟩) ∧
      (captureTriggerName "drop" accented).utf8ByteSize = maxIdentifierBytes - steps := by
  have short : (fullTriggerName "ddl" "pgshift").utf8ByteSize ≤ maxIdentifierBytes := by
    decide +kernel
  have long : maxIdentifierBytes < (fullTriggerName "drop" accented).utf8ByteSize := by
    decide +kernel
  obtain ⟨_, whole, _⟩ := captureTriggerName_is_longest "ddl" "pgshift"
  obtain ⟨_, _, cut⟩ := captureTriggerName_is_longest "drop" accented
  obtain ⟨steps, few, _, passed, _, size⟩ := cut long
  exact ⟨short, whole short, long, steps, few, passed, size⟩

/-! ## What is kept of a state schema -/

/-- The events for which the script makes triggers. -/
def captureEvents : List String := ["ddl", "drop"]

theorem mem_captureEvents : event ∈ captureEvents ↔ event = "ddl" ∨ event = "drop" := by
  simp [captureEvents]

/-- What stands in the name of a trigger before the name of the state schema. -/
def triggerPrefix (event : String) : String :=
  "pgshift_handle_" ++ event ++ "_"

/-- As much of the name of a state schema as the name of a trigger has room for. -/
def keptSchema (event stateSchema : String) : List Char :=
  takeBytes (maxIdentifierBytes - (triggerPrefix event).utf8ByteSize) stateSchema.toList

theorem utf8ByteSize_triggerPrefix :
    (triggerPrefix "ddl").utf8ByteSize = 19 ∧ (triggerPrefix "drop").utf8ByteSize = 20 := by
  decide +kernel

theorem captureTriggerName_eq (member : event ∈ captureEvents) (stateSchema : String) :
    captureTriggerName event stateSchema =
      triggerPrefix event ++ String.ofList (keptSchema event stateSchema) := by
  have fits : (triggerPrefix event).utf8ByteSize ≤ maxIdentifierBytes := by
    obtain ⟨ddl, drop⟩ := utf8ByteSize_triggerPrefix
    rcases mem_captureEvents.mp member with rfl | rfl
    · rw [ddl]
      decide
    · rw [drop]
      decide
  rw [captureTriggerName_eq_storedName]
  exact storedName_append stateSchema fits

/-- A state schema that is short enough is kept whole. -/
theorem keptSchema_of_short (short : stateSchema.utf8ByteSize ≤ 43) :
    keptSchema "drop" stateSchema = stateSchema.toList := by
  have room : maxIdentifierBytes - (triggerPrefix "drop").utf8ByteSize = 43 := by
    rw [utf8ByteSize_triggerPrefix.2]
    rfl
  rw [keptSchema, room, takeBytes_eq_self (by rwa [String.ofList_toList])]

/-- For neither event less of a state schema is kept than for `drop`. -/
theorem keptSchema_drop_of_eq (member : event ∈ captureEvents)
    (same : keptSchema event stateSchema = keptSchema event other) :
    keptSchema "drop" stateSchema = keptSchema "drop" other := by
  obtain ⟨ddl, drop⟩ := utf8ByteSize_triggerPrefix
  rcases mem_captureEvents.mp member with rfl | rfl
  · have less : maxIdentifierBytes - (triggerPrefix "drop").utf8ByteSize ≤
        maxIdentifierBytes - (triggerPrefix "ddl").utf8ByteSize := by omega
    have cut := congrArg (takeBytes (maxIdentifierBytes - (triggerPrefix "drop").utf8ByteSize)) same
    rwa [keptSchema, keptSchema, takeBytes_takeBytes less, takeBytes_takeBytes less] at cut
  · exact same

/-- Names of triggers for the two events differ in the second letter of the event. -/
theorem triggerPrefix_append_ne (kept keptToo : String) :
    triggerPrefix "ddl" ++ kept ≠ triggerPrefix "drop" ++ keptToo := by
  intro same
  change "pgshift_handle_" ++ "ddl" ++ "_" ++ kept = "pgshift_handle_" ++ "drop" ++ "_" ++ keptToo
    at same
  rw [String.append_assoc, String.append_assoc, String.append_assoc, String.append_assoc,
    String.append_right_inj] at same
  have second := congrArg (fun text => text.toList[1]?) same
  simp at second

/-- The names of two triggers are the same just if they are for the same event and what is kept of
the state schemas is the same. -/
theorem captureTriggerName_eq_iff (member : event ∈ captureEvents)
    (memberToo : another ∈ captureEvents) :
    captureTriggerName event stateSchema = captureTriggerName another other ↔
      event = another ∧ keptSchema event stateSchema = keptSchema another other := by
  rw [captureTriggerName_eq member, captureTriggerName_eq memberToo]
  constructor
  · intro same
    have alike : event = another := by
      rcases mem_captureEvents.mp member with rfl | rfl <;>
        rcases mem_captureEvents.mp memberToo with rfl | rfl
      · rfl
      · exact absurd same (triggerPrefix_append_ne _ _)
      · exact absurd same.symm (triggerPrefix_append_ne _ _)
      · rfl
    subst alike
    exact ⟨rfl, String.ofList_injective ((String.append_right_inj _).mp same)⟩
  · rintro ⟨rfl, same⟩
    rw [same]

/-- The server stores a trigger under the name that the script looks for. -/
theorem storedName_captureTriggerName (event stateSchema : String) :
    storedName (captureTriggerName event stateSchema) = captureTriggerName event stateSchema := by
  have fits := (longestBeginning_cutName (fullTriggerName event stateSchema)).fits
  rw [storedName, takeBytes_eq_self (by rwa [String.ofList_toList]), String.ofList_toList]

/-! ## Databases with several state schemas -/

/-- The event triggers of a database: under each stored name the event, and the state schema of the
function that is executed. -/
structure CaptureTriggers where
  madeFor? : String → Option (String × String)

namespace CaptureTriggers

variable {triggers : CaptureTriggers} {pair : String × String} {pairs : List (String × String)}
  {name : String}

/-- A database without event triggers. -/
def empty : CaptureTriggers := ⟨fun _ => none⟩

/-- What a block of the script does: it makes the trigger for an event and a state schema, unless it
finds a trigger of that name. -/
def runBlock (triggers : CaptureTriggers) (pair : String × String) : CaptureTriggers :=
  if (triggers.madeFor? (captureTriggerName pair.1 pair.2)).isSome then triggers
  else
    ⟨fun name =>
      if name = storedName (captureTriggerName pair.1 pair.2) then some pair
      else triggers.madeFor? name⟩

/-- The triggers after blocks, run one after the other. -/
def runBlocks (triggers : CaptureTriggers) (pairs : List (String × String)) : CaptureTriggers :=
  pairs.foldl runBlock triggers

/-- The event is captured into the ledger of the state schema. -/
def Captures (triggers : CaptureTriggers) (event stateSchema : String) : Prop :=
  ∃ name, triggers.madeFor? name = some (event, stateSchema)

/-- A block keeps the triggers that are there, and the one that it makes has its own name. -/
theorem madeFor?_runBlock (triggers : CaptureTriggers) (pair : String × String) (name : String) :
    (triggers.runBlock pair).madeFor? name =
      (triggers.madeFor? name).or
        (if captureTriggerName pair.1 pair.2 = name then some pair else none) := by
  unfold runBlock
  rw [storedName_captureTriggerName]
  by_cases own : captureTriggerName pair.1 pair.2 = name
  · subst own
    cases found : triggers.madeFor? (captureTriggerName pair.1 pair.2) <;> simp [found]
  · split <;> simp_all [Ne.symm own]

/-- Under a name there is what was there, or else what the first block with this name has made. -/
theorem madeFor?_runBlocks (triggers : CaptureTriggers) (pairs : List (String × String))
    (name : String) :
    (triggers.runBlocks pairs).madeFor? name =
      (triggers.madeFor? name).or
        (pairs.find? fun pair => captureTriggerName pair.1 pair.2 = name) := by
  induction pairs generalizing triggers with
  | nil => simp [runBlocks]
  | cons pair others ih =>
      refine (ih (triggers.runBlock pair)).trans ?_
      rw [madeFor?_runBlock, Option.or_assoc]
      by_cases own : captureTriggerName pair.1 pair.2 = name <;> simp [own]

/-- A block in an empty database makes its trigger just if it is the first with its name. -/
theorem captures_runBlocks_iff (pairs : List (String × String)) (pair : String × String) :
    (empty.runBlocks pairs).Captures pair.1 pair.2 ↔
      (pairs.find? fun other =>
        captureTriggerName other.1 other.2 = captureTriggerName pair.1 pair.2) = some pair := by
  constructor
  · rintro ⟨name, made⟩
    rw [madeFor?_runBlocks] at made
    have own : captureTriggerName pair.1 pair.2 = name := by simpa using List.find?_some made
    rwa [← own] at made
  · intro first
    exact ⟨captureTriggerName pair.1 pair.2, (madeFor?_runBlocks empty pairs _).trans first⟩

end CaptureTriggers

/-- The blocks of the script of a state schema. -/
def scriptBlocks (stateSchema : String) : List (String × String) :=
  captureEvents.map fun event => (event, stateSchema)

/-- The event triggers of a database in which scripts have been run one after the other. -/
def afterScripts (schemas : List String) : CaptureTriggers :=
  CaptureTriggers.empty.runBlocks (schemas.flatMap scriptBlocks)

/-- Of the blocks of a script only the one for the same event can have the name of a trigger. -/
theorem find?_scriptBlocks (member : event ∈ captureEvents) (stateSchema other : String) :
    ((scriptBlocks other).find? fun pair =>
        captureTriggerName pair.1 pair.2 = captureTriggerName event stateSchema) =
      (Option.guard (fun other => keptSchema event other = keptSchema event stateSchema) other).map
        (Prod.mk event) := by
  have ddl : "ddl" ∈ captureEvents := by decide
  have drop : "drop" ∈ captureEvents := by decide
  have blocks : scriptBlocks other = [("ddl", other), ("drop", other)] := rfl
  simp only [blocks, List.find?_cons, List.find?_nil, captureTriggerName_eq_iff ddl member,
    captureTriggerName_eq_iff drop member, Option.guard]
  rcases mem_captureEvents.mp member with rfl | rfl
  · by_cases same : keptSchema "ddl" other = keptSchema "ddl" stateSchema <;> simp [same]
  · by_cases same : keptSchema "drop" other = keptSchema "drop" stateSchema <;> simp [same]

variable {schemas : List String}

/-- An event is captured into the ledger of a state schema just if its script is run before the
script of every other state schema with the same beginning. -/
theorem captures_afterScripts_iff (member : event ∈ captureEvents) :
    (afterScripts schemas).Captures event stateSchema ↔
      (schemas.find? fun other => keptSchema event other = keptSchema event stateSchema) =
        some stateSchema := by
  have first : ((schemas.flatMap scriptBlocks).find? fun pair =>
      captureTriggerName pair.1 pair.2 = captureTriggerName event stateSchema) =
      (schemas.find? fun other => keptSchema event other = keptSchema event stateSchema).map
        (Prod.mk event) := by
    rw [List.find?_flatMap, funext (find?_scriptBlocks member stateSchema), ← List.findSome?_guard,
      List.map_findSome?]
    rfl
  refine (CaptureTriggers.captures_runBlocks_iff _ (event, stateSchema)).trans ?_
  rw [first]
  simp

/-- Each of several state schemas captures both events into its own ledger just if what is kept of
their names differs. -/
theorem all_captured_iff (schemas : List String) :
    (∀ stateSchema ∈ schemas, ∀ event ∈ captureEvents,
      (afterScripts schemas).Captures event stateSchema) ↔
    ∀ stateSchema ∈ schemas, ∀ other ∈ schemas, stateSchema ≠ other →
      keptSchema "drop" stateSchema ≠ keptSchema "drop" other := by
  have drop : "drop" ∈ captureEvents := by decide
  constructor
  · intro all stateSchema among other amongToo different same
    have found := (captures_afterScripts_iff drop).mp (all stateSchema among "drop" drop)
    rw [same, (captures_afterScripts_iff drop).mp (all other amongToo "drop" drop)] at found
    exact different (Option.some.inj found).symm
  · intro apart stateSchema among event member
    rw [captures_afterScripts_iff member]
    cases first : schemas.find? fun other =>
        keptSchema event other = keptSchema event stateSchema with
    | none => exact absurd (List.find?_eq_none.mp first stateSchema among) (by simp)
    | some other =>
        have same : keptSchema event other = keptSchema event stateSchema := by
          simpa using List.find?_some first
        refine congrArg some (Classical.byContradiction fun different => ?_)
        exact apart other (List.mem_of_find?_eq_some first) stateSchema among different
          (keptSchema_drop_of_eq member same)

/-- All triggers of two state schemas have different names just if what is kept of them differs. -/
theorem captureTriggerNames_ne_iff :
    (∀ event ∈ captureEvents, ∀ another ∈ captureEvents,
      captureTriggerName event stateSchema ≠ captureTriggerName another other) ↔
    keptSchema "drop" stateSchema ≠ keptSchema "drop" other := by
  constructor
  · intro apart same
    have drop : "drop" ∈ captureEvents := by decide
    exact apart "drop" drop "drop" drop ((captureTriggerName_eq_iff drop drop).mpr ⟨rfl, same⟩)
  · intro apart event member another memberToo named
    obtain ⟨rfl, same⟩ := (captureTriggerName_eq_iff member memberToo).mp named
    exact apart (keptSchema_drop_of_eq member same)

/-! ## The text of the script -/

/-- A block of the script: it looks for a trigger by a literal, and makes it under a name if there
is none. -/
def captureBlock (occasion : String) (literal name stateSchema : Piece) : List Piece :=
  [.text "    IF NOT EXISTS (SELECT 1 FROM pg_catalog.pg_event_trigger WHERE evtname = ", literal,
    .text ") THEN\n        CREATE EVENT TRIGGER ", name,
    .text (" ON " ++ occasion ++ "\n            EXECUTE FUNCTION "), stateSchema,
    .text ".raw_migration();\n    END IF;"]

/-- The end of the script, which has a block for each of the two events. -/
def scriptEnd (ddl drop : List Piece) : List Piece :=
  ddl ++ .text "\n\n" :: drop ++ [.text "\nEND\n$$;\n"]

/-- The end of the template. -/
def templateEnd : List Piece :=
  scriptEnd
    (captureBlock "ddl_command_end" (.place "ddl_trigger_literal") (.place "ddl_trigger")
      (.place "state_schema"))
    (captureBlock "sql_drop" (.place "drop_trigger_literal") (.place "drop_trigger")
      (.place "state_schema"))

/-- The block for an event in the script of a state schema: it looks for the trigger by its name,
and makes it under this name if there is none. -/
def filledBlock (occasion event stateSchema : String) : List Piece :=
  captureBlock occasion (.text (quotedText (captureTriggerName event stateSchema)))
    (.text (quotedName (captureTriggerName event stateSchema))) (.text (quotedName stateSchema))

/-- The end of the script of a state schema. -/
def filledEnd (stateSchema : String) : List Piece :=
  scriptEnd (filledBlock "ddl_command_end" "ddl" stateSchema)
    (filledBlock "sql_drop" "drop" stateSchema)

theorem template_ends :
    ∃ before,
      joined "\n" scriptTemplate = before ++ "\n" ++ String.ofList (render templateEnd) := by
  have lines : joined "\n" (scriptTemplate.drop 304) = String.ofList (render templateEnd) := by
    rw [render_eq, String.ofList_toList]
    decide +kernel
  have size : scriptTemplate.length = 316 := by decide +kernel
  refine ⟨joined "\n" (scriptTemplate.take 304), ?_⟩
  rw [← lines, joined, joined, joined, ← String.intercalate_append_of_ne_nil, List.take_append_drop]
  · refine List.ne_nil_of_length_pos ?_
    rw [List.length_take, size]
    decide
  · refine List.ne_nil_of_length_pos ?_
    rw [List.length_drop, size]
    decide

theorem clean_templateEnd : ∀ piece ∈ templateEnd, piece.Clean := by
  have free : ∀ piece ∈ templateEnd, piece.free := by decide +kernel
  exact fun piece member => Piece.clean_of_free (free piece member)

/-- Filled piece by piece, the end of the template is the end of the script. -/
theorem map_fill_templateEnd (stateSchema : String) :
    (templateEnd.map fun piece =>
      (scriptFillings stateSchema).foldl (fun piece filling => piece.fill filling) piece) =
    filledEnd stateSchema := by
  simp only [templateEnd, filledEnd, filledBlock, scriptEnd, captureBlock, List.map_cons,
    List.map_append, List.map_nil]
  simp [scriptFillings, Piece.fill]

theorem namesPlace_of_mem_scriptFillings {filling : String × String}
    (member : filling ∈ scriptFillings stateSchema) : NamesPlace filling.1 := by
  have names : ∀ name ∈ (scriptFillings stateSchema).map Prod.fst, NamesPlace name := by
    change ∀ name ∈ ["ddl_trigger_literal", "ddl_trigger", "drop_trigger_literal", "drop_trigger",
      "state_schema_literal", "state_schema"], NamesPlace name
    decide +kernel
  exact names filling.1 (List.mem_map_of_mem member)

/-- Doubled quotes change nothing about what a text begins with. -/
theorem head?_doubled (quote : Char) (chars : List Char) :
    (doubled quote chars).head? = chars.head? := by
  cases chars with
  | nil => rfl
  | cons c rest => by_cases same : c = quote <;> simp [doubled, same]

theorem braceless_doubled {quote : Char} {chars : List Char} (other : quote ≠ '\x7b')
    (braceless : Braceless chars) : Braceless (doubled quote chars) := by
  induction chars with
  | nil => exact List.isChain_nil
  | cons c rest ih =>
      obtain ⟨first, later⟩ := List.isChain_cons.mp braceless
      by_cases same : c = quote
      · rw [doubled, if_pos same]
        exact List.isChain_cons.mpr ⟨fun _ _ brace => absurd brace other,
          List.isChain_cons.mpr ⟨fun _ _ brace => absurd brace other, ih later⟩⟩
      · rw [doubled, if_neg same]
        exact List.isChain_cons.mpr ⟨by rwa [head?_doubled], ih later⟩

theorem plain_quoted {quote : Char} {text : String} (other : quote ≠ '\x7b')
    (braceless : Braceless text.toList) : Plain (quoted quote text).toList := by
  have inside : Braceless (doubled quote text.toList ++ [quote]) :=
    List.isChain_append.mpr ⟨braceless_doubled other braceless, List.isChain_singleton _,
      fun _ _ _ first _ brace => other (by simp_all)⟩
  refine ⟨?_, ?_⟩
  · rw [toList_quoted]
    exact List.isChain_cons.mpr ⟨fun _ _ brace => absurd brace other, inside⟩
  · rw [toList_quoted, List.getLast?_concat]
    exact fun last => other (Option.some.inj last)

/-- The name of a trigger has two opening braces in a row only if the state schema has. -/
theorem braceless_captureTriggerName (member : event ∈ captureEvents)
    (braceless : Braceless stateSchema.toList) :
    Braceless (captureTriggerName event stateSchema).toList := by
  have plain : ∀ event ∈ captureEvents, '\x7b' ∉ (triggerPrefix event).toList := by decide +kernel
  have full : Braceless (fullTriggerName event stateSchema).toList := by
    have parts := (plain_of_notMem (plain event member)).append braceless
    rwa [← String.toList_append] at parts
  obtain ⟨rest, split⟩ := (longestBeginning_cutName (fullTriggerName event stateSchema)).beginning
  refine List.IsChain.prefix full ⟨rest.toList, ?_⟩
  rw [split, String.toList_append]
  rfl

/-- What is filled in is plain if the state schema has nowhere two opening braces in a row. -/
theorem plain_of_mem_scriptFillings (braceless : Braceless stateSchema.toList)
    {filling : String × String} (member : filling ∈ scriptFillings stateSchema) :
    Plain filling.2.toList := by
  have names : ∀ event ∈ captureEvents, Braceless (captureTriggerName event stateSchema).toList :=
    fun event member => braceless_captureTriggerName member braceless
  have ddl := names "ddl" (by decide)
  have drop := names "drop" (by decide)
  have single : '\'' ≠ '\x7b' := by decide
  have double : '"' ≠ '\x7b' := by decide
  simp only [scriptFillings, List.mem_cons, List.not_mem_nil, or_false] at member
  rcases member with rfl | rfl | rfl | rfl | rfl | rfl
  · exact plain_quoted single ddl
  · exact plain_quoted double ddl
  · exact plain_quoted single drop
  · exact plain_quoted double drop
  · exact plain_quoted single braceless
  · exact plain_quoted double braceless

/-- The script ends with its two blocks if the state schema has no two opening braces in a row. -/
theorem creationScript_ends (braceless : Braceless stateSchema.toList) :
    ∃ before, creationScript stateSchema =
      before ++ "\n" ++ String.join ((filledEnd stateSchema).map Piece.shown) := by
  have names : ∀ filling ∈ scriptFillings stateSchema, NamesPlace filling.1 :=
    fun _ member => namesPlace_of_mem_scriptFillings member
  have plain : ∀ filling ∈ scriptFillings stateSchema, Plain filling.2.toList :=
    fun _ member => plain_of_mem_scriptFillings braceless member
  obtain ⟨before, ends⟩ := template_ends
  have filled : (scriptFillings stateSchema).foldl fillPlaces (joined "\n" scriptTemplate).toList =
      (scriptFillings stateSchema).foldl fillPlaces before.toList ++
        '\n' :: render (filledEnd stateSchema) := by
    rw [ends, String.append_assoc, String.toList_append, String.toList_append, String.toList_ofList,
      String.toList_ofList, List.singleton_append, foldl_fillPlaces_line names,
      foldl_fillPlaces_render names plain clean_templateEnd, map_fill_templateEnd]
  refine ⟨String.ofList ((scriptFillings stateSchema).foldl fillPlaces before.toList), ?_⟩
  rw [creationScript, filled, render_eq]
  apply String.toList_injective
  simp

/-! ## Ledgers of their own -/

/-- The triggers of two state schemas have different names just if the beginnings that are kept of
them for `drop` differ. Several state schemas in one database capture both events into their own
ledgers just if all these beginnings differ, as they do for names of up to 43 bytes, which are kept
whole. The script of a state schema looks for and makes its triggers under these names. -/
theorem ledgers_apart_iff (stateSchema other : String) (schemas : List String) :
    ((∀ event ∈ captureEvents, ∀ another ∈ captureEvents,
      captureTriggerName event stateSchema ≠ captureTriggerName another other) ↔
      keptSchema "drop" stateSchema ≠ keptSchema "drop" other) ∧
    ((∀ among ∈ schemas, ∀ event ∈ captureEvents, (afterScripts schemas).Captures event among) ↔
      ∀ first ∈ schemas, ∀ second ∈ schemas, first ≠ second →
        keptSchema "drop" first ≠ keptSchema "drop" second) ∧
    (stateSchema.utf8ByteSize ≤ 43 → keptSchema "drop" stateSchema = stateSchema.toList) ∧
    (Braceless stateSchema.toList →
      ∃ before, creationScript stateSchema =
        before ++ "\n" ++ String.join ((filledEnd stateSchema).map Piece.shown)) :=
  ⟨captureTriggerNames_ne_iff, all_captured_iff schemas, keptSchema_of_short, creationScript_ends⟩

/-- Two state schemas of which one begins with the other capture into their own ledgers. -/
theorem ledgers_apart_of_short_names :
    (∀ event ∈ captureEvents, ∀ another ∈ captureEvents,
      captureTriggerName event "pgshift_other" ≠ captureTriggerName another "pgshift") ∧
    (∀ among ∈ ["pgshift", "pgshift_other"], ∀ event ∈ captureEvents,
      (afterScripts ["pgshift", "pgshift_other"]).Captures event among) ∧
    ∃ before, creationScript "pgshift_other" =
      before ++ "\n" ++ String.join ((filledEnd "pgshift_other").map Piece.shown) := by
  obtain ⟨named, captured, whole, ends⟩ :=
    ledgers_apart_iff "pgshift_other" "pgshift" ["pgshift", "pgshift_other"]
  have wholeToo : keptSchema "drop" "pgshift" = "pgshift".toList :=
    (ledgers_apart_iff "pgshift" "pgshift_other" []).2.2.1 (by decide +kernel)
  have kept : ∀ among ∈ ["pgshift", "pgshift_other"], keptSchema "drop" among = among.toList := by
    simpa using ⟨wholeToo, whole (by decide +kernel)⟩
  have braceless : Braceless "pgshift_other".toList :=
    (plain_of_notMem (by decide +kernel)).braceless
  refine ⟨named.mpr ?_, captured.mpr ?_, ends braceless⟩
  · rw [kept _ (by decide), kept _ (by decide)]
    decide +kernel
  · intro first among second amongToo different same
    rw [kept first among, kept second amongToo] at same
    exact different (String.toList_injective same)

/-- A state schema for a region, whose name is kept whole but is too long for its triggers. -/
def regionalSchema (region : String) : String :=
  "pgshift_state_of_the_customer_accounts_service_" ++ region

/-- Two state schemas have the same triggers, and the second one captures nothing. -/
theorem capture_shared_of_long_names :
    (regionalSchema "eu").utf8ByteSize ≤ maxIdentifierBytes ∧
    (regionalSchema "us").utf8ByteSize ≤ maxIdentifierBytes ∧
    regionalSchema "eu" ≠ regionalSchema "us" ∧
    (∀ event ∈ captureEvents,
      captureTriggerName event (regionalSchema "eu") =
        captureTriggerName event (regionalSchema "us")) ∧
    ∀ event ∈ captureEvents,
      ¬(afterScripts [regionalSchema "eu", regionalSchema "us"]).Captures event
        (regionalSchema "us") := by
  have different : regionalSchema "eu" ≠ regionalSchema "us" := by decide +kernel
  have kept : ∀ event ∈ captureEvents,
      keptSchema event (regionalSchema "eu") = keptSchema event (regionalSchema "us") := by
    decide +kernel
  refine ⟨by decide +kernel, by decide +kernel, different, fun event member => ?_,
    fun event member captured => ?_⟩
  · exact (captureTriggerName_eq_iff member member).mpr ⟨rfl, kept event member⟩
  · have first := (captures_afterScripts_iff member).mp captured
    rw [List.find?_cons_of_pos (by simpa using kept event member)] at first
    exact different (Option.some.inj first)

end ExpandContract.Ledger
