import ExpandContract.Proofs.Lifecycle.Unfolding

/-!
# Tables that are to be filled

An operation that adds a computed column asks for its table to be filled. The table is given as the
snapshot shows it at that moment, with the new column (`Operation.toFill`). The tables of several
operations are collected one after the other (`Reports`), and so a table stands in the list once for
each of its computed columns.

What a snapshot shows under a name changes with every operation, but only in a few ways
(`Operation.Turns`): the physical name and the key of a table last as long as the table.
-/

set_option autoImplicit false

namespace ExpandContract

open Session Procedure Sql Check

variable {ctx : PhaseContext} {before between after : Schema} {op : Operation} {exposed : String}
  {table shown : Table}

/-! ## A table under a name -/

/-- How an operation turns the table under a name into another one. -/
inductive Operation.Turns : Operation → String → Table → Table → Prop where
  | stays {op : Operation} {exposed : String} {table shown : Table} (name : shown.name = table.name)
      (key : shown.primaryKey = table.primaryKey) (columns : shown.columns = table.columns) :
      Turns op exposed table shown
  | adds {op : AddColumn} {table : Table} (free : table.column? op.column.name = none) :
      Turns (.addColumn op) op.table table (op.extend table)
  | hides {op : DropColumn} {table : Table} {column : Column}
      (there : table.column? op.column = some column) :
      Turns (.dropColumn op) op.table table (table.hideColumn op.column)
  | renames {op : RenameColumn} {table : Table} {column : Column}
      (free : table.column? op.target = none) (there : table.column? op.source = some column) :
      Turns (.renameColumn op) op.table table
        { table with columns := (table.columns.erase op.source).insert op.target column }

namespace Operation

/-- The table that a snapshot shows after an operation has been made by it, or comes from one that
was there before. -/
inductive Produces (before : Schema) : Operation → String → Table → Prop where
  | makes {op : CreateTable} : Produces before (.createTable op) op.name op.snapshot
  | turns {op : Operation} {exposed : String} {table shown : Table}
      (there : before.table? exposed = some table)
      (elsewhere : ∀ created, op = .createTable created → created.name ≠ exposed)
      (turned : op.Turns exposed table shown) : Produces before op exposed shown

/-- A table that an operation writes back is turned into it, and the others stay. -/
theorem produces_of_exposeTable {name : String} {changed : Table}
    (makes : ∀ created, op ≠ .createTable created) (there : before.table? name = some table)
    (turned : op.Turns name table changed)
    (found : (before.exposeTable name changed).table? exposed = some shown) :
    op.Produces before exposed shown := by
  by_cases same : exposed = name
  · subst same
    cases (NameMap.find?_insert_self ..).symm.trans found
    exact .turns there (fun created making => absurd making (makes created)) turned
  · exact .turns ((NameMap.find?_insert_of_ne _ same _).symm.trans found)
      (fun created making => absurd making (makes created)) (.stays rfl rfl rfl)

/-- What a snapshot shows after an operation that has passed its check. -/
theorem produces_of_check (checked : op.check.Passes before () after)
    (found : after.table? exposed = some shown) : op.Produces before exposed shown := by
  cases op with
  | createTable op =>
      obtain ⟨_, _, _, _, _, rfl⟩ := op.passes_check.mp checked
      by_cases same : exposed = op.name
      · subst same
        cases (NameMap.find?_insert_self ..).symm.trans found
        exact .makes
      · refine .turns ((NameMap.find?_insert_of_ne _ same _).symm.trans found) ?_
          (.stays rfl rfl rfl)
        rintro created ⟨⟩
        exact Ne.symm same
  | dropTable op =>
      obtain ⟨_, rfl⟩ := op.passes_check.mp checked
      by_cases same : exposed = op.name
      · subst same
        cases (NameMap.find?_erase_self ..).symm.trans found
      · exact .turns ((NameMap.find?_erase_of_ne _ same).symm.trans found) (by simp)
          (.stays rfl rfl rfl)
  | addColumn op =>
      obtain ⟨_, _, table, there, free, _, _, _, rfl⟩ := op.passes_check.mp checked
      exact produces_of_exposeTable (by simp) there (.adds free) found
  | dropColumn op =>
      obtain ⟨table, there, taken, rfl⟩ := op.passes_check.mp checked
      obtain ⟨column, held⟩ := Option.ne_none_iff_exists'.mp taken
      exact produces_of_exposeTable (by simp) there (.hides held) found
  | renameColumn op =>
      obtain ⟨_, renamed⟩ := op.passes_check.mp checked
      obtain ⟨table, column, there, free, held, rfl⟩ := op.rename_eq_ok.mp renamed
      exact produces_of_exposeTable (by simp) there (.renames free held) found
  | createIndex op =>
      obtain ⟨_, _, _, table, columns, there, _, rfl⟩ := op.passes_check.mp checked
      refine produces_of_exposeTable (by simp) there ?_ found
      exact .stays rfl rfl rfl
  | dropIndex op =>
      obtain ⟨owner, table, there, rfl⟩ := op.remove?_eq_some (op.passes_check.mp checked)
      refine produces_of_exposeTable (by simp) there ?_ found
      exact .stays rfl rfl rfl
  | rawSql op =>
      obtain ⟨_, _, rfl⟩ := op.passes_check.mp checked
      exact .turns found (by simp) (.stays rfl rfl rfl)

theorem Turns.name (turned : op.Turns exposed table shown) : shown.name = table.name := by
  cases turned with
  | stays name key columns => exact name
  | _ => rfl

theorem Turns.primaryKey (turned : op.Turns exposed table shown) :
    shown.primaryKey = table.primaryKey := by
  cases turned with
  | stays name key columns => exact key
  | _ => rfl

/-! ## The table of one operation -/

/-- The table that is to be filled for an operation, if there is one. -/
def toFill (before : Schema) : Operation → Option Table
  | .addColumn op => (before.table? op.table).bind fun table => op.up.map fun _ => op.extend table
  | _ => none

theorem eq_of_toFill (fills : op.toFill before = some shown) :
    ∃ added table, op = .addColumn added ∧ added.up ≠ none ∧
      before.table? added.table = some table ∧
      shown = added.extend table := by
  cases op with
  | addColumn added =>
      obtain ⟨table, found, extended⟩ := Option.bind_eq_some_iff.mp fills
      obtain ⟨up, computed, rfl⟩ := Option.map_eq_some_iff.mp extended
      exact ⟨added, table, rfl, by simp [computed], found, rfl⟩
  | _ => cases fills

/-- An operation that passes its check asks for its table to be filled just if it adds a computed
column, and leaves the snapshot that the check leaves. -/
theorem achieves_toFill (op : Operation) (checked : op.check.Passes before () after) :
    (op.start ctx before).Achieves fun _ started =>
      started.backfill = op.toFill before ∧ started.schema = after := by
  have others (known : op.isRawSql = false) (adds : ∀ added, op ≠ .addColumn added)
      (none : op.toFill before = none) :
      (op.start ctx before).Achieves fun _ started =>
        started.backfill = op.toFill before ∧ started.schema = after := by
    refine (op.achieves_start known checked).mono fun _ started starts => ⟨?_, starts.schema⟩
    rw [none]
    refine Option.eq_none_iff_forall_ne_some.mpr fun table filled => ?_
    obtain ⟨added, same, _⟩ := starts.fills table filled
    exact adds added same
  cases op with
  | addColumn op =>
      obtain ⟨_, _, table, found, _, _, _, _, rfl⟩ := op.passes_check.mp checked
      change (op.start ctx before).Achieves _
      refine .skip fun column => .skip fun checks => .skip fun _ => ?_
      cases computed : op.up with
      | none =>
          simp only [found]
          exact .done ⟨by simp [toFill, found, computed], rfl⟩
      | some up =>
          refine .skip fun sent => .skip fun _ => ?_
          simp only [found]
          exact .done ⟨by simp [toFill, found, computed], rfl⟩
  | rawSql op =>
      obtain ⟨_, _, rfl⟩ := op.passes_check.mp checked
      change (op.start ctx after).Achieves _
      unfold RawSql.start
      cases op.onComplete with
      | true => exact .done ⟨rfl, rfl⟩
      | false => exact .skip fun _ => .done ⟨rfl, rfl⟩
  | _ => exact others rfl (fun _ => by simp) rfl

end Operation

/-! ## The tables of several operations -/

/-- Operations that pass their checks, from one snapshot to another, with the tables that are to be
filled for them. -/
inductive Reports : Schema → List Operation → List Table → Schema → Prop where
  | nil {schema : Schema} : Reports schema [] [] schema
  | cons {before between after : Schema} {op : Operation} {rest : List Operation}
      {tables : List Table} (checked : op.check.Passes before () between)
      (others : Reports between rest tables after) :
      Reports before (op :: rest) ((op.toFill before).toList ++ tables) after

/-- What is reported for an operation in the middle, and what leads there. -/
theorem Reports.split {operations : List Operation} {tables : List Table}
    (reports : Reports before operations tables after) {earlier later : List Operation}
    (operations_eq : operations = earlier ++ op :: later) :
    ∃ early between next late, Reports before earlier early between ∧
      op.check.Passes between () next ∧ Reports next later late after ∧
      tables = early ++ (op.toFill between).toList ++ late := by
  induction earlier generalizing before operations tables with
  | nil =>
      cases operations_eq
      cases reports with
      | cons checked others => exact ⟨[], before, _, _, .nil, checked, others, rfl⟩
  | cons first earlier ih =>
      cases operations_eq
      cases reports with
      | cons checked others =>
          obtain ⟨early, between, next, late, reached, passes, follows, rfl⟩ := ih others rfl
          exact ⟨_, between, next, late, .cons checked reached, passes, follows, by simp⟩

/-- A table that is reported is so for one of the operations. -/
theorem Reports.exists_split {operations : List Operation} {tables : List Table}
    (reports : Reports before operations tables after) (member : table ∈ tables) :
    ∃ earlier op later early between next, operations = earlier ++ op :: later ∧
      Reports before earlier early between ∧ op.check.Passes between () next ∧
      op.toFill between = some table := by
  induction reports with
  | nil => cases member
  | @cons before between after op rest tables checked others ih =>
      rcases List.mem_append.mp member with now | later
      · exact ⟨[], op, rest, [], before, between, rfl, .nil, checked, Option.mem_toList.mp now⟩
      · obtain ⟨earlier, other, late, early, schema, next, rfl, reached, passes, fills⟩ := ih later
        exact
          ⟨op :: earlier, other, late, _, schema, next, rfl, .cons checked reached, passes, fills⟩

namespace MigrationSession

variable {s : MigrationSession} {m : Migration} {operations : List Operation}

/-- The operations of a start report the tables that are to be filled for them. -/
theorem reports_startOperations {alone : Bool}
    (isolated : ∀ op ∈ operations, op.standsAlone = true → operations = [op])
    (checked : (checkOperations alone operations).Passes before () after) :
    (s.startOperations ctx operations before).Achieves fun _ result =>
      Reports before operations result.1 after := by
  induction operations generalizing before with
  | nil =>
      cases passes_checkOperations_nil.mp checked
      exact .done .nil
  | cons op rest ih =>
      obtain ⟨_, between, first, others⟩ := passes_checkOperations_cons.mp checked
      refine .bind (op.achieves_toFill first) ?_
      rintro _ started ⟨fills, left⟩
      rw [fills, left]
      cases stands : op.standsAlone with
      | true =>
          obtain rfl : rest = [] := (List.cons.inj (isolated op List.mem_cons_self stands)).2
          cases passes_checkOperations_nil.mp others
          have last (snapshot : Schema) : ((s.startOperations ctx [] snapshot).bind fun result =>
              .done ((op.toFill before).toList ++ result.1, result.2)).Achieves fun _ result =>
                Reports before [op] result.1 after := .done (.cons first .nil)
          split
          · exact .skip last
          · exact last after
      | false =>
          have alone (other : Operation) (member : other ∈ rest)
              (stands : other.standsAlone = true) :
              rest = [other] := by
            cases (List.cons.inj (isolated other (List.mem_cons_of_mem _ member) stands)).2
            cases member
          simp only [Bool.and_false, Bool.false_eq_true, if_false, pure_bind]
          refine .bind (ih alone others) ?_
          rintro _ ⟨tables, final⟩ reports
          exact .done (.cons first reports)

/-- What stands alone in a migration that is valid is its only operation. -/
theorem isolated_of_checkOperations {alone : Bool}
    (checked : (checkOperations alone operations).Passes before () after) :
    ∀ op ∈ operations, op.standsAlone = true → alone = true := by
  induction operations generalizing before with
  | nil => simp
  | cons op rest ih =>
      obtain ⟨here, _, _, others⟩ := passes_checkOperations_cons.mp checked
      exact List.forall_mem_cons.mpr ⟨here, ih others⟩

/-- Where the migration is valid, the tables that an expansion returns are those that its operations
report. -/
theorem reports_expandOrUndo (validated : m.validated before = .ok after) :
    (s.expandOrUndo m before).Achieves fun _ tables =>
      Reports before m.operations tables after := by
  obtain ⟨_, _, checked⟩ := Migration.validated_eq_ok.mp validated
  have isolated (op : Operation) (member : op ∈ m.operations) (stands : op.standsAlone = true) :
      m.operations = [op] := by
    have single := isolated_of_checkOperations checked op member stands
    obtain ⟨only, same⟩ := List.length_eq_one_iff.mp (by simpa using single)
    rw [same] at member ⊢
    rw [List.mem_singleton.mp member]
  have started : (s.startOperations (s.phaseContext m) m.operations before).Achieves
      fun _ result => Reports before m.operations result.1 after :=
    reports_startOperations isolated checked
  have expanded := achieves_expandOrUndo_of validated
    (fun _ tables => Reports before m.operations tables after) started
  refine expanded.mono fun _ tables framed => ?_
  obtain ⟨_, _, _, _, _, _, reports⟩ := framed
  exact reports

end MigrationSession

end ExpandContract
