import ExpandContract.Proofs.Catalogue.Columns
import ExpandContract.Proofs.Catalogue.Mirroring
import ExpandContract.Proofs.Catalogue.Owing

/-!
# What a rollback does not find

An operation that makes something in a table and a later one that drops the table cannot be undone
in the order of the migration: when the first is undone, the table is still aside under another
name, and nothing is found; when the second is undone, the table comes back with all that was made
in it. What has been made in a table is followed here through the drop and the rollback
(`Holdings.Touched`). So a migration that leaves nothing behind keeps to the order in which all is
found (`removable_of_clean`).

This takes for granted that the server would not refuse the start: the names of tables that are put
aside and of columns that are added are left alone, and a table that was dropped is not created
again.
-/

set_option autoImplicit false

namespace ExpandContract

open Sql (Change parkedName syncTriggerName)

namespace Operation

variable {ctx : PhaseContext} {op : Operation} {statement : Change} {name : String} {item : Item}

/-- An operation makes something only in the table that it is about. -/
theorem about_of_makesIn (makes : op.makesIn = some name) : op.about = some name := by
  cases op with
  | createTable op | addColumn op => exact makes
  | dropColumn op =>
      change (if op.down.isSome then some op.table else none) = some name at makes
      split at makes
      · exact makes
      · cases makes
  | _ => cases makes

/-- The rollback of an operation takes something away only from the table that the operation is
about, apart from indexes. -/
theorem about_of_mem_undo (member : statement ∈ op.undo ctx) (takes : statement.Takes name item)
    (other : ∀ index, item ≠ .index index) : op.about = some name := by
  cases op with
  | createTable op =>
      cases List.mem_singleton.mp member
      exact congrArg some (Eq.symm takes)
  | addColumn op =>
      rcases List.mem_cons.mp member with rfl | member
      · exact congrArg some takes.1.symm
      · cases List.mem_singleton.mp member
        exact congrArg some takes.1.symm
  | dropColumn op =>
      cases DropColumn.eq_of_mem_undo member
      exact congrArg some takes.1.symm
  | createIndex op =>
      cases List.mem_singleton.mp member
      exact absurd takes (other op.name)
  | dropTable op =>
      cases List.mem_singleton.mp member
      exact takes.elim
  | rawSql op =>
      obtain ⟨_, rfl⟩ := RawSql.eq_of_mem_undo member
      exact takes.elim
  | renameColumn op | dropIndex op => cases member

end Operation

/-! ## Tables in which something has been made -/

namespace Holdings

open Operation

variable {ctx : PhaseContext} {h : Holdings} {op : Operation} {changes : List Change}
  {statement : Change} {name source target : String}

/-- There is a table of this name, and something has been made in it, apart from indexes. -/
def Touched (h : Holdings) (name : String) : Prop :=
  h.catalogue.Has name ∧ ∃ item, (∀ index, item ≠ .index index) ∧ h.Holds name item

/-- The change leaves the table of this name where it is, with what has been made in it. -/
def Spares (name : String) (statement : Change) : Prop :=
  (∀ item, (∀ index, item ≠ .index index) → ¬statement.Takes name item) ∧
    ∀ target, ¬statement.Moves name target

namespace Touched

theorem not_clean (touched : h.Touched name) : ¬h.Clean := by
  obtain ⟨_, item, _, holds⟩ := touched
  exact fun clean => clean name item holds

theorem apply (touched : h.Touched name) (spares : Spares name statement) :
    (h.apply statement).Touched name := by
  obtain ⟨has, item, other, holds⟩ := touched
  exact ⟨Catalogue.has_apply has (spares.1 .table (by rintro _ ⟨⟩)) spares.2, item, other,
    holds_apply holds (spares.1 item other) spares.2⟩

theorem after (touched : h.Touched name) (spares : ∀ statement ∈ changes, Spares name statement) :
    (h.after changes).Touched name := by
  induction changes generalizing h with
  | nil => exact touched
  | cons statement rest ih =>
      obtain ⟨now, later⟩ := List.forall_mem_cons.mp spares
      exact ih (touched.apply now) later

/-- What has been made in a table goes with it when it is renamed. -/
theorem rename {schema : String} {ifExists : Bool} (touched : h.Touched source)
    (renames : h.catalogue.Renames source target) :
    (h.apply (.renameTable schema source target ifExists)).Touched target := by
  obtain ⟨⟨t, found⟩, item, other, holds⟩ := touched
  exact ⟨⟨t, (Catalogue.find?_rename_target renames).trans found⟩, item, other,
    holds_rename renames holds⟩

/-- The start of an operation leaves it, unless the operation drops the table. -/
theorem expand (touched : h.Touched name) (expands : op.Expands ctx changes)
    (stays : ∀ dropped, op = .dropTable dropped → name ≠ dropped.name) :
    (h.after changes).Touched name := by
  refine touched.after fun statement member => ⟨fun item _ => expands.not_takes member, ?_⟩
  intro target moves
  obtain ⟨dropped, same, here, _⟩ := expands.moves member moves
  exact stays dropped same here

/-- The rollback of an operation leaves it, if the operation is about another table and has not put
this one aside. -/
theorem undo (touched : h.Touched name) (other : op.about ≠ some name)
    (stays : ∀ dropped, op = .dropTable dropped → name ≠ parkedName dropped.name) :
    (h.after (op.undo ctx)).Touched name := by
  refine touched.after fun statement member =>
    ⟨fun item isOther takes => ?_, fun target moves => ?_⟩
  · exact other (about_of_mem_undo member takes isOther)
  · obtain ⟨dropped, same, here, _⟩ := moves_of_mem_undo member moves
    exact stays dropped same here

theorem undo_all {operations : List Operation} (touched : h.Touched name)
    (other : ∀ op ∈ operations, op.about ≠ some name)
    (stays : ∀ dropped, .dropTable dropped ∈ operations → name ≠ parkedName dropped.name) :
    (h.after (operations.flatMap (Operation.undo ctx))).Touched name := by
  induction operations generalizing h with
  | nil => exact touched
  | cons op rest ih =>
      obtain ⟨now, later⟩ := List.forall_mem_cons.mp other
      rw [List.flatMap_cons, after_append]
      refine ih (touched.undo now ?_) later fun dropped member =>
        stays dropped (List.mem_cons_of_mem _ member)
      rintro dropped rfl
      exact stays dropped List.mem_cons_self

end Touched

/-- The rollback of operations brings no table back under a name that none of them has dropped. -/
theorem not_has_of_undo {operations : List Operation} (none : ¬h.catalogue.Has name)
    (undropped : ∀ dropped, .dropTable dropped ∈ operations → name ≠ dropped.name) :
    ¬(h.after (operations.flatMap (Operation.undo ctx))).catalogue.Has name := by
  rw [catalogue_after]
  refine Catalogue.after_induction (fun c => ¬c.Has name) none
    fun c statement member missing has => ?_
  obtain ⟨op, among, undoes⟩ := List.mem_flatMap.mp member
  refine missing (Catalogue.of_has_apply has (not_gives_of_mem_undo undoes) fun source moves => ?_)
  obtain ⟨dropped, rfl, _, same⟩ := moves_of_mem_undo undoes moves
  exact undropped dropped among same

/-! ## What starts make -/

/-- Behind the start of some operations, something has been made in every exposed table in which
they make something. Where nothing has been made, the names of shadow columns are still free. -/
structure Marks (m : Migration) (earlier : List Operation) (schema : Schema) (h : Holdings) :
    Prop where
  mirrors : Mirrors earlier schema h.catalogue
  marked : ∀ op ∈ earlier, ∀ name, op.makesIn = some name → schema.Exposes name → h.Touched name
  vacant : ∀ name, schema.Exposes name → h.Touched name ∨
    ∀ t, h.catalogue.tables.find? name = some t →
      ∀ op, .addColumn op ∈ m.operations → op.table = name → t.columns.find? op.shadow = none

variable {m : Migration} {c : Catalogue} {snapshot before after : Schema}
  {earlier rest operations : List Operation}

theorem Marks.ofSchema (leaves : LeavesParking (.ofSchema snapshot) m)
    (shadows : m.LeavesShadows snapshot) : Marks m [] snapshot (.ofSchema snapshot) where
  mirrors := .ofSchema leaves
  marked := by rintro _ ⟨⟩
  vacant := by
    rintro name exposes
    refine .inr fun t found op member same => ?_
    obtain ⟨table, shown, rfl⟩ :=
      Option.map_eq_some_iff.mp ((NameMap.find?_map _ _ _).symm.trans found)
    have free := shadows op member table (same ▸ shown)
    change (table.columns.map _).find? op.shadow = none
    rw [NameMap.find?_map, Option.map_eq_none_iff]
    rwa [NameMap.mem_names, Bool.not_eq_true, Option.isSome_eq_false_iff, Option.isNone_iff_eq_none]
      at free

/-- A table in which the operation makes nothing keeps its columns. -/
theorem columns_of_expands (expands : op.Expands ctx changes) {t : StoredTable}
    (makesElsewhere : op.makesIn ≠ some name)
    (stays : ∀ dropped, op = .dropTable dropped →
      name ≠ dropped.name ∧ name ≠ parkedName dropped.name)
    (found : (h.after changes).catalogue.tables.find? name = some t) :
    ∃ old, h.catalogue.tables.find? name = some old ∧ t.columns = old.columns := by
  cases expands with
  | @createTable op columns _ =>
      have other : name ≠ op.name := fun same => makesElsewhere (congrArg some same.symm)
      change (if h.catalogue.tables.contains op.name then h.catalogue
        else h.catalogue.put op.name _).tables.find? name = some t at found
      split at found
      · exact ⟨t, found, rfl⟩
      · exact ⟨t, (Catalogue.find?_put_of_ne other).symm.trans found, rfl⟩
  | @dropTable op =>
      obtain ⟨notSource, notTarget⟩ := stays op rfl
      exact ⟨t, (Catalogue.find?_rename_of_ne notSource notTarget).symm.trans found, rfl⟩
  | @addColumn op =>
      have other : name ≠ op.table := fun same => makesElsewhere (congrArg some same.symm)
      exact ⟨t, (Catalogue.find?_alter_of_ne other).symm.trans found, rfl⟩
  | @fillColumn op =>
      have other : name ≠ op.table := fun same => makesElsewhere (congrArg some same.symm)
      exact ⟨t, (Catalogue.find?_alter_of_ne other).symm.trans found, rfl⟩
  | hideColumn => exact ⟨t, found, rfl⟩
  | dropColumn => exact ⟨t, found, rfl⟩
  | renameColumn => exact ⟨t, found, rfl⟩
  | dropIndex => exact ⟨t, found, rfl⟩
  | @createIndex op columns =>
      change (if h.catalogue.hasIndex op.name then h.catalogue
        else h.catalogue.alter op.table _).tables.find? name = some t at found
      split at found
      · exact ⟨t, found, rfl⟩
      · by_cases same : name = op.table
        · subst same
          rw [Catalogue.find?_alter_self] at found
          obtain ⟨old, there, rfl⟩ := Option.map_eq_some_iff.mp found
          exact ⟨old, there, rfl⟩
        · exact ⟨t, (Catalogue.find?_alter_of_ne same).symm.trans found, rfl⟩

namespace Marks

/-- What has been made in a table that is still exposed is still there. -/
theorem touched_expand (plays : op.PlaysNames before after) (expands : op.Expands ctx changes)
    (exposes : after.Exposes name) (touched : h.Touched name) : (h.after changes).Touched name := by
  refine touched.expand expands ?_
  rintro dropped rfl
  exact ((plays.2 name).mp exposes).1

/-- A column that is added under a free name has been made. -/
theorem touched_addColumn (marks : Marks m earlier before h) {op : AddColumn}
    (member : .addColumn op ∈ m.operations) (exposes : before.Exposes op.table)
    {column : Sql.ColumnSpec} (named : column.name = op.shadow) {schema : String}
    {checks : List Sql.PendingCheck} :
    (h.apply (.addColumn schema op.table column checks)).Touched op.table := by
  rcases marks.vacant op.table exposes with touched | vacant
  · exact touched.apply ⟨fun _ _ => id, fun _ => id⟩
  · obtain ⟨t, found⟩ := marks.mirrors.shown _ exposes
    have free := vacant t found op member rfl
    have there : (h.apply (.addColumn schema op.table column checks)).catalogue.tables.find?
        op.table = some (t.addColumn column.name) := by
      change (h.catalogue.alter op.table _).tables.find? op.table = _
      rw [Catalogue.find?_alter_self, found]
      rfl
    have made : (t.addColumn column.name).Made (.column op.shadow) :=
      StoredTable.made_addColumn.mpr (.inr ⟨by rw [named], by rw [named, free]⟩)
    exact ⟨⟨_, there⟩, .column op.shadow, by rintro _ ⟨⟩, .inl ⟨_, there, made⟩⟩

/-- A table that the operation does not make was exposed before. -/
theorem before_exposes (plays : op.PlaysNames before after)
    (makesElsewhere : op.makesIn ≠ some name)
    (exposes : after.Exposes name) : before.Exposes name := by
  cases op with
  | createTable op =>
      refine ((plays.2 name).mp exposes).resolve_left ?_
      rintro rfl
      exact makesElsewhere rfl
  | dropTable op => exact ((plays.2 name).mp exposes).2
  | addColumn | dropColumn | renameColumn | createIndex | dropIndex | rawSql =>
      exact (plays.2 name).mp exposes

/-- The start of an operation makes something in the table in which it is to. -/
theorem touched_of_makesIn (marks : Marks m earlier before h) (member : op ∈ m.operations)
    (plays : op.PlaysNames before after) (elsewhere : op.CreatesElsewhere earlier)
    (expands : op.Expands ctx changes) (makes : op.makesIn = some name) :
    (h.after changes).Touched name := by
  cases expands with
  | @createTable op columns comments =>
      cases makes
      have free : h.catalogue.tables.contains op.name ≠ true := by
        intro taken
        rcases marks.mirrors.known op.name (Option.isSome_iff_exists.mp taken) with
          exposes | ⟨dropped, _, same⟩
        · exact plays.1 exposes
        · exact (elsewhere op rfl).1 dropped.name same
      have found : (h.after [.createTable ctx.schema op.name columns op.keyColumns op.comment
          comments]).catalogue.tables.find? op.name = some (.ofSpecs columns) := by
        change (if h.catalogue.tables.contains op.name then h.catalogue
          else h.catalogue.put op.name _).tables.find? op.name = _
        rw [if_neg free]
        exact Catalogue.find?_put_self
      exact ⟨⟨_, found⟩, .table, by rintro _ ⟨⟩, .inl ⟨_, found, rfl⟩⟩
  | @addColumn op column checks named =>
      cases makes
      exact marks.touched_addColumn member (plays.1 _ rfl) named
  | @fillColumn op column checks expression named =>
      cases makes
      have added : (h.apply (.addColumn ctx.schema op.table column checks)).Touched op.table :=
        marks.touched_addColumn member (plays.1 _ rfl) named
      exact added.apply ⟨fun _ _ => id, fun _ => id⟩
  | @dropColumn op physical expression computed =>
      cases (about_of_makesIn makes)
      obtain ⟨t, found⟩ := marks.mirrors.shown _ (plays.1 op.table rfl)
      refine ⟨⟨t, found⟩, .trigger (syncTriggerName op.table op.column), by rintro _ ⟨⟩,
        .inr ⟨_, rfl, ?_⟩⟩
      change _ ∈ if h.catalogue.tables.contains op.table then _ else _
      rw [if_pos (by rw [NameMap.contains, found]; rfl)]
      exact List.mem_cons_self
  | @hideColumn op plain =>
      change (if op.down.isSome then some op.table else none) = some name at makes
      rw [plain] at makes
      cases makes
  | dropTable | renameColumn | createIndex | dropIndex => cases makes

theorem expand (marks : Marks m earlier before h) (leaves : LeavesParking c m)
    (recreates : m.RecreatesNone) (split : m.operations = earlier ++ op :: rest)
    (checked : op.check.Passes before () after) (expands : op.Expands ctx changes) :
    Marks m (earlier ++ [op]) after (h.after changes) := by
  have plays := playsNames_of_check checked
  have elsewhere := createsElsewhere leaves recreates split
  have member : op ∈ m.operations := split ▸ List.mem_append_right _ List.mem_cons_self
  have new {name : String} (makes : op.makesIn = some name) : (h.after changes).Touched name :=
    marks.touched_of_makesIn member plays elsewhere expands makes
  refine ⟨?_, fun other among name makes exposes => ?_, fun name exposes => ?_⟩
  · rw [catalogue_after]
    exact marks.mirrors.step plays (movesNames_of_expands expands) elsewhere
  · rcases List.mem_append.mp among with among | last
    · by_cases same : op.makesIn = some name
      · exact new same
      · have still := before_exposes plays same exposes
        exact touched_expand plays expands exposes (marks.marked other among name makes still)
    · cases List.mem_singleton.mp last
      exact new makes
  · by_cases same : op.makesIn = some name
    · exact .inl (new same)
    · have still := before_exposes plays same exposes
      rcases marks.vacant name still with touched | vacant
      · exact .inl (touched_expand plays expands exposes touched)
      · refine .inr fun t found added among here => ?_
        have stays : ∀ dropped, op = .dropTable dropped →
            name ≠ dropped.name ∧ name ≠ parkedName dropped.name := by
          rintro dropped rfl
          refine ⟨((plays.2 name).mp exposes).1, ?_⟩
          rintro rfl
          exact marks.mirrors.unparked _ still
        obtain ⟨old, there, columns⟩ := columns_of_expands expands same stays found
        rw [columns]
        exact vacant old there added among here

/-- One operation after the other. -/
theorem unfold (marks : Marks m earlier before h) (leaves : LeavesParking c m)
    (recreates : m.RecreatesNone) (unfolds : Unfolds ctx before operations changes after)
    (split : m.operations = earlier ++ (operations ++ rest)) :
    Marks m (earlier ++ operations) after (h.after changes) := by
  induction unfolds generalizing h earlier with
  | nil => exact (List.append_nil earlier).symm ▸ marks
  | @cons _ _ _ op others first later checked expands _ ih =>
      have now := marks.expand leaves recreates split checked expands
      have started := ih now (by rw [split]; simp)
      rw [after_append]
      simpa using started

end Marks

/-! ## What has been put aside comes back -/

/-- What has been made in a table that no longer operation drops stays there. -/
theorem Touched.unfold (touched : h.Touched name)
    (unfolds : Unfolds ctx before operations changes after)
    (stays : ∀ dropped, .dropTable dropped ∈ operations → name ≠ dropped.name) :
    (h.after changes).Touched name := by
  induction unfolds generalizing h with
  | nil => exact touched
  | cons checked expands _ ih =>
      rw [after_append]
      refine ih (touched.expand expands ?_) fun dropped member =>
        stays dropped (List.mem_cons_of_mem _ member)
      rintro dropped rfl
      exact stays dropped List.mem_cons_self

/-- A table that is aside comes back with what has been made in it: the operations before its drop
are undone while it is aside, and those behind do not ask for it. -/
theorem Touched.bring_back {dropped : DropTable} (aside : h.Touched (parkedName dropped.name))
    (missing : ¬h.catalogue.Has dropped.name)
    (unasked : ∀ op ∈ earlier, op.about ≠ some (parkedName dropped.name))
    (once : ∀ other, .dropTable other ∈ earlier → dropped.name ≠ other.name)
    (unaltered : ∀ op ∈ rest, op.about ≠ some dropped.name)
    (unparked : ∀ other, dropped.name ≠ parkedName other) :
    (h.after ((earlier ++ .dropTable dropped :: rest).flatMap
      (Operation.undo ctx))).Touched dropped.name := by
  have kept : (h.after (earlier.flatMap (Operation.undo ctx))).Touched (parkedName dropped.name) :=
    aside.undo_all unasked fun other among same =>
      once other among (Sql.parkedName_injective same)
  have free : ¬(h.after (earlier.flatMap (Operation.undo ctx))).catalogue.Has dropped.name :=
    not_has_of_undo missing once
  have back : ((h.after (earlier.flatMap (Operation.undo ctx))).after
      (Operation.undo ctx (.dropTable dropped))).Touched dropped.name :=
    kept.rename ⟨kept.1, Catalogue.not_has.mp free⟩
  rw [List.flatMap_append, List.flatMap_cons, after_append, after_append]
  exact back.undo_all unaltered fun other _ => unparked other.name

section Order

variable (leaves : LeavesParking (.ofSchema snapshot) m) (recreates : m.RecreatesNone)
include leaves recreates

/-- What an operation has made in a table is aside with the table, when a later one
has dropped it. -/
theorem aside_of_unfold (shadows : m.LeavesShadows snapshot)
    (unfolds : Unfolds ctx snapshot m.operations changes after) {maker : Operation}
    {dropped : DropTable} (split : m.operations = earlier ++ .dropTable dropped :: rest)
    (member : maker ∈ earlier) (makes : maker.makesIn = some dropped.name) :
    ((Holdings.ofSchema snapshot).after changes).Touched (parkedName dropped.name) := by
  have unasked : ∀ other, .dropTable other ∈ rest → parkedName dropped.name ≠ other.name := by
    intro other among same
    have inAll : .dropTable other ∈ m.operations :=
      split ▸ List.mem_append_right _ (List.mem_cons_of_mem _ among)
    exact unparked_of_about leaves recreates unfolds inAll rfl _ same.symm
  rw [split] at unfolds
  obtain ⟨between, first, others, rfl, begun, goesOn⟩ := unfolds.append
  have marks := (Marks.ofSchema leaves shadows).unfold leaves recreates begun split
  rw [List.nil_append] at marks
  cases goesOn with
  | cons checked expands ends =>
      have plays := playsNames_of_check checked
      have made := marks.marked maker member _ makes plays.1
      rw [after_append, after_append]
      cases expands
      exact Touched.unfold (made.rename (marks.mirrors.renames plays.1)) ends unasked

/-- Behind a start there is no table of a name that was dropped. -/
theorem not_has_of_dropped (unfolds : Unfolds ctx snapshot m.operations changes after)
    {dropped : DropTable} (member : .dropTable dropped ∈ m.operations) :
    ¬((Holdings.ofSchema snapshot).after changes).catalogue.Has dropped.name := by
  intro has
  rw [catalogue_after] at has
  have mirrors := mirrors_of_unfolds leaves recreates unfolds
  rcases mirrors.known _ has with exposes | ⟨other, _, same⟩
  · exact mirrors.gone dropped member exposes
  · exact unparked_of_about leaves recreates unfolds member rfl _ same

/-- Around the drop of a table, no operation before drops the table and none behind is about it. -/
theorem about_of_split (unfolds : Unfolds ctx snapshot m.operations changes after)
    {dropped : DropTable} (split : m.operations = earlier ++ .dropTable dropped :: rest) :
    (∀ other, .dropTable other ∈ earlier → dropped.name ≠ other.name) ∧
      ∀ op ∈ rest, op.about ≠ some dropped.name := by
  rw [split] at unfolds
  obtain ⟨between, first, others, rfl, begun, goesOn⟩ := unfolds.append
  have mirrors := (Mirrors.ofSchema leaves).unfold leaves recreates begun split
  constructor
  · exact fun other among => (mirrors.about leaves recreates goesOn split List.mem_cons_self rfl).2
      other among
  · cases goesOn with
    | cons checked expands ends =>
        have behind := mirrors.step (playsNames_of_check checked) (movesNames_of_expands expands)
          (createsElsewhere leaves recreates split)
        intro op among same
        refine (behind.about leaves recreates ends (by rw [split]; simp) among same).2
          dropped ?_ rfl
        simp

/-- What an operation has made in a table that a later one drops is still made when both have been
undone. -/
theorem touched_of_dropped (shadows : m.LeavesShadows snapshot)
    (unfolds : Unfolds ctx snapshot m.operations changes after) {maker : Operation}
    {dropped : DropTable} (split : m.operations = earlier ++ .dropTable dropped :: rest)
    (member : maker ∈ earlier) (makes : maker.makesIn = some dropped.name) :
    (((Holdings.ofSchema snapshot).after changes).after
      (m.operations.flatMap (Operation.undo ctx))).Touched dropped.name := by
  have unparked {op : Operation} {name : String} (among : op ∈ m.operations)
      (same : op.about = some name) : ∀ other, name ≠ parkedName other :=
    unparked_of_about leaves recreates unfolds among same
  have drops : .dropTable dropped ∈ m.operations :=
    split ▸ List.mem_append_right _ List.mem_cons_self
  obtain ⟨once, unaltered⟩ := about_of_split leaves recreates unfolds split
  have aside := aside_of_unfold leaves recreates shadows unfolds split member makes
  have missing := not_has_of_dropped leaves recreates unfolds drops
  rw [split]
  refine aside.bring_back missing (fun op among same => ?_) once unaltered (unparked drops rfl)
  exact unparked (split ▸ List.mem_append_left _ among) same _ rfl

/-- A migration that leaves nothing behind when it has been started and is undone is removable. -/
theorem removable_of_clean (shadows : m.LeavesShadows snapshot)
    (unfolds : Unfolds ctx snapshot m.operations changes after)
    (clean : (((Holdings.ofSchema snapshot).after changes).after
      (m.operations.flatMap (Operation.undo ctx))).Clean) : m.Removable where
  undropped := by
    rw [List.pairwise_iff_forall_sublist]
    rintro maker _ sublist dropped rfl makes
    obtain ⟨early, late, split, among, last⟩ := List.cons_sublist_iff.mp sublist
    obtain ⟨between, rest, same⟩ := List.append_of_mem (List.singleton_sublist.mp last)
    rw [same, ← List.append_assoc] at split
    exact (touched_of_dropped leaves recreates shadows unfolds split
      (List.mem_append_left _ among) makes).not_clean clean
  unparked op member dropped _ makes :=
    unparked_of_about leaves recreates unfolds member (about_of_makesIn makes) _ rfl

end Order

end Holdings

end ExpandContract
