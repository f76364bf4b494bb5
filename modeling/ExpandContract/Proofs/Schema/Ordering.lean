import ExpandContract.Schema.Basic
import Mathlib.Data.List.Infix

/-!
# The order of the columns

The columns of a table are kept under their exposed names, and their order is in the positions: a
new column gets the position after the last one, and a renamed column takes its position along.
Positions are integers of any sign, they have gaps where columns have been hidden, and zero stands
for a position that is not known yet. Where positions agree, the exposed names decide
(`Table.precedes_orderedColumns`).

`Table.Lists` says of a list that it holds the columns of a table at rising positions. There is at
most one such list, and there is one if no two columns have the same position. Each step on a
table has a counterpart on such a list that does not mention positions: a column is appended,
taken out, or renamed where it stands (`Table.Lists.play`). So the columns that stay keep their
order over any number of steps (`Table.listing_playAll`).
-/

set_option autoImplicit false

namespace ExpandContract

/-! ## Positions -/

namespace Table

theorem lastPosition?_append_singleton (columns : List Column) (c : Column) :
    lastPosition? (columns ++ [c]) = match lastPosition? columns with
      | none => some c.position
      | some p => some (if p < c.position then c.position else p) := by
  rw [lastPosition?, List.foldl_append]
  rfl

/-- The greatest position is one that no column exceeds. -/
theorem exists_lastPosition {columns : List Column} (some : columns ≠ []) :
    ∃ last, lastPosition? columns = .some last ∧ (∃ c ∈ columns, c.position = last) ∧
      ∀ c ∈ columns, c.position ≤ last := by
  induction columns using List.reverseRecOn with
  | nil => exact absurd rfl some
  | append_singleton columns c ih =>
      rw [lastPosition?_append_singleton]
      cases columns with
      | nil => exact ⟨c.position, rfl, ⟨c, by simp, rfl⟩, by simp⟩
      | cons first rest =>
          obtain ⟨last, found, ⟨holder, among, same⟩, least⟩ := ih (by simp)
          rw [found]
          by_cases later : last < c.position
          · refine ⟨c.position, by simp [later], ⟨c, by simp, rfl⟩, fun other member => ?_⟩
            rcases List.mem_append.mp member with early | here
            · exact Int32.le_of_lt (Int32.lt_of_le_of_lt (least other early) later)
            · rw [List.mem_singleton.mp here]
              exact Int32.le_refl _
          · refine ⟨last, by simp [later], ⟨holder, List.mem_append_left _ among, same⟩,
              fun other member => ?_⟩
            rcases List.mem_append.mp member with early | here
            · exact least other early
            · rw [List.mem_singleton.mp here]
              exact Int32.not_lt.mp later

/-- All positions leave room for a greater one. -/
def HasRoom (t : Table) : Prop :=
  ∀ c ∈ t.columns.values, c.position < Int32.maxValue

instance (t : Table) : Decidable t.HasRoom :=
  inferInstanceAs (Decidable (∀ c ∈ t.columns.values, c.position < Int32.maxValue))

theorem lt_add_one {position : Int32} (room : position < Int32.maxValue) :
    position < position + 1 := by
  have limit := Int32.lt_iff_toInt_lt.mp room
  have most : Int32.maxValue.toInt = 2147483647 := rfl
  have least := Int32.le_toInt position
  have lowest : Int32.minValue.toInt = -2147483648 := rfl
  have one : (1 : Int32).toInt = 1 := rfl
  rw [Int32.lt_iff_toInt_lt, Int32.toInt_add, one, Int.bmod_eq_of_le (by omega) (by omega)]
  omega

/-- The position after the last one is greater than all of them. -/
theorem lt_positionAfterLast {t : Table} (room : t.HasRoom) {c : Column}
    (member : c ∈ t.columns.values) : c.position < t.positionAfterLast := by
  obtain ⟨last, found, ⟨holder, among, same⟩, least⟩ :=
    exists_lastPosition (List.ne_nil_of_mem member)
  have after : last < last + 1 := lt_add_one (same ▸ room holder among)
  rw [positionAfterLast, found]
  exact Int32.lt_of_le_of_lt (least c member) after

/-! ## The order of the columns -/

/-- The first column is before the second one: by its position, or by its exposed name where the
positions agree. -/
def Precedes (a b : String × Column) : Prop :=
  a.2.position < b.2.position ∨ (a.2.position = b.2.position ∧ a.1 < b.1)

section Order

variable {a b entry : String × Column} {list : List (String × Column)}

theorem Precedes.position_le (precedes : Precedes a b) : a.2.position ≤ b.2.position := by
  rcases precedes with less | ⟨same, _⟩
  · exact Int32.le_of_lt less
  · exact same ▸ Int32.le_refl _

theorem precedes_of_le (position : a.2.position ≤ b.2.position) (name : a.1 < b.1) :
    Precedes a b := by
  by_cases same : a.2.position = b.2.position
  · exact .inr ⟨same, name⟩
  · exact .inl (Int32.lt_of_le_of_ne position same)

/-- An entry with the smallest name is put before the others of its position. -/
theorem precedes_insertByPosition (ordered : list.Pairwise Precedes)
    (least : ∀ other ∈ list, entry.1 < other.1) :
    (insertByPosition entry list).Pairwise Precedes := by
  induction list with
  | nil => exact List.pairwise_singleton ..
  | cons first rest ih =>
      obtain ⟨before, others⟩ := List.pairwise_cons.mp ordered
      unfold insertByPosition
      split
      · rename_i early
        refine List.pairwise_cons.mpr ⟨fun other member => ?_, ordered⟩
        refine precedes_of_le ?_ (least other member)
        rcases List.mem_cons.mp member with rfl | later
        · exact early
        · exact Int32.le_trans early (before other later).position_le
      · rename_i late
        refine List.pairwise_cons.mpr ⟨fun other member => ?_, ?_⟩
        · rcases List.mem_cons.mp ((perm_insertByPosition entry rest).mem_iff.mp member) with
            rfl | inRest
          · exact .inl (Int32.not_le.mp late)
          · exact before other inRest
        · exact ih others fun other member => least other (List.mem_cons_of_mem _ member)

theorem precedes_foldr_insertByPosition (sorted : list.Pairwise fun a b => a.1 < b.1) :
    (list.foldr insertByPosition []).Pairwise Precedes := by
  induction list with
  | nil => exact .nil
  | cons entry rest ih =>
      obtain ⟨least, others⟩ := List.pairwise_cons.mp sorted
      refine precedes_insertByPosition (ih others) fun other member => ?_
      exact least other ((perm_foldr_insertByPosition rest).mem_iff.mp member)

/-- The columns are in order, also where positions agree. -/
theorem precedes_orderedColumns (t : Table) : t.orderedColumns.Pairwise Precedes :=
  precedes_foldr_insertByPosition t.columns.sorted

end Order

/-! ## Lists of columns -/

/-- No two columns have the same position. -/
def PositionsDiffer (t : Table) : Prop :=
  (t.columns.values.map (·.position)).Nodup

instance (t : Table) : Decidable t.PositionsDiffer :=
  inferInstanceAs (Decidable (t.columns.values.map (·.position)).Nodup)

/-- The list holds the columns of the table under their exposed names, at rising positions. -/
structure Lists (t : Table) (list : List (String × Column)) : Prop where
  rising : list.Pairwise fun a b => a.2.position < b.2.position
  shown : ∀ entry, entry ∈ list ↔ t.column? entry.1 = some entry.2

variable {t : Table} {list other : List (String × Column)}

theorem Lists.nodup (lists : t.Lists list) : list.Nodup := by
  refine lists.rising.imp fun less same => ?_
  rw [same] at less
  exact Int32.lt_irrefl less

theorem mem_entries {entry : String × Column} :
    entry ∈ t.columns.entries ↔ t.column? entry.1 = some entry.2 :=
  NameMap.mem_entries_iff

theorem nodup_entries (t : Table) : t.columns.entries.Nodup := by
  refine t.columns.sorted.imp fun less same => ?_
  rw [same] at less
  exact String.lt_irrefl _ less

/-- Such a list holds what the table holds, in another order. -/
theorem Lists.perm (lists : t.Lists list) : list.Perm t.columns.entries := by
  refine (List.perm_ext_iff_of_nodup lists.nodup t.nodup_entries).mpr fun entry => ?_
  rw [lists.shown, mem_entries]

theorem positionsDiffer_iff :
    t.PositionsDiffer ↔ t.columns.entries.Pairwise fun a b => a.2.position ≠ b.2.position := by
  rw [PositionsDiffer, NameMap.values, List.map_map]
  exact List.pairwise_map

theorem Lists.positionsDiffer (lists : t.Lists list) : t.PositionsDiffer := by
  have apart : list.Pairwise fun a b => a.2.position ≠ b.2.position :=
    lists.rising.imp Int32.ne_of_lt
  exact positionsDiffer_iff.mpr (lists.perm.pairwise apart Ne.symm)

/-- Columns at different positions have an order. -/
theorem lists_orderedColumns (differ : t.PositionsDiffer) : t.Lists t.orderedColumns where
  rising := by
    have apart : t.orderedColumns.Pairwise fun a b => a.2.position ≠ b.2.position :=
      t.perm_orderedColumns.symm.pairwise (positionsDiffer_iff.mp differ) Ne.symm
    exact (t.precedes_orderedColumns.and apart).imp fun both =>
      Int32.lt_of_le_of_ne both.1.position_le both.2
  shown entry := t.perm_orderedColumns.mem_iff.trans mem_entries

/-- The order of a table is the only one. -/
theorem Lists.eq_orderedColumns (lists : t.Lists list) : t.orderedColumns = list := by
  have ordered := lists_orderedColumns lists.positionsDiffer
  refine (t.perm_orderedColumns.trans lists.perm.symm).eq_of_pairwise
    (fun a b _ _ before after => ?_) ordered.rising lists.rising
  exact absurd (Int32.lt_trans before after) Int32.lt_irrefl

end Table

/-! ## Steps -/

/-- What changes the columns of a table. -/
inductive TableStep where
  | expose (name : String) (column : Column)
  | hide (name : String)
  | rename (source target : String)
deriving DecidableEq

namespace Table

/-- The table after a step. A column that is not there cannot be renamed. -/
def play (t : Table) : TableStep → Table
  | .expose name column => t.exposeColumn name column
  | .hide name => t.hideColumn name
  | .rename source target => (t.renameColumn? source target).getD t

/-- The table after steps, taken one after the other. -/
def playAll (t : Table) (steps : List TableStep) : Table :=
  steps.foldl play t

/-- The step adds a column that has no position, where there is room for one, under a name that is
free, or it renames a column to a name that is free, or it hides a column. -/
def Allows (t : Table) : TableStep → Prop
  | .expose name column => column.position = 0 ∧ t.column? name = none ∧ t.HasRoom
  | .hide _ => True
  | .rename _ target => t.column? target = none

instance (t : Table) : DecidablePred t.Allows
  | .expose name column => inferInstanceAs (Decidable
      (column.position = 0 ∧ t.column? name = none ∧ t.HasRoom))
  | .hide _ => inferInstanceAs (Decidable True)
  | .rename _ target => inferInstanceAs (Decidable (t.column? target = none))

/-- Each of the steps is allowed where it is taken. -/
def AllowsAll : Table → List TableStep → Prop
  | _, [] => True
  | t, step :: rest => t.Allows step ∧ (t.play step).AllowsAll rest

instance decidableAllowsAll : (t : Table) → (steps : List TableStep) → Decidable (t.AllowsAll steps)
  | _, [] => inferInstanceAs (Decidable True)
  | t, step :: rest =>
      have := decidableAllowsAll (t.play step) rest
      inferInstanceAs (Decidable (t.Allows step ∧ (t.play step).AllowsAll rest))

end Table

namespace TableStep

/-- The entry under its new name, if it is the one that is renamed. -/
def renamed (source target : String) (entry : String × Column) : String × Column :=
  if entry.1 = source then (target, entry.2) else entry

theorem snd_renamed (source target : String) (entry : String × Column) :
    (renamed source target entry).2 = entry.2 := by
  unfold renamed
  split <;> rfl

/-- The step on a plain list: a column is appended, taken out, or renamed where it stands. -/
def playOn (list : List (String × Column)) : TableStep → List (String × Column)
  | .expose name column => list ++ [(name, column)]
  | .hide name => list.filter fun entry => entry.1 != name
  | .rename source target => list.map (renamed source target)

/-- The steps on a plain list, taken one after the other. -/
def playAllOn (list : List (String × Column)) (steps : List TableStep) : List (String × Column) :=
  steps.foldl playOn list

/-- The column that the step adds. -/
def added? : TableStep → Option Column
  | .expose _ column => some column
  | _ => none

end TableStep

/-! ## Steps on lists with positions -/

namespace Table.Lists

open TableStep

variable {t : Table} {list : List (String × Column)} {name source target : String} {c : Column}

/-- A column that is added comes last. -/
theorem expose (lists : t.Lists list) (unplaced : c.position = 0) (free : t.column? name = none)
    (room : t.HasRoom) :
    (t.exposeColumn name c).Lists
      (list ++ [(name, { c with position := t.positionAfterLast })]) where
  rising := by
    refine List.pairwise_append.mpr ⟨lists.rising, List.pairwise_singleton .., ?_⟩
    intro before early entry last
    rw [List.mem_singleton.mp last]
    have there : before ∈ t.columns.entries := mem_entries.mpr ((lists.shown before).mp early)
    exact lt_positionAfterLast room (List.mem_map_of_mem there)
  shown entry := by
    rw [List.mem_append, List.mem_singleton, lists.shown, exposeColumn, if_pos unplaced]
    unfold column? at free ⊢
    by_cases same : entry.1 = name
    · rw [same, NameMap.find?_insert_self, free, Option.some.injEq]
      constructor
      · rintro (impossible | rfl)
        · cases impossible
        · rfl
      · intro held
        exact .inr (Prod.ext same held.symm)
    · rw [NameMap.find?_insert_of_ne _ same]
      constructor
      · rintro (found | rfl)
        · exact found
        · exact absurd rfl same
      · exact .inl

/-- A column that is hidden leaves the others in their order. -/
theorem hide (lists : t.Lists list) :
    (t.hideColumn name).Lists (list.filter fun entry => entry.1 != name) where
  rising := lists.rising.sublist List.filter_sublist
  shown entry := by
    rw [List.mem_filter, lists.shown, hideColumn]
    unfold column?
    by_cases same : entry.1 = name
    · simp [same]
    · simp [same, NameMap.find?_erase_of_ne _ same]

/-- A column that is renamed stays where it is. -/
theorem rename (lists : t.Lists list) (found : t.column? source = some c)
    (free : t.column? target = none) :
    Lists { t with columns := (t.columns.erase source).insert target c }
      (list.map (renamed source target)) where
  rising := by
    refine List.pairwise_map.mpr (lists.rising.imp fun less => ?_)
    rwa [snd_renamed, snd_renamed]
  shown entry := by
    have before : ∀ other, other ∈ list ↔ t.columns.find? other.1 = some other.2 := lists.shown
    unfold column? at found free ⊢
    rw [List.mem_map]
    by_cases new : entry.1 = target
    · rw [new, NameMap.find?_insert_self, Option.some.injEq]
      constructor
      · rintro ⟨other, member, rfl⟩
        unfold renamed at new ⊢
        split
        · rename_i old
          have held := (before other).mp member
          rw [old, found] at held
          exact Option.some.inj held
        · rename_i old
          rw [if_neg old] at new
          have held := (before other).mp member
          rw [new, free] at held
          cases held
      · rintro rfl
        refine ⟨(source, entry.2), (before _).mpr found, ?_⟩
        rw [renamed, if_pos rfl]
        exact Prod.ext new.symm rfl
    · rw [NameMap.find?_insert_of_ne _ new]
      constructor
      · rintro ⟨other, member, rfl⟩
        unfold renamed at new ⊢
        split
        · rename_i old
          rw [if_pos old] at new
          exact absurd rfl new
        · rename_i old
          rw [NameMap.find?_erase_of_ne _ old]
          exact (before other).mp member
      · intro held
        have other : entry.1 ≠ source := by
          rintro same
          rw [same, NameMap.find?_erase_self] at held
          cases held
        rw [NameMap.find?_erase_of_ne _ other] at held
        exact ⟨entry, (before entry).mpr held, if_neg other⟩

end Table.Lists

/-! ## Steps on plain lists -/

/-- The column without its position. -/
def Column.unplaced (c : Column) : Column :=
  { c with position := 0 }

/-- The columns of the table in their order, without their positions. -/
def Table.listing (t : Table) : List (String × Column) :=
  t.orderedColumns.map fun entry => (entry.1, entry.2.unplaced)

namespace Table

open TableStep

variable {t : Table} {step : TableStep}

theorem Lists.listing_eq {list : List (String × Column)} (lists : t.Lists list) :
    t.listing = list.map fun entry => (entry.1, entry.2.unplaced) := by
  rw [listing, lists.eq_orderedColumns]

/-- A step that is allowed does to the table what it does to its plain list. -/
theorem listing_play (differ : t.PositionsDiffer) (allowed : t.Allows step) :
    (t.play step).PositionsDiffer ∧ (t.play step).listing = playOn t.listing step := by
  have lists := lists_orderedColumns differ
  cases step with
  | expose name c =>
      obtain ⟨unplaced, free, room⟩ := allowed
      have next := lists.expose unplaced free room
      refine ⟨next.positionsDiffer, next.listing_eq.trans ?_⟩
      have same : ({ c with position := t.positionAfterLast } : Column).unplaced = c := by
        rw [Column.unplaced, ← unplaced]
      rw [List.map_append, List.map_singleton, same]
      rfl
  | hide name =>
      have next : (t.hideColumn name).Lists _ := lists.hide
      refine ⟨next.positionsDiffer, next.listing_eq.trans ?_⟩
      rw [playOn, listing, List.filter_map]
      rfl
  | rename source target =>
      cases found : t.column? source with
      | none =>
          have still : t.play (.rename source target) = t := by
            rw [play, renameColumn?, found]
            rfl
          rw [still]
          refine ⟨differ, Eq.symm ?_⟩
          refine (List.map_congr_left fun entry member => if_neg ?_).trans (List.map_id _)
          obtain ⟨held, among, rfl⟩ := List.mem_map.mp member
          intro same
          have there := (lists.shown held).mp among
          rw [show held.1 = source from same, found] at there
          cases there
      | some c =>
          have next := lists.rename found allowed
          have moved : t.play (.rename source target) =
              { t with columns := (t.columns.erase source).insert target c } := by
            rw [play, renameColumn?, found]
            rfl
          rw [moved]
          refine ⟨next.positionsDiffer, next.listing_eq.trans ?_⟩
          rw [playOn, listing, List.map_map, List.map_map]
          refine List.map_congr_left fun entry _ => ?_
          simp only [Function.comp_apply, renamed]
          split <;> rfl

/-- So do steps that are allowed, one after the other. -/
theorem listing_playAll_eq {steps : List TableStep} (differ : t.PositionsDiffer)
    (allowed : t.AllowsAll steps) :
    (t.playAll steps).PositionsDiffer ∧ (t.playAll steps).listing = playAllOn t.listing steps := by
  induction steps generalizing t with
  | nil => exact ⟨differ, rfl⟩
  | cons step rest ih =>
      obtain ⟨first, later⟩ := allowed
      obtain ⟨apart, same⟩ := listing_play differ first
      obtain ⟨last, played⟩ := ih apart later
      refine ⟨last, played.trans ?_⟩
      rw [same]
      rfl

/-- The view of a table shows the plain list. -/
theorem columns_view (t : Table) (exposed : String) :
    (t.view exposed).columns = t.listing.map fun entry => (entry.2.name, entry.1) := by
  rw [listing, List.map_map]
  rfl

end Table

namespace TableStep

/-- On a plain list, the columns that stay come first and keep their order, and those that have been
added follow in the order of their steps. -/
theorem exists_survivors (list : List (String × Column)) (steps : List TableStep) :
    ∃ kept added, (playAllOn list steps).map (·.2) = kept ++ added ∧
      kept.Sublist (list.map (·.2)) ∧ added.Sublist (steps.filterMap added?) := by
  induction steps generalizing list with
  | nil => exact ⟨list.map (·.2), [], by simp [playAllOn], .refl _, .slnil⟩
  | cons step rest ih =>
      obtain ⟨kept, added, split, stays, follows⟩ := ih (playOn list step)
      have whole : (playAllOn list (step :: rest)).map (·.2) = kept ++ added := split
      cases step with
      | expose name c =>
          -- Of the columns that stay from now on, the last one may be the one that is added here.
          rw [playOn, List.map_append] at stays
          obtain ⟨old, new, rfl, before, here⟩ := List.sublist_append_iff.mp stays
          exact ⟨old, new ++ added, by rw [whole, List.append_assoc], before, here.append follows⟩
      | hide name => exact ⟨kept, added, whole, stays.trans (List.filter_sublist.map _), follows⟩
      | rename source target =>
          refine ⟨kept, added, whole, ?_, follows⟩
          have same : (playOn list (.rename source target)).map (·.2) = list.map (·.2) := by
            rw [playOn, List.map_map]
            exact List.map_congr_left fun entry _ => snd_renamed source target entry
          rwa [same] at stays

end TableStep

/-- On a table whose columns have different positions, steps that are allowed keep the positions
different and do just what they do to a plain list: a new column is appended, a hidden one is taken
out, a renamed one stays where it is. So in the view of the table the columns that stay come first,
in the order that they had. -/
theorem Table.listing_playAll (t : Table) (steps : List TableStep) (differ : t.PositionsDiffer)
    (allowed : t.AllowsAll steps) :
    (t.playAll steps).PositionsDiffer ∧
    (t.playAll steps).listing = TableStep.playAllOn t.listing steps ∧
    (∀ exposed, ((t.playAll steps).view exposed).columns =
      (TableStep.playAllOn t.listing steps).map fun entry => (entry.2.name, entry.1)) ∧
    ∃ kept added, (t.playAll steps).listing.map (·.2) = kept ++ added ∧
      kept.Sublist (t.listing.map (·.2)) ∧
      added.Sublist (steps.filterMap TableStep.added?) := by
  obtain ⟨apart, played⟩ := listing_playAll_eq differ allowed
  obtain ⟨kept, added, split, stays, follows⟩ := TableStep.exists_survivors t.listing steps
  refine ⟨apart, played, fun exposed => ?_, kept, added, ?_, stays, follows⟩
  · rw [columns_view, played]
  · rw [played, split]

/-- A table of users, with a gap in the positions and one that is negative. -/
def Table.gappedUsers : Table :=
  { Table.ofName "users" with
    columns := .ofList [("name", { Column.ofType "name" "text" with position := -1 }),
      ("id", { Column.ofType "id" "integer" with position := -3 })] }

/-- The steps of a migration that adds two columns, hides one and renames another. -/
def TableStep.reshaping : List TableStep :=
  [.expose "a" (.ofType "_pgshift_new_a" "text"), .rename "id" "key", .hide "name",
    .expose "b" (.ofType "_pgshift_new_b" "text")]

/-- The first column that is added to negative positions gets the position zero, and keeps it. -/
theorem Table.listing_gappedUsers :
    Table.gappedUsers.PositionsDiffer ∧ Table.gappedUsers.AllowsAll TableStep.reshaping ∧
      (Table.gappedUsers.playAll TableStep.reshaping).listing.map (·.1) = ["key", "a", "b"] := by
  have differ : Table.gappedUsers.PositionsDiffer := by decide
  have allowed : Table.gappedUsers.AllowsAll TableStep.reshaping := by decide
  refine ⟨differ, allowed, ?_⟩
  rw [(listing_playAll _ _ differ allowed).2.1]
  rfl

end ExpandContract
