import ExpandContract.Schema.Basic
import ExpandContract.Sql.Change

/-!
# Clauses about the columns of a table

The changes of a migration alter the columns of a table by clauses: they add a column, rename one
or drop one. A clause may need a name that is taken, or a column that is missing.
`ColumnClause.replay?` carries out clauses in their order, as long as this is not the case, and
knows each column by the name under which it was there first, so that a column is told from
another one that has got its name.

A table may have more columns than are known, such as those that are still to be put in their place.
Where they are `Beside` the known ones, under names of their own, they are not in the way of clauses
about the others.
-/

set_option autoImplicit false

namespace ExpandContract

open Sql (Change)

/-! ## Clauses -/

/-- A clause about a column of a table. -/
inductive ColumnClause where
  | add (name : String)
  | rename (source target : String)
  | drop (name : String)
deriving DecidableEq, Repr

namespace ColumnClause

variable {columns next : NameMap String} {clause : ColumnClause} {first rest : List ColumnClause}

/-- The columns of a table after a clause: under the name of each, the name under which it was there
first. None if the clause needs a name that is taken, or a column that is missing. -/
def step? (columns : NameMap String) : ColumnClause → Option (NameMap String)
  | .add name =>
      match columns.find? name with
      | none => some (columns.insert name name)
      | some _ => none
  | .rename source target =>
      match columns.find? source, columns.find? target with
      | some origin, none => some ((columns.erase source).insert target origin)
      | _, _ => none
  | .drop name =>
      match columns.find? name with
      | some _ => some (columns.erase name)
      | none => none

/-- A column is added under a name that is free. -/
theorem step?_add_eq_some {name : String} :
    (add name).step? columns = some next ↔
      columns.find? name = none ∧ next = columns.insert name name := by
  unfold step?
  cases found : columns.find? name <;> simp [found, @eq_comm _ next]

/-- A column that is there is renamed to a name that is free. -/
theorem step?_rename_eq_some {source target : String} :
    (rename source target).step? columns = some next ↔
      ∃ origin, columns.find? source = some origin ∧ columns.find? target = none ∧
        next = (columns.erase source).insert target origin := by
  unfold step?
  cases there : columns.find? source <;> cases taken : columns.find? target <;>
    simp [there, taken, @eq_comm _ next]

/-- A column that is there is dropped. -/
theorem step?_drop_eq_some {name : String} :
    (drop name).step? columns = some next ↔
      columns.find? name ≠ none ∧ next = columns.erase name := by
  unfold step?
  cases found : columns.find? name <;> simp [found, @eq_comm _ next]

/-- The columns of a table after clauses, one after the other. -/
def replay? (columns : NameMap String) (clauses : List ColumnClause) : Option (NameMap String) :=
  clauses.foldlM step? columns

theorem replay?_cons (columns : NameMap String) (clause : ColumnClause)
    (rest : List ColumnClause) :
    replay? columns (clause :: rest) = (clause.step? columns).bind fun next => replay? next rest :=
  List.foldlM_cons

theorem replay?_singleton (columns : NameMap String) (clause : ColumnClause) :
    replay? columns [clause] = clause.step? columns := by
  rw [replay?_cons]
  exact Option.bind_fun_some _

theorem replay?_append (columns : NameMap String) (first rest : List ColumnClause) :
    replay? columns (first ++ rest) = (replay? columns first).bind fun next => replay? next rest :=
  List.foldlM_append

/-- Where clauses can be carried out, so can a beginning of them. -/
theorem exists_replay?_of_prefix (beginning : first <+: rest)
    (replayed : replay? columns rest = some next) :
    ∃ between, replay? columns first = some between := by
  obtain ⟨later, rfl⟩ := beginning
  rw [replay?_append] at replayed
  obtain ⟨between, replayed, _⟩ := Option.bind_eq_some_iff.mp replayed
  exact ⟨between, replayed⟩

/-- The names that the clause is about. -/
def names : ColumnClause → List String
  | .add name => [name]
  | .rename source target => [source, target]
  | .drop name => [name]

end ColumnClause

/-- The clauses of a change about the columns of a table. -/
def Sql.Change.clauses (table : String) : Change → List ColumnClause
  | .addColumn _ place column _ => if place = table then [.add column.name] else []
  | .renameColumn _ place source target => if place = table then [.rename source target] else []
  | .dropColumns _ place columns _ => if place = table then columns.map .drop else []
  | _ => []

/-! ## Columns beside others -/

/-- The columns are those that are known, and others of these names, which have not been renamed. -/
def Beside (names : List String) (known columns : NameMap String) : Prop :=
  ∀ name, columns.find? name = if name ∈ names then some name else known.find? name

namespace Beside

open ColumnClause

variable {known next columns : NameMap String} {names : List String} {name target : String}

theorem eq_of_nil (beside : Beside [] known columns) : columns = known :=
  NameMap.ext_find? fun name => by simp [beside name]

theorem find?_of_notMem (beside : Beside names known columns) (other : name ∉ names) :
    columns.find? name = known.find? name := by
  rw [beside name, if_neg other]

theorem insert {origin : String} (beside : Beside names known columns) (other : name ∉ names) :
    Beside names (known.insert name origin) (columns.insert name origin) := by
  intro place
  by_cases same : place = name
  · subst same
    simp [other]
  · rw [NameMap.find?_insert_of_ne _ same, NameMap.find?_insert_of_ne _ same, beside place]

theorem erase (beside : Beside names known columns) (other : name ∉ names) :
    Beside names (known.erase name) (columns.erase name) := by
  intro place
  by_cases same : place = name
  · subst same
    simp [other]
  · rw [NameMap.find?_erase_of_ne _ same, NameMap.find?_erase_of_ne _ same, beside place]

/-- A clause about known columns can be carried out beside others, and leaves them beside. -/
theorem step? {clause : ColumnClause} (beside : Beside names known columns)
    (others : ∀ name ∈ clause.names, name ∉ names) (applied : clause.step? known = some next) :
    ∃ result, clause.step? columns = some result ∧ Beside names next result := by
  cases clause with
  | add name =>
      have other := others name List.mem_cons_self
      obtain ⟨free, rfl⟩ := step?_add_eq_some.mp applied
      refine ⟨_, step?_add_eq_some.mpr ⟨?_, rfl⟩, beside.insert other⟩
      rwa [beside.find?_of_notMem other]
  | rename source target =>
      have otherSource := others source List.mem_cons_self
      have otherTarget := others target (List.mem_cons_of_mem _ (List.mem_singleton_self _))
      obtain ⟨origin, found, free, rfl⟩ := step?_rename_eq_some.mp applied
      refine ⟨_, step?_rename_eq_some.mpr ⟨origin, ?_, ?_, rfl⟩,
        (beside.erase otherSource).insert otherTarget⟩
      · rwa [beside.find?_of_notMem otherSource]
      · rwa [beside.find?_of_notMem otherTarget]
  | drop name =>
      have other := others name List.mem_cons_self
      obtain ⟨there, rfl⟩ := step?_drop_eq_some.mp applied
      refine ⟨_, step?_drop_eq_some.mpr ⟨?_, rfl⟩, beside.erase other⟩
      rwa [beside.find?_of_notMem other]

/-- New columns of different names are beside those that have been there. -/
theorem add_all (distinct : names.Nodup) (free : ∀ name ∈ names, known.find? name = none) :
    ∃ columns, replay? known (names.map .add) = some columns ∧ Beside names known columns := by
  induction names generalizing known with
  | nil => exact ⟨known, rfl, fun _ => rfl⟩
  | cons name rest ih =>
      obtain ⟨once, distinct⟩ := List.nodup_cons.mp distinct
      obtain ⟨freeNow, freeLater⟩ := List.forall_mem_cons.mp free
      have stillFree : ∀ later ∈ rest, (known.insert name name).find? later = none := by
        intro later member
        have other : later ≠ name := fun same => once (same ▸ member)
        rw [NameMap.find?_insert_of_ne _ other]
        exact freeLater later member
      obtain ⟨columns, replayed, beside⟩ := ih distinct stillFree
      refine ⟨columns, ?_, fun place => ?_⟩
      · rw [List.map_cons, replay?_cons, step?_add_eq_some.mpr ⟨freeNow, rfl⟩]
        exact replayed
      · rw [beside place]
        by_cases same : place = name
        · subst same
          simp [once]
        · simp [NameMap.find?_insert_of_ne _ same, same]

/-- The first of the others is put in its place, under a name that is free. -/
theorem put (beside : Beside (name :: names) known columns) (once : name ∉ names)
    (unknown : known.find? name = none) (free : known.find? target = none)
    (other : target ∉ name :: names) :
    ∃ result, ColumnClause.step? columns (.rename name target) = some result ∧
      Beside names (known.insert target name) result := by
  refine ⟨_, step?_rename_eq_some.mpr ⟨name, ?_, ?_, rfl⟩, ?_⟩
  · simp [beside name]
  · rwa [beside.find?_of_notMem other]
  · refine Beside.insert (fun place => ?_) fun member => other (List.mem_cons_of_mem _ member)
    by_cases same : place = name
    · subst same
      simp [once, unknown]
    · rw [NameMap.find?_erase_of_ne _ same, beside place]
      simp [same]

end Beside

end ExpandContract
