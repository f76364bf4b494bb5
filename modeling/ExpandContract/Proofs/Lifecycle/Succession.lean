import ExpandContract.Proofs.Lifecycle.LateTexts
import Mathlib.Data.Set.Function

/-!
# The succession of versions

At any time two versions of a schema are to be served at most: the latest that is complete, and the
one of the migration in progress (`Books.current`). The calls of the lifecycle hand the schema on
from one to the next, and what a call can make of the books is one of the few cases of
`Books.Passes`.

Two things are kept in every case. No other version is served (`Tidy`), and both are (`Whole`)
unless a text has been refused halfway through a rollback or a completion of the migration in
progress (`Sound`). The name under which a version is served follows from its migration, and
different migrations have different ones.
-/

set_option autoImplicit false

namespace ExpandContract

open Sql

/-- Whether the error tells that a text was refused while a migration was rolled back
or completed. -/
def Error.tellsOfRefusal : Error → Bool
  | .transform _ => true
  | .startNotUndone _ (.transform _) => true
  | _ => false

namespace Books

/-- The versions that are to be served: the latest that is complete, and the one in progress. -/
def current (b : Books) : List Migration :=
  b.completed.getLast?.toList ++ b.active.toList

section Passages

variable (v : Migration → String)

/-- The books with the version schema of the version before, or without it. -/
def withPrevious (b : Books) (there : Bool) : Books :=
  match b.previous with
  | none => b
  | some p => b.withVersion (v p) there

/-- The books when the migration in progress is rolled back. -/
def rolledBack (b : Books) (m : Migration) : Books :=
  ((b.withVersion (v m) false).withPrevious v true).erase

/-- The books when the migration in progress is completed. -/
def contracted (b : Books) (m : Migration) : Books :=
  let retired := b.withPrevious v false
  (if m.effectUnknown then retired.withVersion (v m) true else retired).finish m

/-- What a start that fails makes of the books: nothing, or it is recorded and rolled back, or the
rollback fails for a refused text. -/
inductive StartFails (t : Transformer) (b : Books) (m : Migration) : Error → Books → Prop where
  | unchanged (error : Error) : StartFails t b m error b
  | undone (error : Error) : StartFails t b m error ((b.withActive m).rolledBack v m)
  | stuck {cause : Error} {reason : String} (late : RefusesLate t m.operations) :
      StartFails t b m (.startNotUndone cause (.transform reason))
        ((b.withActive m).withVersion (v m) false)

/-- What the start of a migration that may be recorded makes of the books, with its outcome. -/
def StartEnds (t : Transformer) (b : Books) (m : Migration) {α : Type} :
    Except Error α → Books → Prop
  | .ok _, next => next = (b.withActive m).withVersion (v m) true
  | .error error, next => b.StartFails v t m error next

/-- What a call makes of the books, with its outcome. Only migrations of the pool are started. -/
inductive Passes (t : Transformer) (pool : Set Migration) (b : Books) {α : Type} :
    Except Error α → Books → Prop where
  | unchanged (error : Error) : Passes t pool b (.error error) b
  | start {outcome : Except Error α} {m : Migration} {next : Books} (known : m ∈ pool)
      (free : b.active = none) (fresh : m ∉ b.completed) (ends : b.StartEnds v t m outcome next) :
      Passes t pool b outcome next
  | rolledBack {value : α} {m : Migration} (active : b.active = some m) :
      Passes t pool b (.ok value) (b.rolledBack v m)
  | notRolledBack {reason : String} {m : Migration} (active : b.active = some m)
      (late : RefusesLate t m.operations) :
      Passes t pool b (.error (.transform reason)) (b.withVersion (v m) false)
  | completed {value : α} {m : Migration} (active : b.active = some m) :
      Passes t pool b (.ok value) (b.contracted v m)
  | notCompleted {reason : String} {m : Migration} (active : b.active = some m)
      (late : RefusesLate t m.operations) :
      Passes t pool b (.error (.transform reason)) (b.withPrevious v false)

end Passages

variable {v : Migration → String} {t : Transformer} {pool : Set Migration} {b next : Books}
  {m p : Migration} {name : String} {there : Bool}

/-! ## Small laws -/

@[simp]
theorem withVersion_withVersion {before : Bool} :
    (b.withVersion name before).withVersion name there = b.withVersion name there := by
  unfold withVersion
  simp only [Function.update_idem]

@[simp]
theorem withPrevious_completed : (b.withPrevious v there).completed = b.completed := by
  unfold withPrevious
  split <;> rfl

@[simp]
theorem withPrevious_active : (b.withPrevious v there).active = b.active := by
  unfold withPrevious
  split <;> rfl

theorem withPrevious_served_of_ne (other : ∀ p, b.previous = some p → name ≠ v p) :
    (b.withPrevious v there).served name = b.served name := by
  unfold withPrevious
  split
  · rfl
  · rename_i p previous
    exact Function.update_of_ne (other p previous) _ _

theorem withPrevious_served (previous : b.previous = some p) :
    (b.withPrevious v there).served (v p) = there := by
  unfold withPrevious
  rw [previous]
  exact Function.update_self ..

theorem mem_current : m ∈ b.current ↔ b.completed.getLast? = some m ∨ b.active = some m := by
  unfold current
  rw [List.mem_append, Option.mem_toList, Option.mem_toList]

/-! ## Books in order -/

/-- The recorded migrations are of the pool, the one in progress is not complete, and no version
schema is there but those that are to be served. -/
structure Tidy (v : Migration → String) (pool : Set Migration) (b : Books) : Prop where
  known : ∀ m ∈ b.recorded, m ∈ pool
  fresh : ∀ m, b.active = some m → m ∉ b.completed
  served : ∀ name, b.served name = true → ∃ m ∈ b.current, v m = name

/-- All versions that are to be served are served. -/
def Whole (v : Migration → String) (b : Books) : Prop :=
  ∀ m ∈ b.current, b.served (v m) = true

/-- The transformer refuses a late text of the migration in progress. -/
def Stuck (t : Transformer) (b : Books) : Prop :=
  ∃ m, b.active = some m ∧ RefusesLate t m.operations

/-- The version before is the only one of its name. -/
def Named (b : Books) : Prop :=
  ∀ p, b.previous = some p → b.recorded.find? (·.name = p.name) = some p

theorem tidy_empty : empty.Tidy v pool where
  known := by rintro m ⟨⟩
  fresh := by rintro m ⟨⟩
  served := by rintro name ⟨⟩

theorem whole_empty : empty.Whole v := by
  rintro m ⟨⟩

/-- Fewer version schemas are in order as well. -/
theorem Tidy.mono (tidy : b.Tidy v pool) (completed : next.completed = b.completed)
    (active : next.active = b.active)
    (fewer : ∀ name, next.served name = true → b.served name = true) : next.Tidy v pool where
  known := by
    unfold recorded
    rw [completed, active]
    exact tidy.known
  fresh := by
    rw [completed, active]
    exact tidy.fresh
  served := by
    intro name there
    obtain ⟨m, member, same⟩ := tidy.served name (fewer name there)
    refine ⟨m, mem_current.mpr ?_, same⟩
    rw [completed, active]
    exact mem_current.mp member

theorem named_of_known (known : ∀ m ∈ b.recorded, m ∈ pool)
    (distinct : Set.InjOn Migration.name pool) : b.Named := by
  intro p previous
  have among : p ∈ b.recorded := List.mem_of_mem_dropLast (List.mem_of_getLast? previous)
  cases found : b.recorded.find? (·.name = p.name) with
  | none => exact absurd (decide_eq_true rfl) (List.find?_eq_none.mp found p among)
  | some other =>
      have same : other.name = p.name := by simpa using List.find?_some found
      exact congrArg some (distinct (known other (List.mem_of_find?_eq_some found))
        (known p among) same)

theorem Tidy.known_withActive (tidy : b.Tidy v pool) (known : m ∈ pool) :
    ∀ other ∈ (b.withActive m).recorded, other ∈ pool := by
  intro other member
  rcases List.mem_append.mp member with early | late
  · exact tidy.known other (List.mem_append_left _ early)
  · cases List.mem_singleton.mp late
    exact known

theorem Tidy.withActive (tidy : b.Tidy v pool) (known : m ∈ pool) (free : b.active = none)
    (fresh : m ∉ b.completed) : (b.withActive m).Tidy v pool where
  known := tidy.known_withActive known
  fresh := by
    rintro _ ⟨⟩
    exact fresh
  served := by
    intro name there
    obtain ⟨p, member, same⟩ := tidy.served name there
    rcases mem_current.mp member with latest | active
    · exact ⟨p, mem_current.mpr (.inl latest), same⟩
    · rw [free] at active
      cases active

theorem Tidy.withoutVersion (tidy : b.Tidy v pool) :
    (b.withVersion name false).Tidy v pool := by
  refine tidy.mono rfl rfl fun other there => ?_
  by_cases same : other = name
  · rw [same, withVersion_served, Function.update_self] at there
    cases there
  · rwa [withVersion_served, Function.update_of_ne same] at there

theorem Tidy.withoutPrevious (tidy : b.Tidy v pool) : (b.withPrevious v false).Tidy v pool := by
  unfold withPrevious
  split
  · exact tidy
  · exact tidy.withoutVersion

/-! ## Starts -/

theorem Tidy.started (tidy : b.Tidy v pool) (known : m ∈ pool) (free : b.active = none)
    (fresh : m ∉ b.completed) : ((b.withActive m).withVersion (v m) true).Tidy v pool := by
  have recorded := tidy.withActive known free fresh
  refine ⟨recorded.known, recorded.fresh, fun name there => ?_⟩
  by_cases same : name = v m
  · exact ⟨m, mem_current.mpr (.inr rfl), same.symm⟩
  · rw [withVersion_served, Function.update_of_ne same] at there
    exact recorded.served name there

theorem Whole.started (whole : b.Whole v) : ((b.withActive m).withVersion (v m) true).Whole v := by
  intro p member
  by_cases same : v p = v m
  · rw [same, withVersion_served, Function.update_self]
  · rw [withVersion_served, Function.update_of_ne same]
    refine whole p (mem_current.mpr ?_)
    rcases mem_current.mp member with latest | active
    · exact .inl latest
    · cases active
      exact absurd rfl same

/-! ## Rollbacks -/

section Active

variable (active : b.active = some m)
include active

theorem rolledBack_previous :
    (b.withVersion (v m) false).previous = b.completed.getLast? :=
  previous_of_active active

/-- After a rollback the version before is served and no other, whatever was served before. -/
theorem Tidy.rolledBack (tidy : b.Tidy v pool) : (b.rolledBack v m).Tidy v pool where
  known := by
    intro p member
    refine tidy.known p (List.mem_append_left _ ?_)
    simpa [Books.rolledBack, erase, recorded] using member
  fresh := by rintro _ ⟨⟩
  served := by
    intro name there
    by_cases restored : ∃ p, b.completed.getLast? = some p ∧ name = v p
    · obtain ⟨p, latest, rfl⟩ := restored
      refine ⟨p, mem_current.mpr (.inl ?_), rfl⟩
      simpa [Books.rolledBack, erase] using latest
    · have other : ((b.withVersion (v m) false).withPrevious v true).served name =
          (b.withVersion (v m) false).served name := by
        refine withPrevious_served_of_ne fun p previous same => restored ⟨p, ?_, same⟩
        rwa [rolledBack_previous active] at previous
      have held : (b.withVersion (v m) false).served name = true := other.symm.trans there
      by_cases dropped : name = v m
      · rw [dropped, withVersion_served, Function.update_self] at held
        cases held
      · rw [withVersion_served, Function.update_of_ne dropped] at held
        obtain ⟨p, member, same⟩ := tidy.served name held
        rcases mem_current.mp member with latest | inProgress
        · exact absurd ⟨p, latest, same.symm⟩ restored
        · cases active.symm.trans inProgress
          exact absurd same.symm dropped

theorem whole_rolledBack : (b.rolledBack v m).Whole v := by
  intro p member
  have latest : b.completed.getLast? = some p := by
    rcases mem_current.mp member with latest | impossible
    · simpa [Books.rolledBack, erase] using latest
    · cases impossible
  exact withPrevious_served ((rolledBack_previous active).trans latest)

/-! ## Completions -/

/-- Where different migrations have different version schemas, the version schema that a completion
drops is not its own. -/
theorem ne_previous (tidy : b.Tidy v pool) (distinct : Set.InjOn v pool)
    (previous : b.previous = some p) :
    v m ≠ v p := by
  rw [previous_of_active active] at previous
  have among : p ∈ b.completed := List.mem_of_getLast? previous
  intro same
  have one : m = p := distinct (tidy.known m (by simp [recorded, active]))
    (tidy.known p (List.mem_append_left _ among)) same
  exact tidy.fresh m active (one ▸ among)

omit active in
theorem contracted_completed : (b.contracted v m).completed = b.completed ++ [m] := by
  unfold contracted finish
  cases m.effectUnknown <;> simp

omit active in
theorem mem_current_contracted : p ∈ (b.contracted v m).current ↔ p = m := by
  have ended : (b.contracted v m).active = none := rfl
  rw [mem_current, contracted_completed, ended, List.getLast?_concat]
  simp [eq_comm]

omit active in
/-- A completion leaves its own version schema as it is, or makes it, and leaves all others. -/
theorem contracted_served_of_ne (other : name ≠ v m) :
    (b.contracted v m).served name = (b.withPrevious v false).served name := by
  unfold contracted finish
  cases m.effectUnknown with
  | false => rfl
  | true => exact Function.update_of_ne other _ _

/-- After a completion no other version is served than the one that is now complete. -/
theorem Tidy.contracted (tidy : b.Tidy v pool) : (b.contracted v m).Tidy v pool where
  known := by
    intro p member
    refine tidy.known p ?_
    have ended : (b.contracted v m).active = none := rfl
    rw [recorded, contracted_completed, ended] at member
    rw [recorded, active]
    simpa using member
  fresh := by rintro _ ⟨⟩
  served := by
    intro name there
    refine ⟨m, mem_current_contracted.mpr rfl, ?_⟩
    by_contra other
    rw [contracted_served_of_ne fun same => other same.symm] at there
    obtain ⟨p, member, rfl⟩ := tidy.withoutPrevious.served name there
    rw [mem_current, withPrevious_completed, withPrevious_active,
      ← previous_of_active active] at member
    rcases member with previous | inProgress
    · rw [withPrevious_served previous] at there
      cases there
    · cases active.symm.trans inProgress
      exact other rfl

/-- After a completion the version that is now complete is served: it was served before, or its
effect is unknown and it has been made anew. -/
theorem whole_contracted (tidy : b.Tidy v pool) (distinct : Set.InjOn v pool)
    (sound : b.Whole v ∨ m.effectUnknown = true) : (b.contracted v m).Whole v := by
  intro p member
  rw [mem_current_contracted.mp member]
  unfold Books.contracted finish
  cases unknown : m.effectUnknown with
  | true => exact Function.update_self ..
  | false =>
      rw [unknown] at sound
      have whole := sound.resolve_right Bool.false_ne_true
      refine (withPrevious_served_of_ne fun p previous => ?_).trans
        (whole m (mem_current.mpr (.inr active)))
      exact ne_previous active tidy distinct previous

end Active

/-! ## Any call -/

/-- The books are in order, and all versions that are to be served are served; unless what is given
holds, and then the migration in progress has a late text that is refused. -/
structure Sound (v : Migration → String) (t : Transformer) (pool : Set Migration)
    (spoiled : Prop) (b : Books) : Prop where
  tidy : b.Tidy v pool
  served : b.Whole v ∨ spoiled ∧ b.Stuck t

variable {spoiled more : Prop}

theorem Sound.mono (sound : b.Sound v t pool spoiled) (implies : spoiled → more) :
    b.Sound v t pool more :=
  ⟨sound.tidy, sound.served.imp_right fun ⟨holds, stuck⟩ => ⟨implies holds, stuck⟩⟩

theorem sound_empty : empty.Sound v t pool spoiled :=
  ⟨tidy_empty, .inl whole_empty⟩

/-- Where no migration is in progress, all versions that are to be served are served. -/
theorem Sound.whole_of_free (sound : b.Sound v t pool spoiled) (free : b.active = none) :
    b.Whole v := by
  refine sound.served.resolve_right ?_
  rintro ⟨_, m, active, _⟩
  cases free.symm.trans active

theorem StartEnds.sound {α : Type} {outcome : Except Error α}
    (ends : b.StartEnds v t m outcome next) (sound : b.Sound v t pool spoiled) (known : m ∈ pool)
    (free : b.active = none) (fresh : m ∉ b.completed) :
    next.Sound v t pool
      (spoiled ∨ ∃ error, outcome = .error error ∧ error.tellsOfRefusal = true) := by
  have recorded := sound.tidy.withActive known free fresh
  cases outcome with
  | ok value =>
      rw [ends]
      exact ⟨sound.tidy.started known free fresh, .inl (sound.whole_of_free free).started⟩
  | error error =>
      cases ends with
      | unchanged => exact sound.mono .inl
      | undone => exact ⟨recorded.rolledBack rfl, .inl (whole_rolledBack rfl)⟩
      | stuck late => exact ⟨recorded.withoutVersion, .inr ⟨.inr ⟨_, rfl, rfl⟩, m, rfl, late⟩⟩

/-- A call that is refused leaves the books. -/
theorem Passes.of_refused {α : Type} {outcome : Except Error α}
    (refused : (∃ error, outcome = .error error) ∧ next = b) : b.Passes v t pool outcome next := by
  obtain ⟨⟨error, rfl⟩, rfl⟩ := refused
  exact .unchanged error

/-- Sound books stay sound in every call, and they are not spoiled but by a refused text. -/
theorem Passes.sound {α : Type} {outcome : Except Error α}
    (passes : b.Passes v t pool outcome next) (sound : b.Sound v t pool spoiled)
    (distinct : Set.InjOn v pool) :
    next.Sound v t pool
      (spoiled ∨ ∃ error, outcome = .error error ∧ error.tellsOfRefusal = true) := by
  have tidy := sound.tidy
  cases passes with
  | unchanged error => exact sound.mono .inl
  | start known free fresh ends => exact ends.sound sound known free fresh
  | rolledBack active => exact ⟨tidy.rolledBack active, .inl (whole_rolledBack active)⟩
  | notRolledBack active late =>
      exact ⟨tidy.withoutVersion, .inr ⟨.inr ⟨_, rfl, rfl⟩, _, active, late⟩⟩
  | completed active =>
      refine ⟨tidy.contracted active, .inl (whole_contracted active tidy distinct ?_)⟩
      refine sound.served.imp_right ?_
      rintro ⟨_, m, same, late⟩
      cases active.symm.trans same
      exact late.effectUnknown
  | notCompleted active late =>
      refine ⟨tidy.withoutPrevious, .inr ⟨.inr ⟨_, rfl, rfl⟩, _, ?_, late⟩⟩
      rw [withPrevious_active, active]

end Books

end ExpandContract
