import ExpandContract.Proofs.Ledger.Requests

/-!
# Where an entry stands

The ledger has an entry of a migration or none, and an entry is in progress or complete. Which of
these it is after a session follows from the accepted queries that write the ledger: an entry is
made when it is inserted, and it is completed or erased only where the answer has a row, because a
query without a row has found no entry to write. `standingAfter` reads this off the notes.

The ledger is one of tables, and SQL of the user might write there too. It is taken not to.
-/

set_option autoImplicit false

namespace ExpandContract

open Session Procedure

/-! ## Writing the ledger -/

/-- The request writes a ledger. -/
def Session.Request.WritesLedger (request : Request) : Prop :=
  ∃ stateSchema, ∃ query : Ledger.Query,
    query.isRead = false ∧ request = .ledger stateSchema query

/-- The request writes no ledger. -/
def Session.SparesLedger (request : Request) : Prop :=
  ¬request.WritesLedger

theorem Session.sparesLedger_change (statement : Sql.Change) :
    SparesLedger (.change statement) := by
  rintro ⟨_, _, _, ⟨⟩⟩

theorem Session.sparesLedger_of_reads {l : Ledger} {request : Request} (reads : l.Reads request) :
    SparesLedger request := by
  obtain ⟨query, isRead, rfl⟩ := reads
  rintro ⟨_, _, writes, ⟨⟩⟩
  rw [isRead] at writes
  cases writes

namespace Ledger

/-- Where the entry of a migration stands. -/
inductive Standing where
  | absent
  | inProgress
  | complete
deriving DecidableEq, Repr

namespace Query

variable {schema name : String}

/-- Where an accepted query puts the entry of that name, if it is about the entry; `found` tells
whether the answer has a row. -/
def standing? (schema name : String) (found : Bool) : Query → Option Standing
  | .insertMigration s n _ => if s = schema ∧ n = name then some .inProgress else none
  | .insertBaseline s n _ => if s = schema ∧ n = name then some .complete else none
  | .markDone s n => if found ∧ s = schema ∧ n = name then some .complete else none
  | .erase s n => if found ∧ s = schema ∧ n = name then some .absent else none
  | _ => none

theorem standing?_of_isRead {query : Query} {found : Bool} (isRead : query.isRead = true) :
    query.standing? schema name found = none := by
  cases query with
  | insertMigration => cases isRead
  | insertBaseline => cases isRead
  | markDone => cases isRead
  | erase => cases isRead
  | _ => rfl

end Query

variable {l : Ledger} {schema name : String} {standing : Standing}

/-- Where a note puts the entry of that name, if it is about the entry. -/
def standing? (l : Ledger) (schema name : String) : Note → Option Standing
  | .asked (.ledger stateSchema query) (.ok answer) =>
      if stateSchema = l.stateSchema then
        query.standing? schema name (answer.rows.isEmpty = false)
      else none
  | _ => none

/-- Where the entry of that name stands after a session in which it first stood somewhere. -/
def standingAfter (l : Ledger) (schema name : String) : Standing → List Note → Standing :=
  List.foldl fun standing note => (l.standing? schema name note).getD standing

theorem standingAfter_append (first rest : List Note) :
    l.standingAfter schema name standing (first ++ rest) =
      l.standingAfter schema name (l.standingAfter schema name standing first) rest :=
  List.foldl_append

/-- Notes that are not about an entry leave it as it stands. -/
theorem standingAfter_of_none {notes : List Note}
    (others : ∀ note ∈ notes, l.standing? schema name note = none) :
    l.standingAfter schema name standing notes = standing := by
  induction notes generalizing standing with
  | nil => rfl
  | cons note rest ih =>
      have same : l.standingAfter schema name standing (note :: rest) =
          l.standingAfter schema name ((l.standing? schema name note).getD standing) rest := rfl
      rw [same, others note List.mem_cons_self]
      exact ih fun other member => others other (List.mem_cons_of_mem _ member)

/-- Only what writes the ledger moves an entry. -/
theorem standing?_of_spares {request : Request} {reply : Except ServerError Answer}
    (spares : SparesLedger request) : l.standing? schema name (.asked request reply) = none := by
  cases request with
  | ledger stateSchema query =>
      cases reply with
      | error cause => rfl
      | ok answer =>
          have isRead : query.isRead = true :=
            Bool.of_not_eq_false fun writes => spares ⟨stateSchema, query, writes, rfl⟩
          simp only [standing?, Query.standing?_of_isRead isRead, ite_self]
  | _ => rfl

theorem standingAfter_of_spares {notes : List Note} (asked : AskedOnly SparesLedger notes) :
    l.standingAfter schema name standing notes = standing := by
  refine standingAfter_of_none fun note member => ?_
  cases note with
  | asked request reply => exact standing?_of_spares (asked request reply member)
  | seen sight => rfl

/-- A refused request moves no entry. -/
theorem standingAfter_of_refusals {request : Request} {notes : List Note}
    (refused : Refusals request notes) : l.standingAfter schema name standing notes = standing := by
  refine standingAfter_of_none fun note member => ?_
  obtain ⟨cause, rfl⟩ := refused note member
  cases request <;> rfl

end Ledger

end ExpandContract
