import ExpandContract.Proofs.Session.Asking

/-!
# Working through a list of changes

A rollback has a fixed list of changes to make and makes them one after the other, up to the first
that fails. `Procedure.Follows` says this of a procedure: it asks for nothing but the changes of the
list, the server has accepted a beginning of the list when it ends, and all of it when it succeeds.
-/

set_option autoImplicit false

namespace ExpandContract.Session

open Sql (Change)

/-! ## Accepted changes -/

/-- The change that was accepted, if the note is of one. -/
def Note.acceptedChange? : Note → Option Change
  | .asked (.change statement) (.ok _) => some statement
  | _ => none

/-- The changes that the server has accepted, in their order. -/
def acceptedChanges (notes : List Note) : List Change :=
  notes.filterMap Note.acceptedChange?

theorem acceptedChanges_append (first rest : List Note) :
    acceptedChanges (first ++ rest) = acceptedChanges first ++ acceptedChanges rest :=
  List.filterMap_append

theorem Note.acceptedChange?_eq_some {note : Note} {statement : Change} :
    note.acceptedChange? = some statement ↔
      ∃ answer, note = .asked (.change statement) (.ok answer) := by
  constructor
  · intro accepted
    unfold Note.acceptedChange? at accepted
    split at accepted
    · cases accepted
      exact ⟨_, rfl⟩
    · cases accepted
  · rintro ⟨answer, rfl⟩
    rfl

theorem mem_acceptedChanges {statement : Change} {notes : List Note} :
    statement ∈ acceptedChanges notes ↔
      ∃ answer, Note.asked (.change statement) (.ok answer) ∈ notes := by
  rw [acceptedChanges, List.mem_filterMap]
  constructor
  · rintro ⟨note, member, accepted⟩
    obtain ⟨answer, rfl⟩ := Note.acceptedChange?_eq_some.mp accepted
    exact ⟨answer, member⟩
  · rintro ⟨answer, member⟩
    exact ⟨_, member, rfl⟩

/-- Where no change is asked for, none is accepted. -/
theorem acceptedChanges_eq_nil {notes : List Note}
    (none : ∀ statement reply, Note.asked (.change statement) reply ∉ notes) :
    acceptedChanges notes = [] := by
  refine List.eq_nil_iff_forall_not_mem.mpr fun statement member => ?_
  obtain ⟨answer, asked⟩ := mem_acceptedChanges.mp member
  exact none statement _ asked

theorem Refusals.acceptedChanges_eq {request : Request} {notes : List Note}
    (refused : Refusals request notes) : acceptedChanges notes = [] := by
  refine List.eq_nil_iff_forall_not_mem.mpr fun statement member => ?_
  obtain ⟨answer, asked⟩ := mem_acceptedChanges.mp member
  obtain ⟨cause, same⟩ := refused _ asked
  cases same

/-! ## Plans -/

namespace Procedure

/-- The procedure works through the changes of a plan. -/
structure Follows (p : Procedure Unit) (plan : List Change) : Prop where
  asks : p.AsksOnly fun request => ∃ statement ∈ plan, request = .change statement
  prefixed : ∀ notes result, p.Dialogue notes result → acceptedChanges notes <+: plan
  whole : ∀ notes, p.Dialogue notes (.ok ()) → acceptedChanges notes = plan

namespace Follows

variable {p q : Procedure Unit} {plan later : List Change}

theorem done : (Procedure.done ()).Follows [] where
  asks := .done ()
  prefixed := by
    rintro notes result ⟨rfl, _⟩
    exact List.nil_prefix
  whole := by
    rintro notes ⟨rfl, _⟩
    rfl

/-- A procedure that fails at once follows every plan. -/
theorem fail (error : Error) : (Procedure.fail error).Follows plan where
  asks := .fail error
  prefixed := by
    rintro notes result ⟨rfl, _⟩
    exact List.nil_prefix
  whole := by
    rintro notes ⟨_, impossible⟩
    cases impossible

theorem change (statement : Change) : (Procedure.change statement).Follows [statement] where
  asks := .change ⟨statement, List.mem_singleton_self _, rfl⟩
  prefixed := by
    intro notes result dialogue
    rcases dialogue_change dialogue with ⟨refusals, answer, _, refused, rfl⟩ | ⟨_, _, refused⟩
    · rw [acceptedChanges_append, refused.acceptedChanges_eq]
      exact List.prefix_rfl
    · rw [refused.acceptedChanges_eq]
      exact List.nil_prefix
  whole := by
    intro notes dialogue
    rcases dialogue_change dialogue with ⟨refusals, answer, _, refused, rfl⟩ | ⟨_, impossible, _⟩
    · rw [acceptedChanges_append, refused.acceptedChanges_eq]
      rfl
    · cases impossible

theorem bind (first : p.Follows plan) (rest : q.Follows later) :
    (p.bind fun _ => q).Follows (plan ++ later) where
  asks := by
    refine .bind (first.asks.mono ?_) fun _ => rest.asks.mono ?_
    · rintro _ ⟨statement, member, rfl⟩
      exact ⟨statement, List.mem_append_left _ member, rfl⟩
    · rintro _ ⟨statement, member, rfl⟩
      exact ⟨statement, List.mem_append_right _ member, rfl⟩
  prefixed := by
    intro notes result dialogue
    rcases dialogue_bind.mp dialogue with ⟨before, after, _, rfl, done, follows⟩ | ⟨_, _, fails⟩
    · rw [acceptedChanges_append, first.whole before done]
      exact (List.prefix_append_right_inj plan).mpr (rest.prefixed after result follows)
    · exact (first.prefixed notes _ fails).trans (List.prefix_append plan later)
  whole := by
    intro notes dialogue
    obtain ⟨before, after, _, rfl, done, follows⟩ := dialogue_bind_ok.mp dialogue
    rw [acceptedChanges_append, first.whole before done, rest.whole after follows]

end Follows

end Procedure

end ExpandContract.Session
