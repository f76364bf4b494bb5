import ExpandContract.Proofs.Session.Plan

/-!
# What a success has changed

The changes of a start depend on texts of the user and on the snapshot, so they are no list that
is fixed beforehand. `Procedure.Achieves` describes the changes that have been accepted, in their
order, together with the value that the procedure gives. Nothing is said about a procedure that
fails. The description is put together along the procedure: what follows is looked at for the
changes and values that have been described so far.
-/

set_option autoImplicit false

namespace ExpandContract.Session.Procedure

open Sql (Change)

variable {α β : Type} {allowed : Request → Prop}

/-- Where the procedure succeeds, the changes that were accepted and the value are as described. -/
def Achieves (p : Procedure α) (described : List Change → α → Prop) : Prop :=
  ∀ notes value, p.Dialogue notes (.ok value) → described (acceptedChanges notes) value

namespace Achieves

variable {described : List Change → α → Prop}

theorem mono {p : Procedure α} {more : List Change → α → Prop} (achieves : p.Achieves described)
    (implies : ∀ changes value, described changes value → more changes value) : p.Achieves more :=
  fun notes value dialogue => implies _ _ (achieves notes value dialogue)

theorem done {value : α} (holds : described [] value) :
    (Procedure.done value).Achieves described := by
  rintro _ _ ⟨rfl, same⟩
  cases same
  exact holds

theorem fail (error : Error) : (Procedure.fail error : Procedure α).Achieves described := by
  rintro _ _ ⟨_, impossible⟩
  cases impossible

theorem bind {p : Procedure α} {f : α → Procedure β} {more : List Change → β → Prop}
    (first : p.Achieves described)
    (rest : ∀ changes value, described changes value →
      (f value).Achieves fun later result => more (changes ++ later) result) :
    (p.bind f).Achieves more := by
  intro notes last dialogue
  obtain ⟨before, after, value, rfl, began, follows⟩ := dialogue_bind_ok.mp dialogue
  rw [acceptedChanges_append]
  exact rest _ value (first before value began) after last follows

theorem change (statement : Change) :
    (Procedure.change statement).Achieves fun changes _ => changes = [statement] :=
  fun notes _ dialogue => (Follows.change statement).whole notes dialogue

/-- A procedure that asks for no change has none accepted. -/
theorem of_asksOnly {p : Procedure α} (asks : p.AsksOnly allowed)
    (none : ∀ statement, ¬allowed (.change statement)) :
    p.Achieves fun changes _ => changes = [] :=
  fun notes _ dialogue =>
    acceptedChanges_eq_nil fun statement reply member =>
      none statement (asks notes _ dialogue _ reply member)

/-- A procedure that asks for nothing has nothing accepted. -/
theorem of_silent {p : Procedure α} (asks : p.AsksOnly fun _ => False) :
    p.Achieves fun changes _ => changes = [] :=
  of_asksOnly asks fun _ => id

/-- A procedure has nothing accepted but what it asks for. -/
theorem of_asks {p : Procedure α} (asks : p.AsksOnly allowed) :
    p.Achieves fun changes _ => ∀ statement ∈ changes, allowed (.change statement) := by
  intro notes value dialogue statement member
  obtain ⟨answer, asked⟩ := mem_acceptedChanges.mp member
  exact asks notes _ dialogue _ _ asked

/-- What follows a procedure that asks for no change. -/
theorem after {p : Procedure α} {f : α → Procedure β} {more : List Change → β → Prop}
    (quiet : p.Achieves fun changes _ => changes = [])
    (rest : ∀ value, (f value).Achieves more) : (p.bind f).Achieves more :=
  quiet.bind fun _ value same => same ▸ rest value

/-- What is said of the value alone is up to what comes last. -/
theorem skip {p : Procedure α} {f : α → Procedure β} {good : β → Prop}
    (rest : ∀ value, (f value).Achieves fun _ result => good result) :
    (p.bind f).Achieves fun _ result => good result := by
  have any : p.Achieves fun _ _ => True := fun _ _ _ => trivial
  exact any.bind fun _ value _ => rest value

/-- A change that is accepted first. -/
theorem change_bind (statement : Change) (f : Unit → Procedure β) :
    ((Procedure.change statement).bind f).Achieves fun changes _ => changes ≠ [] := by
  have any (value : Unit) : (f value).Achieves fun _ _ => True := fun _ _ _ => trivial
  refine .bind (.change statement) ?_
  rintro _ value rfl
  exact (any value).mono fun _ _ _ => List.cons_ne_nil _ _

/-- A change that is accepted later. -/
theorem behind {p : Procedure α} {f : α → Procedure β}
    (rest : ∀ value, (f value).Achieves fun changes _ => changes ≠ []) :
    (p.bind f).Achieves fun changes _ => changes ≠ [] := by
  have any : p.Achieves fun _ _ => True := fun _ _ _ => trivial
  exact any.bind fun _ value _ =>
    (rest value).mono fun _ _ more => List.append_ne_nil_of_right_ne_nil _ more

end Achieves

end ExpandContract.Session.Procedure
