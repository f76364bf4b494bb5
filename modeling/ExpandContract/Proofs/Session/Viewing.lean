import ExpandContract.Proofs.Session.Plan
import Mathlib.Data.List.Infix

/-!
# Accepted changes seen through a view

Often only a part of the accepted changes matters, such as what they do to one table. A view takes
this part from each change. A procedure realizes a plan in a view if what the view shows of the
accepted changes is a beginning of the plan when the procedure ends, and all of it when it succeeds
(`Procedure.Realizes`). Unlike `Procedure.Follows`, this allows for changes of which the view shows
nothing.

Nothing is said by this about a change that is refused. Where it matters which changes have been
made when one is asked for, whatever becomes of it, a procedure has to ask for the changes in the
order of the plan (`Procedure.AsksNext`).
-/

set_option autoImplicit false

namespace ExpandContract.Session

open Sql (Change)

variable {α β γ : Type} {view : Change → List γ}

/-- What a view shows of the changes that the server has accepted. -/
def viewed (view : Change → List γ) (notes : List Note) : List γ :=
  (acceptedChanges notes).flatMap view

theorem viewed_append (first rest : List Note) :
    viewed view (first ++ rest) = viewed view first ++ viewed view rest := by
  rw [viewed, acceptedChanges_append, List.flatMap_append]
  rfl

namespace Procedure

/-- What the view shows of the accepted changes is a beginning of the plan, or all of it. -/
structure Realizes (view : Change → List γ) (p : Procedure α) (plan : List γ) : Prop where
  prefixed : ∀ notes result, p.Dialogue notes result → viewed view notes <+: plan
  whole : ∀ notes value, p.Dialogue notes (.ok value) → viewed view notes = plan

/-- If the procedure succeeds, this holds of what the view shows of the accepted changes. -/
def Ensures (view : Change → List γ) (p : Procedure α) (holds : List γ → Prop) : Prop :=
  ∀ notes value, p.Dialogue notes (.ok value) → holds (viewed view notes)

namespace Realizes

variable {p : Procedure α} {plan later : List γ} {allowed : Request → Prop}

theorem ensures {holds : List γ → Prop} (realizes : p.Realizes view plan) (planned : holds plan) :
    p.Ensures view holds := by
  intro notes value dialogue
  rw [realizes.whole notes value dialogue]
  exact planned

/-- A procedure that asks for no change of which the view shows anything. -/
theorem spares (asks : p.AsksOnly allowed)
    (blind : ∀ statement, allowed (.change statement) → view statement = []) :
    p.Realizes view [] := by
  have nothing (notes : List Note) (result : Except Error α) (dialogue : p.Dialogue notes result) :
      viewed view notes = [] := by
    refine List.flatMap_eq_nil_iff.mpr fun statement accepted => ?_
    obtain ⟨answer, asked⟩ := mem_acceptedChanges.mp accepted
    exact blind statement (asks notes result dialogue _ _ asked)
  refine ⟨fun notes result dialogue => ?_, fun notes value => nothing notes (.ok value)⟩
  rw [nothing notes result dialogue]

/-- A procedure that asks for nothing. -/
theorem silent (asks : p.AsksOnly fun _ => False) : p.Realizes view [] :=
  spares asks fun _ => False.elim

/-- A procedure that works through changes realizes what the view shows of them. -/
theorem of_follows {p : Procedure Unit} {changes : List Change} (follows : p.Follows changes) :
    p.Realizes view (changes.flatMap view) where
  prefixed notes result dialogue := (follows.prefixed notes result dialogue).flatMap view
  whole notes _ dialogue := congrArg (List.flatMap view) (follows.whole notes dialogue)

theorem done (value : α) : (Procedure.done value).Realizes view [] :=
  silent (.done value)

theorem change (statement : Change) :
    (Procedure.change statement).Realizes view (view statement) := by
  have realizes : (Procedure.change statement).Realizes view ([statement].flatMap view) :=
    of_follows (.change statement)
  rwa [List.flatMap_singleton] at realizes

/-- A change of which the view shows nothing. -/
theorem unseen {statement : Change} (blind : view statement = []) :
    (Procedure.change statement).Realizes view [] := by
  rw [← blind]
  exact change statement

/-- What follows need only be looked at for the values that the procedure can have. -/
theorem bind_of {f : α → Procedure β} (first : p.Realizes view plan)
    (rest : ∀ notes value, p.Dialogue notes (.ok value) → (f value).Realizes view later) :
    (p.bind f).Realizes view (plan ++ later) where
  prefixed notes result dialogue := by
    rcases dialogue_bind.mp dialogue with ⟨before, after, value, rfl, done, follows⟩ | ⟨_, _, fails⟩
    · rw [viewed_append, first.whole before value done]
      exact (List.prefix_append_right_inj plan).mpr
        ((rest before value done).prefixed after result follows)
    · exact (first.prefixed notes _ fails).trans (List.prefix_append plan later)
  whole notes last dialogue := by
    obtain ⟨before, after, value, rfl, done, follows⟩ := dialogue_bind_ok.mp dialogue
    rw [viewed_append, first.whole before value done,
      (rest before value done).whole after last follows]

theorem bind {f : α → Procedure β} (first : p.Realizes view plan)
    (rest : ∀ value, (f value).Realizes view later) :
    (p.bind f).Realizes view (plan ++ later) :=
  first.bind_of fun _ value _ => rest value

/-- What follows a procedure of which the view shows nothing. -/
theorem after {f : α → Procedure β} (first : p.Realizes view [])
    (rest : ∀ value, (f value).Realizes view plan) : (p.bind f).Realizes view plan :=
  first.bind rest

/-- Nothing that the view shows follows the procedure. -/
theorem before {f : α → Procedure β} (first : p.Realizes view plan)
    (rest : ∀ value, (f value).Realizes view []) : (p.bind f).Realizes view plan := by
  rw [← List.append_nil plan]
  exact first.bind rest

end Realizes

/-! ## Changes in the order of a plan -/

/-- Whenever the procedure asks for a change of this kind, it is the next one of the plan after what
the view shows of the accepted changes. -/
def AsksNext (view : Change → List γ) (kind : Change → Prop) (p : Procedure α) (plan : List γ) :
    Prop :=
  ∀ notes result, p.Dialogue notes result → ∀ before statement reply after,
    notes = before ++ .asked (.change statement) reply :: after → kind statement →
      viewed view before ++ view statement <+: plan

/-- The request is for no change of this kind. -/
def NoneOf (kind : Change → Prop) (request : Request) : Prop :=
  ∀ statement, request = .change statement → ¬kind statement

namespace AsksNext

variable {p : Procedure α} {plan later : List γ} {kind : Change → Prop}

/-- A procedure that asks for no change of the kind. -/
theorem spares (asks : p.AsksOnly (NoneOf kind)) : p.AsksNext view kind plan := by
  rintro _ result dialogue before statement reply after rfl isKind
  exact absurd isKind (asks _ result dialogue _ reply (by simp) statement rfl)

theorem done (value : α) : (Procedure.done value).AsksNext view kind plan :=
  spares (.done value)

theorem change (statement : Change) :
    (Procedure.change statement).AsksNext view kind (view statement) := by
  intro notes result dialogue before other reply after split _
  have only : (Procedure.change statement).AsksOnly (· = .change statement) := .change rfl
  cases only notes result dialogue (.change other) reply (by simp [split])
  have behind {refusals : List Note} (refused : Refusals (.change statement) refusals)
      (within : before ⊆ refusals) : viewed view before = [] := by
    have earlier : Refusals (.change statement) before :=
      fun note member => refused note (within member)
    rw [viewed, earlier.acceptedChanges_eq]
    rfl
  have quiet : viewed view before = [] := by
    rcases dialogue_change dialogue with ⟨refusals, answer, _, refused, rfl⟩ | ⟨_, _, refused⟩
    · rcases split_around split with ⟨between, rfl, last⟩ | ⟨between, rfl, _⟩
      · cases between with
        | nil => exact behind refused (by simp)
        | cons note between => exact absurd (List.cons.inj last).2 (by simp)
      · exact behind refused (List.subset_append_left ..)
    · exact behind refused (split ▸ List.subset_append_left ..)
  rw [quiet]
  exact List.prefix_rfl

theorem bind_of {f : α → Procedure β} (first : p.AsksNext view kind plan)
    (realizes : p.Realizes view plan)
    (rest : ∀ notes value, p.Dialogue notes (.ok value) → (f value).AsksNext view kind later) :
    (p.bind f).AsksNext view kind (plan ++ later) := by
  intro notes result dialogue before statement reply after split isKind
  rcases dialogue_bind.mp dialogue with ⟨early, late, value, rfl, began, follows⟩ | ⟨_, _, fails⟩
  · rcases split_around split with ⟨between, rfl, same⟩ | ⟨between, rfl, _⟩
    · have next := rest early value began late result follows between statement reply after same
        isKind
      rw [viewed_append, realizes.whole early value began, List.append_assoc]
      exact (List.prefix_append_right_inj plan).mpr next
    · have next := first _ _ began before statement reply between rfl isKind
      exact next.trans (List.prefix_append plan later)
  · have next := first notes _ fails before statement reply after split isKind
    exact next.trans (List.prefix_append plan later)

theorem bind {f : α → Procedure β} (first : p.AsksNext view kind plan)
    (realizes : p.Realizes view plan) (rest : ∀ value, (f value).AsksNext view kind later) :
    (p.bind f).AsksNext view kind (plan ++ later) :=
  first.bind_of realizes fun _ value _ => rest value

/-- What follows a procedure that asks for nothing of the kind and of which the view
shows nothing. -/
theorem after {f : α → Procedure β} (asks : p.AsksOnly (NoneOf kind)) (quiet : p.Realizes view [])
    (rest : ∀ value, (f value).AsksNext view kind plan) : (p.bind f).AsksNext view kind plan :=
  bind (spares asks) quiet rest

/-- Nothing of the kind is asked for after the procedure. -/
theorem before {f : α → Procedure β} (first : p.AsksNext view kind plan)
    (rest : ∀ value, (f value).AsksOnly (NoneOf kind)) : (p.bind f).AsksNext view kind plan := by
  intro notes result dialogue before statement reply after split isKind
  rcases dialogue_bind.mp dialogue with ⟨early, late, value, rfl, began, follows⟩ | ⟨_, _, fails⟩
  · rcases split_around split with ⟨between, rfl, rfl⟩ | ⟨between, rfl, _⟩
    · exact absurd isKind (rest value _ result follows _ reply (by simp) statement rfl)
    · exact first _ _ began before statement reply between rfl isKind
  · exact first notes _ fails before statement reply after split isKind

theorem attempt (asks : p.AsksNext view kind plan) : p.attempt.AsksNext view kind plan := by
  intro notes result dialogue
  obtain ⟨outcome, _, inside⟩ := dialogue_attempt.mp dialogue
  exact asks notes outcome inside

end AsksNext

end Procedure

end ExpandContract.Session
