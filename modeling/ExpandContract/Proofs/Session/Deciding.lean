import ExpandContract.Proofs.Ledger.Queries
import ExpandContract.Proofs.Session.Heeding

/-!
# Successes that show in the notes

Where notes begin with a success of a procedure, one would say that what follows is the work of
whatever comes after the procedure. This is so for a procedure that is `Decisive`, such as a request
with a reader of its answer: the first answer ends it, and whether it is a success can be read from
the answer. It is not so in general, because the same notes can be a whole success of a procedure
that catches its failures and the beginning of another one.

What follows a decisive procedure can therefore be told from the notes alone, wherever in them the
procedure ends.
-/

set_option autoImplicit false

namespace ExpandContract.Session

variable {α β : Type}

/-! ## Notes of nothing but requests -/

namespace AsksAlone

variable {allowed more : Request → Prop} {first rest notes : List Note}

theorem append (early : AsksAlone allowed first) (late : AsksAlone allowed rest) :
    AsksAlone allowed (first ++ rest) :=
  List.forall_mem_append.mpr ⟨early, late⟩

theorem mono (asks : AsksAlone allowed notes)
    (implies : ∀ request, allowed request → more request) :
    AsksAlone more notes := by
  intro note member
  obtain ⟨request, reply, same, kind⟩ := asks note member
  exact ⟨request, reply, same, implies request kind⟩

end AsksAlone

/-- The procedure does nothing but make requests of an allowed kind. -/
def Procedure.AsksSolely (p : Procedure α) (allowed : Request → Prop) : Prop :=
  ∀ notes outcome, p.Dialogue notes outcome → AsksAlone allowed notes

namespace Procedure.AsksSolely

variable {allowed more : Request → Prop}

theorem mono {p : Procedure α} (asks : p.AsksSolely allowed)
    (implies : ∀ request, allowed request → more request) : p.AsksSolely more :=
  fun notes outcome dialogue => (asks notes outcome dialogue).mono implies

theorem done (value : α) : (Procedure.done value).AsksSolely allowed :=
  (Heeds.done value).asks

theorem fail (error : Error) : (Procedure.fail error : Procedure α).AsksSolely allowed :=
  (Heeds.fail error).asks

theorem bind {p : Procedure α} {f : α → Procedure β} (first : p.AsksSolely allowed)
    (rest : ∀ value, (f value).AsksSolely allowed) : (p.bind f).AsksSolely allowed := by
  intro notes outcome dialogue
  rcases dialogue_bind.mp dialogue with ⟨early, late, value, rfl, began, follows⟩ | ⟨_, _, fails⟩
  · exact (first early _ began).append (rest value late outcome follows)
  · exact first notes _ fails

theorem attempt {p : Procedure α} (asks : p.AsksSolely allowed) :
    p.attempt.AsksSolely allowed := by
  intro notes outcome dialogue
  obtain ⟨inner, _, inside⟩ := dialogue_attempt.mp dialogue
  exact asks notes inner inside

end Procedure.AsksSolely

/-- The first answer to a request stands at one place of the notes only. -/
theorem Refusals.split_unique {request : Request} {refusals others rest more : List Note}
    {answer other : Answer} (refused : Refusals request refusals)
    (otherwise : Refusals request others)
    (same : refusals ++ .asked request (.ok answer) :: rest =
      others ++ .asked request (.ok other) :: more) :
    refusals = others ∧ answer = other ∧ rest = more := by
  induction refusals generalizing others with
  | nil =>
      cases others with
      | nil =>
          cases same
          exact ⟨rfl, rfl, rfl⟩
      | cons note others =>
          obtain ⟨cause, rfl⟩ := otherwise note List.mem_cons_self
          cases (List.cons.inj same).1
  | cons note refusals ih =>
      obtain ⟨cause, rfl⟩ := refused note List.mem_cons_self
      cases others with
      | nil => cases (List.cons.inj same).1
      | cons note others =>
          obtain ⟨here, below⟩ := List.cons.inj same
          cases here
          obtain ⟨rfl, rfl, rfl⟩ := ih (List.forall_mem_cons.mp refused).2
            (List.forall_mem_cons.mp otherwise).2 below
          exact ⟨rfl, rfl, rfl⟩

namespace Procedure

/-! ## Decisive procedures -/

/-- Where notes begin with a success of the procedure, the rest of them is what follows that
success. -/
def Decisive (p : Procedure α) : Prop :=
  ∀ (β : Type) (f : α → Procedure β) (first rest : List Note) (value : α)
    (outcome : Except Error β),
    p.Dialogue first (.ok value) → (p.bind f).Dialogue (first ++ rest) outcome →
      (f value).Dialogue rest outcome

namespace Decisive

theorem done (value : α) : (Procedure.done value).Decisive := by
  rintro β f first rest _ outcome ⟨rfl, same⟩ follows
  cases same
  exact follows

theorem ofExcept (value : Except Error α) : (Procedure.ofExcept value).Decisive := by
  cases value with
  | ok value => exact done value
  | error error =>
      rintro β f first rest value outcome ⟨_, impossible⟩
      cases impossible

theorem bind {p : Procedure α} {g : α → Procedure β} (first : p.Decisive)
    (rest : ∀ value, (g value).Decisive) : (p.bind g).Decisive := by
  intro γ f whole after last outcome ended follows
  obtain ⟨early, late, value, rfl, began, ends⟩ := dialogue_bind_ok.mp ended
  rw [bind_assoc, List.append_assoc] at follows
  exact rest value γ f late after last outcome ends
    (first γ _ early (late ++ after) value outcome began follows)

/-- A procedure that succeeds with the first answer to a request, and fails if that answer is
read as a failure. -/
theorem of_answered {p : Procedure α} {request : Request} {read : Answer → Except Error α}
    (succeeds : ∀ notes value, p.Dialogue notes (.ok value) → ∃ refusals answer,
      read answer = .ok value ∧ Refusals request refusals ∧
        notes = refusals ++ [.asked request (.ok answer)])
    (fails : ∀ notes error answer, p.Dialogue notes (.error error) →
      .asked request (.ok answer) ∈ notes → read answer = .error error) : p.Decisive := by
  intro β f first rest value outcome ended follows
  obtain ⟨refusals, answer, isValue, refused, rfl⟩ := succeeds first value ended
  rcases dialogue_bind.mp follows with
    ⟨other, more, found, split, done, goes⟩ | ⟨error, rfl, failed⟩
  · obtain ⟨others, reply, isFound, otherwise, rfl⟩ := succeeds other found done
    simp only [List.append_assoc, List.singleton_append] at split
    obtain ⟨rfl, rfl, rfl⟩ := refused.split_unique otherwise split
    cases isValue.symm.trans isFound
    exact goes
  · cases isValue.symm.trans (fails _ error answer failed (by simp))

theorem ask (request : Request) (read : Answer → Except Error α) :
    (Procedure.ask request read).Decisive := by
  refine of_answered (fun _ _ => dialogue_ask_ok) ?_
  intro notes error answer failed member
  rcases dialogue_ask failed with ⟨refusals, last, same, refused, rfl⟩ | ⟨_, refused⟩
  · obtain ⟨_, rfl⟩ := refused.eq_of_answered member
    exact same.symm
  · obtain ⟨_, impossible⟩ := refused _ member
    cases impossible

end Decisive

end Procedure

end ExpandContract.Session
