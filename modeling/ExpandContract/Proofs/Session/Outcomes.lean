import ExpandContract.Proofs.Session.Asking

/-!
# Outcomes

`Procedure.ComesTo` describes the value of a procedure that succeeds, and the error of one that
fails. Nothing is said about what is asked meanwhile. There is one rule for each way to build a
procedure, and the rule for loops asks for an invariant of the states between two rounds.

The requests themselves fail in two ways only: the session is cancelled, or the database gives no
usable answer (`Error.FromSession`).
-/

set_option autoImplicit false

namespace ExpandContract

/-- The error is about the session or the database, and not about what was asked for. -/
def Error.FromSession (error : Error) : Prop :=
  error = .cancelled ∨ ∃ cause, error = .database cause

namespace Session.Procedure

variable {α β τ : Type} {good : α → Prop} {kind : Error → Prop}

/-- The outcome is as described, whether the procedure succeeds or fails. -/
def Described (good : α → Prop) (kind : Error → Prop) : Except Error α → Prop
  | .ok value => good value
  | .error error => kind error

theorem Described.bind {more : β → Prop} {first : Except Error α} {f : α → Except Error β}
    (described : Described good kind first)
    (rest : ∀ value, good value → Described more kind (f value)) :
    Described more kind (first >>= f) := by
  cases first with
  | ok value => exact rest value described
  | error error => exact described

/-- Where the procedure succeeds its value is good, and where it fails its error is of a kind. -/
def ComesTo (p : Procedure α) (good : α → Prop) (kind : Error → Prop) : Prop :=
  ∀ notes outcome, p.Dialogue notes outcome → Described good kind outcome

namespace ComesTo

theorem done {value : α} (holds : good value) : (Procedure.done value).ComesTo good kind := by
  rintro _ _ ⟨_, rfl⟩
  exact holds

theorem fail {error : Error} (isKind : kind error) :
    (Procedure.fail error : Procedure α).ComesTo good kind := by
  rintro _ _ ⟨_, rfl⟩
  exact isKind

theorem ofExcept {value : Except Error α} (holds : Described good kind value) :
    (Procedure.ofExcept value).ComesTo good kind := by
  intro notes outcome dialogue
  rw [(dialogue_ofExcept.mp dialogue).2]
  exact holds

theorem bind {p : Procedure α} {f : α → Procedure β} {more : β → Prop} (first : p.ComesTo good kind)
    (rest : ∀ value, good value → (f value).ComesTo more kind) : (p.bind f).ComesTo more kind := by
  intro notes outcome dialogue
  rcases dialogue_bind.mp dialogue with ⟨before, after, value, _, began, follows⟩ |
    ⟨error, rfl, fails⟩
  · exact rest value (first before _ began) after outcome follows
  · exact first notes _ fails

theorem fetch? {request : Request} :
    (Procedure.fetch? request).ComesTo (fun _ => True) Error.FromSession := by
  intro notes outcome dialogue
  rcases dialogue_fetch? dialogue with ⟨_, _, rfl, _⟩ | ⟨_, rfl, _, rfl | ⟨cause, rfl⟩⟩
  · trivial
  · exact .inl rfl
  · exact .inr ⟨_, rfl⟩

theorem wait (delay : Time.Pause) :
    (Procedure.wait delay).ComesTo (fun _ => True) Error.FromSession := by
  intro notes outcome dialogue
  rcases dialogue with passed | cancelled
  · rw [(dialogue_ofExcept.mp passed).2]
    trivial
  · rw [(dialogue_ofExcept.mp cancelled).2]
    exact .inl rfl

theorem emit (sight : Sight) : (Procedure.emit sight).ComesTo (fun _ => True) kind := by
  rintro _ _ ⟨_, _, _, rfl⟩
  trivial

/-- A transaction comes to what its body comes to, or it cannot begin or end. -/
theorem inTransaction {body : Transaction α}
    (inside : ∀ notes outcome, body.Dialogue notes outcome →
      Described good Error.FromSession outcome) :
    (Procedure.inTransaction body).ComesTo good Error.FromSession := by
  have once {notes : List Note} {outcome : Except Error α}
      (attempt : TransactedInSome (fun _ => body) notes outcome) :
      Described good Error.FromSession outcome := by
    obtain ⟨_, attempt⟩ := attempt
    cases attempt with
    | notBegun cause => exact .inr ⟨_, rfl⟩
    | committed begun committed within => exact inside _ _ within
    | notCommitted begun cause within => exact .inr ⟨_, rfl⟩
    | rolledBack begun outcome within => exact inside _ _ within
  rintro notes outcome ⟨_, _, result, rfl, repeats, follows⟩
  rw [(dialogue_ofExcept.mp follows).2]
  clear follows
  induction repeats with
  | cancelled => exact .inl rfl
  | value attempt => exact once attempt
  | failure attempt _ => exact once attempt
  | again _ _ _ ih => exact ih

/-- An invariant that every round keeps holds until the loop comes to its result. -/
theorem loop {step : τ → Procedure (τ ⊕ β)} {invariant : τ → Prop} {good : β → Prop}
    (kept : ∀ state, invariant state → (step state).ComesTo (Sum.elim invariant good) kind)
    {state : τ} (begins : invariant state) : (Procedure.loop step state).ComesTo good kind := by
  rintro notes outcome ⟨_, _, result, rfl, rounds, follows⟩
  rw [(dialogue_ofExcept.mp follows).2]
  clear follows
  induction rounds with
  | last ends => exact kept _ begins _ _ ends
  | broken fails => exact kept _ begins _ _ fails
  | more goesOn _ ih => exact ih (kept _ begins _ _ goesOn)

end ComesTo

end Session.Procedure

/-- A cell that cannot be read is a failure of the database. -/
theorem Session.Row.described_value {α : Type} {row : Session.Row} {place : Nat}
    {column : ColumnRef}
    {read : Json → Option α} :
    Session.Procedure.Described (fun _ => True) Error.FromSession
      (row.value place column read) := by
  unfold Row.value
  split
  · trivial
  · exact .inr ⟨_, rfl⟩

theorem Session.Row.described_value? {α : Type} {row : Session.Row} {place : Nat}
    {column : ColumnRef} {read : Json → Option α} :
    Session.Procedure.Described (fun _ => True) Error.FromSession
      (row.value? place column read) := by
  unfold Row.value?
  split
  · trivial
  · split
    · trivial
    · exact .inr ⟨_, rfl⟩

end ExpandContract
