import ExpandContract.Proofs.Ledger.Requests

/-!
# Calls that are one query

Most calls to the ledger make one query and read the answer. `Procedure.ask` is a query with a
reader of its answer, and each of these calls is one (`isActive_eq`, `activeMigration_eq` and so
on). What such a call gives is then what its reader makes of the one answer (`dialogue_ask`).
-/

set_option autoImplicit false

namespace ExpandContract

open Session Procedure

/-! ## Queries with a reader -/

namespace Session.Procedure

variable {α : Type} {request : Request} {read : Answer → Except Error α} {notes : List Note}
  {outcome : Except Error α}

/-- Makes a request, and reads its answer. -/
def ask (request : Request) (read : Answer → Except Error α) : Procedure α :=
  .send request fun outcome => ofExcept (outcome.bind read)

/-- The outcome is what the one answer is read as, and without an answer the call fails. -/
theorem dialogue_ask (dialogue : (ask request read).Dialogue notes outcome) :
    (∃ refusals answer, outcome = read answer ∧ Refusals request refusals ∧
      notes = refusals ++ [.asked request (.ok answer)]) ∨
    (∃ error, outcome = .error error) ∧ Refusals request notes := by
  obtain ⟨given, rfl, repeated⟩ := dialogue_send dialogue
  rcases repeated_sent repeated with
    ⟨refusals, answer, rfl, refused, split⟩ | ⟨error, rfl, refused, _⟩
  · exact .inl ⟨refusals, answer, rfl, refused, split⟩
  · exact .inr ⟨⟨error, rfl⟩, refused⟩

/-- A value has been read from the last note, and all others are refusals. -/
theorem dialogue_ask_ok {value : α} (dialogue : (ask request read).Dialogue notes (.ok value)) :
    ∃ refusals answer, read answer = .ok value ∧ Refusals request refusals ∧
      notes = refusals ++ [.asked request (.ok answer)] := by
  rcases dialogue_ask dialogue with ⟨refusals, answer, same, refused, split⟩ | ⟨⟨_, impossible⟩, _⟩
  · exact ⟨refusals, answer, same.symm, refused, split⟩
  · cases impossible

end Session.Procedure

/-- The only answer to a request that is refused until it is answered. -/
theorem Session.Refusals.eq_of_answered {request asked : Request} {refusals : List Note}
    {answer last : Answer} (refused : Refusals request refusals)
    (member : .asked asked (.ok answer) ∈ refusals ++ [.asked request (.ok last)]) :
    asked = request ∧ answer = last := by
  rcases List.mem_append.mp member with early | late
  · obtain ⟨_, impossible⟩ := refused _ early
    cases impossible
  · cases List.mem_singleton.mp late
    exact ⟨rfl, rfl⟩

namespace Ledger

variable {l : Ledger} {schema name : String}

/-! ## The answers of the ledger -/

/-- Whether an answer says that a migration is in progress. -/
def flagIn (answer : Answer) : Except Error Bool :=
  match answer.rows with
  | [] => .ok false
  | row :: _ => (row.value? 0 (.place 0) Json.bool?).map fun flag => flag.getD false

/-- The migration that an answer tells. -/
def migrationIn (missing : Error) (answer : Answer) : Except Error Migration :=
  match answer.rows with
  | [] => .error missing
  | row :: _ => migrationOfRow row

/-- The name that an answer tells, if it tells one. -/
def nameIn (answer : Answer) : Except Error (Option String) :=
  match answer.rows with
  | [] => .ok none
  | row :: _ => row.value? 0 (.place 0) Json.string?

/-- The snapshot that an answer holds. -/
def snapshotIn (answer : Answer) : Except Error Schema :=
  match answer.rows with
  | [] => .error (.stateCorrupted "read_schema returned no row")
  | row :: _ => do readSnapshot (← row.value 0 (.place 0) some)

/-- The recorded snapshot that an answer holds, if it holds one. -/
def recordedIn (answer : Answer) : Except Error (Option Schema) :=
  match answer.rows with
  | [] => .ok none
  | row :: _ => do
      match ← row.value? 0 (.named "resulting_schema") some with
      | none => return none
      | some value => return some (← readSnapshot value)

/-- Whether an answer has found an entry; otherwise it fails. -/
def foundIn (missing : Error) (answer : Answer) : Except Error Unit :=
  match answer.rows with
  | [] => .error missing
  | _ :: _ => .ok ()

theorem isActive_eq : l.isActive schema = ask (l.request (.isActive schema)) flagIn := by
  refine congrArg (Procedure.send _) (funext fun outcome => ?_)
  rcases outcome with error | ⟨_ | ⟨row, others⟩, affected⟩
  · rfl
  · rfl
  · change ((Procedure.ofExcept (row.value? 0 (.place 0) Json.bool?)).bind fun flag =>
      .done (flag.getD false)) = Procedure.ofExcept (flagIn ⟨row :: others, affected⟩)
    unfold flagIn
    dsimp only
    cases row.value? 0 (.place 0) Json.bool? <;> rfl

theorem activeMigration_eq :
    l.activeMigration schema =
      ask (l.request (.activeMigration schema)) (migrationIn (.noActiveMigration schema)) := by
  refine congrArg (Procedure.send _) (funext fun outcome => ?_)
  rcases outcome with error | ⟨_ | ⟨row, others⟩, affected⟩ <;> rfl

theorem migrationNamed_eq :
    l.migrationNamed schema name =
      ask (l.request (.migrationNamed schema name))
        (migrationIn (.migrationNotFound schema name)) := by
  refine congrArg (Procedure.send _) (funext fun outcome => ?_)
  rcases outcome with error | ⟨_ | ⟨row, others⟩, affected⟩ <;> rfl

theorem previousVersion_eq {includeInferred : Bool} :
    l.previousVersion schema includeInferred =
      ask (l.request (.previousVersion schema includeInferred)) nameIn := by
  refine congrArg (Procedure.send _) (funext fun outcome => ?_)
  rcases outcome with error | ⟨_ | ⟨row, others⟩, affected⟩ <;> rfl

theorem readSchema_eq :
    l.readSchema schema = ask (l.request (.readSchema schema)) snapshotIn := by
  refine congrArg (Procedure.send _) (funext fun outcome => ?_)
  rcases outcome with error | ⟨_ | ⟨row, others⟩, affected⟩ <;> rfl

theorem recordedSnapshot_eq :
    l.recordedSnapshot schema name =
      ask (l.request (.recordedSnapshot schema name)) recordedIn := by
  refine congrArg (Procedure.send _) (funext fun outcome => ?_)
  rcases outcome with error | ⟨_ | ⟨row, others⟩, affected⟩
  · rfl
  · rfl
  · change ((Procedure.ofExcept (row.value? 0 (.named "resulting_schema") some)).bind fun held =>
      match held with
      | none => .done none
      | some value =>
          (Procedure.ofExcept (readSnapshot value)).bind fun read => .done (some read)) =
        Procedure.ofExcept (recordedIn ⟨row :: others, affected⟩)
    unfold recordedIn
    dsimp only
    rcases row.value? 0 (.named "resulting_schema") some with error | _ | value
    · rfl
    · rfl
    · change ((Procedure.ofExcept (readSnapshot value)).bind fun read => .done (some read)) =
        Procedure.ofExcept ((readSnapshot value).bind fun read => .ok (some read))
      cases readSnapshot value <;> rfl

theorem complete_eq :
    l.complete schema name =
      ask (l.request (.markDone schema name)) (foundIn (.noActiveMigration schema)) := by
  refine congrArg (Procedure.send _) (funext fun outcome => ?_)
  rcases outcome with error | ⟨_ | ⟨row, others⟩, affected⟩ <;> rfl

theorem rollback_eq :
    l.rollback schema name =
      ask (l.request (.erase schema name)) (foundIn (.noActiveMigration schema)) := by
  refine congrArg (Procedure.send _) (funext fun outcome => ?_)
  rcases outcome with error | ⟨_ | ⟨row, others⟩, affected⟩ <;> rfl

end Ledger

end ExpandContract
