import ExpandContract.Session.Request
import ExpandContract.Time.Duration

/-!
# Procedures

What a call of this library does to a server is a procedure: a tree whose nodes are the things a
session can do and whose branches are the outcomes these may have. A procedure is only a
description. It is the same for every server, and a property that holds at every node holds of
everything that is built from them.

Requests come in two kinds. `send` makes a request that is repeated as long as a lock is refused.
`transaction` runs a body of requests between `BEGIN` and `COMMIT`, and it is the whole transaction
that is repeated. Both continue with an outcome that is never a refused lock.

`iterate` is the only loop: it repeats a step, with the state that the step leaves, until the step
gives a result.

A program that uses a session may also send statements of its own: one at a time (`executeSql`), or
several that take effect together or not at all (`executeTogether`).

Bodies of transactions and procedures are monads, and lawful ones: how the parts of a call are put
together does not matter, only what they are and in which order they come.
-/

set_option autoImplicit false

namespace ExpandContract.Session

/-! ## Events -/

/-- What a procedure shows to an observer, apart from the requests it makes. -/
inductive Sight where
  /-- A hook begins to run; `phase` is the name of its phase. -/
  | hook (name phase : String)
  /-- Progress callback number `callback` is told how many rows are done, and of how many. -/
  | progress (done total callback : Nat)
deriving Repr

/-- What an observer of a session sees. -/
inductive Event where
  | request (request : Request)
  | sight (sight : Sight)
deriving Repr

/-! ## Transactions -/

/-- The body of a transaction: requests that are made once each, and what is done with their
outcomes. -/
inductive Transaction (α : Type) where
  | done (value : α)
  | fail (error : Error)
  | send (request : Request) (next : Except DatabaseError Answer → Transaction α)

namespace Transaction

variable {α β γ : Type}

/-- Continues a body with the value it gives. -/
def bind : Transaction α → (α → Transaction β) → Transaction β
  | .done value, f => f value
  | .fail error, _ => .fail error
  | .send request next, f => .send request fun outcome => (next outcome).bind f

instance : Monad Transaction where
  pure := .done
  bind := bind

/-- A body that is followed by nothing is the body itself. -/
theorem bind_done (body : Transaction α) : body.bind .done = body := by
  induction body with
  | done value => rfl
  | fail error => rfl
  | send request next ih => simp [bind, ih]

/-- Where two things follow a body, it makes no difference which of them is joined to it first. -/
theorem bind_assoc (body : Transaction α) (f : α → Transaction β) (g : β → Transaction γ) :
    (body.bind f).bind g = body.bind fun value => (f value).bind g := by
  induction body with
  | done value => rfl
  | fail error => rfl
  | send request next ih => simp [bind, ih]

instance : LawfulMonad Transaction :=
  .mk' Transaction bind_done (fun _ _ => rfl) bind_assoc

/-- Makes a request, and fails if it fails. -/
def call (request : Request) : Transaction Answer :=
  .send request fun
    | .ok answer => .done answer
    | .error cause => .fail (.database cause)

/-- Continues with a value, or fails. -/
def ofExcept : Except Error α → Transaction α
  | .ok value => .done value
  | .error error => .fail error

end Transaction

/-! ## Procedures -/

/-- What a call does, up to its value or its error. -/
inductive Procedure : Type → Type 1 where
  | done {α : Type} (value : α) : Procedure α
  | fail {α : Type} (error : Error) : Procedure α
  /-- Makes a request, again and again while a lock is refused. -/
  | send {α : Type} (request : Request) (next : Except Error Answer → Procedure α) : Procedure α
  /-- Runs a transaction, again and again while a lock is refused. -/
  | transaction {α β : Type} (body : Nat → Transaction β) (next : Except Error β → Procedure α) :
      Procedure α
  /-- Waits, unless the session is or gets cancelled. -/
  | pause {α : Type} (delay : Time.Pause) (next : Except Error Unit → Procedure α) :
      Procedure α
  /-- Shows something to the observer. -/
  | observe {α : Type} (sight : Sight) (next : Procedure α) : Procedure α
  /-- Cancels the session. -/
  | cancel {α : Type} (next : Procedure α) : Procedure α
  /-- Repeats a step until it gives a result. -/
  | iterate {α σ β : Type} (step : σ → Procedure (σ ⊕ β)) (state : σ)
      (next : Except Error β → Procedure α) : Procedure α

namespace Procedure

variable {α β γ σ : Type}

/-- Continues a procedure with the value it gives. -/
def bind {α β : Type} : Procedure α → (α → Procedure β) → Procedure β
  | .done value, f => f value
  | .fail error, _ => .fail error
  | .send request next, f => .send request fun outcome => (next outcome).bind f
  | .transaction body next, f => .transaction body fun outcome => (next outcome).bind f
  | .pause delay next, f => .pause delay fun outcome => (next outcome).bind f
  | .observe sight next, f => .observe sight (next.bind f)
  | .cancel next, f => .cancel (next.bind f)
  | .iterate step state next, f => .iterate step state fun outcome => (next outcome).bind f

instance : Monad Procedure where
  pure := .done
  bind := bind

/-- A procedure that is followed by nothing is the procedure itself. -/
theorem bind_done (p : Procedure α) : p.bind .done = p := by
  induction p with
  | done value => rfl
  | fail error => rfl
  | send request next ih => simp [bind, ih]
  | transaction body next ih => simp [bind, ih]
  | pause delay next ih => simp [bind, ih]
  | observe sight next ih => simp [bind, ih]
  | cancel next ih => simp [bind, ih]
  | iterate step state next _ ih => simp [bind, ih]

/-- Where two things follow a procedure, it makes no difference which of them is joined to it
first. -/
theorem bind_assoc (p : Procedure α) (f : α → Procedure β) (g : β → Procedure γ) :
    (p.bind f).bind g = p.bind fun value => (f value).bind g := by
  induction p with
  | done value => rfl
  | fail error => rfl
  | send request next ih => simp [bind, ih]
  | transaction body next ih => simp [bind, ih]
  | pause delay next ih => simp [bind, ih]
  | observe sight next ih => simp [bind, ih]
  | cancel next ih => simp [bind, ih]
  | iterate step state next _ ih => simp [bind, ih]

instance : LawfulMonad Procedure :=
  .mk' Procedure bind_done (fun _ _ => rfl) bind_assoc

/-- The outcome of a procedure as a value, so that its failure does not end the call. -/
def attempt {α : Type} : Procedure α → Procedure (Except Error α)
  | .done value => .done (.ok value)
  | .fail error => .done (.error error)
  | .send request next => .send request fun outcome => (next outcome).attempt
  | .transaction body next => .transaction body fun outcome => (next outcome).attempt
  | .pause delay next => .pause delay fun outcome => (next outcome).attempt
  | .observe sight next => .observe sight next.attempt
  | .cancel next => .cancel next.attempt
  | .iterate step state next => .iterate step state fun outcome => (next outcome).attempt

/-- Continues with a value, or fails. -/
def ofExcept : Except Error α → Procedure α
  | .ok value => .done value
  | .error error => .fail error

/-! ## Single steps -/

/-- Makes a request. -/
def call (request : Request) : Procedure Answer :=
  .send request ofExcept

/-- Makes a change. -/
def change (statement : Sql.Change) : Procedure Unit :=
  .send (.change statement) fun outcome => ofExcept (outcome.map fun _ => ())

/-- Makes a query, and gives its first row. -/
def fetch? (request : Request) : Procedure (Option Row) :=
  .send request fun outcome => ofExcept (outcome.map fun answer => answer.rows.head?)

/-- Makes a query, and gives its first row; there has to be one. -/
def fetchOne (request : Request) : Procedure Row :=
  .send request fun outcome => ofExcept do
    match (← outcome).rows with
    | [] => throw (.database .noRow)
    | row :: _ => pure row

/-- Runs a transaction, whose body may be another one in each attempt. -/
def transact (body : Nat → Transaction α) : Procedure α :=
  .transaction body ofExcept

/-- Runs a transaction that has the same body in each attempt. -/
def inTransaction (body : Transaction α) : Procedure α :=
  transact fun _ => body

/-- Waits. -/
def wait (delay : Time.Pause) : Procedure Unit :=
  .pause delay ofExcept

/-- Shows something to the observer. -/
def emit (sight : Sight) : Procedure Unit :=
  .observe sight (.done ())

/-- Cancels the session. -/
def cancelSession : Procedure Unit :=
  .cancel (.done ())

/-- Repeats a step from a state until it gives a result. -/
def loop (step : σ → Procedure (σ ⊕ β)) (state : σ) : Procedure β :=
  .iterate step state ofExcept

end Procedure

/-! ## Statements of the user -/

/-- Runs SQL of the user: the number of rows it changed. -/
def executeSql (sql : String) : Procedure Nat := do
  return (← Procedure.call (.change (.raw sql))).affected

/-- Runs statements inside a transaction: the number of rows they changed, added to a number. -/
def runTogether (changed : Nat) : List String → Transaction Nat
  | [] => pure changed
  | sql :: rest => do
      let answer ← Transaction.call (.change (.raw sql))
      runTogether (changed + answer.affected) rest

/-- Runs statements in one transaction: the number of rows they changed. With a reason the
transaction fails after the last statement. -/
def executeTogether (statements : List String) (failure : Option String) : Procedure Nat :=
  Procedure.inTransaction do
    let changed ← runTogether 0 statements
    match failure with
    | some reason => Transaction.fail (.stateCorrupted reason)
    | none => pure changed

end ExpandContract.Session
