import ExpandContract.Proofs.Session.Asking
import ExpandContract.Proofs.Session.Quitting
import Mathlib.Data.List.Chain

/-!
# Transactions that are run again

A transaction that is refused a lock is run again from the beginning. `Attempt` says how one such
run went: it could not begin, its body gave a value and the server was asked to commit, or its body
failed and the server was asked to roll back. The log of a transaction is the log of its runs, one
after the other, whether or not there is an outcome yet (`attempts_of_run`).

At most one run is committed, for a run that is committed is the last one; and the transaction has a
value just if there is one (`transaction_commits_once`).
-/

set_option autoImplicit false

namespace ExpandContract.Session

open Time (Backoff Timer)

variable {σ α A : Type}

/-! ## Attempts that are repeated -/

/-- Attempts that follow each other while a lock is refused, with the outcome of the last one. There
is none while another attempt is due, and the session may turn out to be cancelled instead. -/
inductive Attempted (outcome : A → Except Error α) : List A → Option (Except Error α) → Prop where
  | underway : Attempted outcome [] none
  | cancelled : Attempted outcome [] (some (.error .cancelled))
  | value {attempt : A} {value : α} (brings : outcome attempt = .ok value) :
      Attempted outcome [attempt] (some (.ok value))
  | failure {attempt : A} {error : Error} (brings : outcome attempt = .error error)
      (lasting : error.isRefusedLock = false) : Attempted outcome [attempt] (some (.error error))
  | again {attempt : A} {rest : List A} {result : Option (Except Error α)} {error : Error}
      (brings : outcome attempt = .error error) (refused : error.isRefusedLock = true)
      (later : Attempted outcome rest result) : Attempted outcome (attempt :: rest) result

/-- The attempt was refused a lock. -/
def Refused (outcome : A → Except Error α) (attempt : A) : Prop :=
  ∃ error, outcome attempt = .error error ∧ error.isRefusedLock = true

namespace Attempted

variable {outcome : A → Except Error α} {attempts : List A} {result : Option (Except Error α)}

/-- An attempt that is followed by another one was refused a lock. -/
theorem isChain (attempted : Attempted outcome attempts result) :
    attempts.IsChain fun earlier _ => Refused outcome earlier := by
  induction attempted with
  | underway => exact .nil
  | cancelled => exact .nil
  | value _ => exact .singleton _
  | failure _ _ => exact .singleton _
  | @again attempt rest _ error brings refused _ ih =>
      cases rest with
      | nil => exact .singleton _
      | cons next others => exact .cons_cons ⟨error, brings, refused⟩ ih

/-- The attempts that succeed are the one that gives the value, or there are none. -/
theorem filter_of_isOk {succeeds : A → Bool}
    (just : ∀ attempt, succeeds attempt = true ↔ ∃ value, outcome attempt = .ok value)
    (attempted : Attempted outcome attempts result) :
    (∃ attempt value, attempts.filter succeeds = [attempt] ∧ outcome attempt = .ok value ∧
      result = some (.ok value)) ∨
    attempts.filter succeeds = [] ∧ ∀ value, result ≠ some (.ok value) := by
  have fails {attempt : A} {error : Error} (brings : outcome attempt = .error error) :
      ¬succeeds attempt = true := by
    rw [just]
    rintro ⟨value, same⟩
    cases brings.symm.trans same
  induction attempted with
  | underway => exact .inr ⟨rfl, nofun⟩
  | cancelled => exact .inr ⟨rfl, nofun⟩
  | @value attempt value brings =>
      refine .inl ⟨attempt, value, ?_, brings, rfl⟩
      rw [List.filter_cons_of_pos ((just attempt).mpr ⟨value, brings⟩)]
      rfl
  | failure brings _ =>
      refine .inr ⟨?_, nofun⟩
      rw [List.filter_cons_of_neg (fails brings)]
      rfl
  | again brings _ _ ih =>
      rw [List.filter_cons_of_neg (fails brings)]
      exact ih

end Attempted

section Noting

/-- What a call does to the world is noted as one attempt, which has the outcome of the call. Both
may depend on the number of the attempt. -/
def NotedAs (server : Server σ) (call : Nat → World σ → Except Error α × World σ)
    (notes : A → List Note) (outcome : A → Except Error α) (legitimate : Nat → A → Prop) : Prop :=
  ∀ number world, ∃ attempt, legitimate number attempt ∧
    Noted server world (notes attempt) (call number world).2 ∧
    (call number world).1 = outcome attempt

variable {server : Server σ} {call : Nat → World σ → Except Error α × World σ}
  {notes : A → List Note} {outcome : A → Except Error α} {legitimate : Nat → A → Prop}

/-- A call that is repeated is noted as one attempt after the other. -/
theorem NotedAs.repeatCall (noted : NotedAs server call notes outcome legitimate) (timer : Timer)
    {policy : Backoff} (draws : policy.Draws (Wire σ)) (patience number : Nat) (world : World σ) :
    ∃ attempts : List A,
      (∀ i attempt, attempts[i]? = some attempt → legitimate (number + i) attempt) ∧
      Noted server world (attempts.flatMap notes)
        (Time.repeatCall timer draws Error.isRefusedLock call patience number world).2 ∧
      Attempted outcome attempts
        (Time.repeatCall timer draws Error.isRefusedLock call patience number world).1 := by
  induction patience generalizing number world with
  | zero => exact ⟨[], by simp, .refl server world, .underway⟩
  | succ patience ih =>
      obtain ⟨attempt, legal, way, brings⟩ := noted number world
      have single : ∀ i other, [attempt][i]? = some other → legitimate (number + i) other := by
        rintro (_ | i) other ⟨⟩
        exact legal
      have only : [attempt].flatMap notes = notes attempt := List.flatMap_singleton ..
      rw [Time.repeatCall]
      rcases called : call number world with ⟨error | value, left⟩
      · rw [called] at way brings
        dsimp only
        by_cases refused : error.isRefusedLock = true
        · rw [if_pos refused]
          rcases timer.wait left.clock (draws.delay left number) with ⟨_ | _, clock⟩
          · exact ⟨[attempt], single, only ▸ way.withClock clock,
              .again brings.symm refused .cancelled⟩
          · obtain ⟨rest, legals, further, attempted⟩ := ih (number + 1) { left with clock }
            refine ⟨attempt :: rest, ?_, ?_, .again brings.symm refused attempted⟩
            · rintro (_ | i) other found
              · cases found
                exact legal
              · rw [← Nat.succ_add_eq_add_succ]
                exact legals i other found
            · rw [List.flatMap_cons]
              exact (way.withClock clock).trans further
        · rw [if_neg refused]
          exact ⟨[attempt], single, only ▸ way,
            .failure brings.symm (Bool.eq_false_iff.mpr refused)⟩
      · rw [called] at way brings
        exact ⟨[attempt], single, only ▸ way, .value brings.symm⟩

theorem NotedAs.retry (noted : NotedAs server call notes outcome legitimate) (timer : Timer)
    {policy : Backoff} (draws : policy.Draws (Wire σ)) (patience : Nat) (world : World σ) :
    ∃ attempts : List A, (∀ i attempt, attempts[i]? = some attempt → legitimate i attempt) ∧
      Noted server world (attempts.flatMap notes)
        (Time.retry timer draws Error.isRefusedLock call patience world).2 ∧
      Attempted outcome attempts
        (Time.retry timer draws Error.isRefusedLock call patience world).1 := by
  unfold Time.retry
  split
  · exact ⟨[], by simp, .refl server world, .cancelled⟩
  · simpa only [Nat.zero_add] using noted.repeatCall timer draws patience 0 world

end Noting

/-! ## Runs of a transaction -/

/-- How one run of a transaction went. -/
inductive Attempt (α : Type) where
  /-- The server refused to begin. -/
  | notBegun (cause : ServerError)
  /-- The body gave a value, and the server was asked to commit. -/
  | concluded (begun : Answer) (inside : List Note) (value : α) (reply : Except ServerError Answer)
  /-- The body failed, and the server was asked to roll back. -/
  | abandoned (begun : Answer) (inside : List Note) (error : Error)
      (reply : Except ServerError Answer)

namespace Attempt

/-- What is noted of a run. -/
def notes : Attempt α → List Note
  | .notBegun cause => [.asked .begin (.error cause)]
  | .concluded begun inside _ reply =>
      .asked .begin (.ok begun) :: inside ++ [.asked .commit reply]
  | .abandoned begun inside _ reply =>
      .asked .begin (.ok begun) :: inside ++ [.asked .rollback reply]

/-- What comes of a run. A body that failed has failed for its own reason, whatever the server says
when it is asked to roll back. -/
def outcome : Attempt α → Except Error α
  | .notBegun cause => .error (.database (.server cause))
  | .concluded _ _ value (.ok _) => .ok value
  | .concluded _ _ _ (.error cause) => .error (.database (.server cause))
  | .abandoned _ _ error _ => .error error

/-- Whether the server has committed the run. -/
def isCommitted : Attempt α → Bool
  | .concluded _ _ _ (.ok _) => true
  | _ => false

/-- What is noted inside of the run is what the body does, and the body comes to that. -/
def Of (body : Transaction α) : Attempt α → Prop
  | .notBegun _ => True
  | .concluded _ inside value _ => body.Dialogue inside (.ok value)
  | .abandoned _ inside error _ => body.Dialogue inside (.error error)

theorem isCommitted_iff (attempt : Attempt α) :
    attempt.isCommitted = true ↔ ∃ value, attempt.outcome = .ok value := by
  rcases attempt with cause | ⟨begun, inside, value, cause | answer⟩ | ⟨begun, inside, error, reply⟩
  · simp [isCommitted, outcome]
  · simp [isCommitted, outcome]
  · simp [isCommitted, outcome]
  · simp [isCommitted, outcome]

end Attempt

theorem exists_attempt {body : Transaction α} {noted : List Note} {result : Except Error α}
    (once : TransactedOnce body noted result) :
    ∃ attempt : Attempt α, attempt.Of body ∧ noted = attempt.notes ∧ result = attempt.outcome := by
  cases once with
  | notBegun cause => exact ⟨.notBegun cause, trivial, rfl, rfl⟩
  | @committed inside value begun committed within =>
      exact ⟨.concluded begun inside value (.ok committed), within, rfl, rfl⟩
  | @notCommitted inside value begun cause within =>
      exact ⟨.concluded begun inside value (.error cause), within, rfl, rfl⟩
  | @rolledBack inside error begun reply within =>
      exact ⟨.abandoned begun inside error reply, within, rfl, rfl⟩

theorem notedAs_transactOnce (server : Server σ) (body : Nat → Transaction α) :
    NotedAs server (fun number => transactOnce server (body number)) Attempt.notes Attempt.outcome
      fun number => Attempt.Of (body number) := by
  intro number world
  obtain ⟨events, way, once⟩ := sound_transactOnce server (body number) world
  obtain ⟨attempt, legal, same, brings⟩ := exists_attempt once
  exact ⟨attempt, legal, ⟨events, way, same⟩, brings⟩

namespace Procedure

theorem run_transact (runner : Runner σ) (body : Nat → Transaction α) (world : World σ) :
    (transact body).run runner world =
      Time.retry runner.timer runner.draws Error.isRefusedLock
        (fun number => transactOnce runner.server (body number)) runner.patience world := by
  rw [transact, run]
  rcases Time.retry runner.timer runner.draws Error.isRefusedLock
    (fun number => transactOnce runner.server (body number)) runner.patience world with
    ⟨_ | error | value, after⟩
  · rfl
  · rfl
  · rfl

/-- What is noted of a transaction is what is noted of its runs, one after the other. -/
theorem attempts_of_run (runner : Runner σ) (body : Nat → Transaction α) (world : World σ) :
    ∃ attempts : List (Attempt α),
      (∀ i (attempt : Attempt α), attempts[i]? = some attempt → attempt.Of (body i)) ∧
      Noted runner.server world (attempts.flatMap Attempt.notes)
        ((transact body).run runner world).2 ∧
      Attempted Attempt.outcome attempts ((transact body).run runner world).1 := by
  rw [run_transact]
  exact (notedAs_transactOnce runner.server body).retry runner.timer runner.draws runner.patience
    world

end Procedure

/-! ## Bodies that leave the transaction alone -/

/-- Whether the server has committed a transaction. -/
def Note.isCommit : Note → Bool
  | .asked .commit (.ok _) => true
  | _ => false

/-- The body does not begin or end transactions itself. -/
abbrev Transaction.Plain (body : Transaction α) : Prop :=
  body.AsksOnly fun request => request.part = .works

theorem Transaction.Plain.works {body : Transaction α} {inside : List Note}
    {result : Except Error α} (plain : body.Plain) (dialogue : body.Dialogue inside result) :
    ∀ note ∈ inside, note.part = .works := by
  intro note member
  cases note with
  | asked request reply => exact plain inside result dialogue request reply member
  | seen sight => rfl

theorem foldl_leavesOpen_of_forall_works {inside : List Note}
    (works : ∀ note ∈ inside, note.part = .works) (begun : Bool) :
    inside.foldl Note.leavesOpen begun = begun := by
  induction inside with
  | nil => rfl
  | cons note rest ih =>
      rw [List.foldl_cons, Note.leavesOpen, works note List.mem_cons_self]
      exact ih fun other member => works other (List.mem_cons_of_mem _ member)

theorem countP_isCommit_of_works {inside : List Note}
    (works : ∀ note ∈ inside, note.part = .works) : inside.countP Note.isCommit = 0 := by
  refine List.countP_eq_zero.mpr fun note member commits => ?_
  have part := works note member
  unfold Note.isCommit at commits
  split at commits
  · cases part
  · cases commits

namespace Attempt

variable {body : Transaction α} {attempt : Attempt α}

/-- A run has been committed if a commit is noted in it, and there is never more than one. -/
theorem countP_isCommit (plain : body.Plain) (of : attempt.Of body) :
    attempt.notes.countP Note.isCommit = if attempt.isCommitted then 1 else 0 := by
  cases attempt with
  | notBegun cause => rfl
  | concluded begun inside value reply =>
      rw [notes, List.countP_append, List.countP_cons_of_neg Bool.false_ne_true,
        countP_isCommit_of_works (plain.works of)]
      cases reply <;> rfl
  | abandoned begun inside error reply =>
      rw [notes, List.countP_append, List.countP_cons_of_neg Bool.false_ne_true,
        countP_isCommit_of_works (plain.works of)]
      rfl

/-- No transaction is open behind a run. -/
theorem transactionOpen_notes (attempt : Attempt α) : transactionOpen attempt.notes = false := by
  cases attempt with
  | notBegun cause => rfl
  | concluded begun inside value reply =>
      rw [transactionOpen, notes, List.foldl_append]
      rfl
  | abandoned begun inside error reply =>
      rw [transactionOpen, notes, List.foldl_append]
      rfl

/-- What works stands behind the beginning of the transaction and before its end. -/
theorem open_of_works {opening closing : Note} {inside before after : List Note} {note : Note}
    (begins : opening.part = .opens) (opens : opening.isOpening = true)
    (ends : closing.part ≠ .works) (within : ∀ other ∈ inside, other.part = .works)
    (works : note.part = .works)
    (split : opening :: inside ++ [closing] = before ++ note :: after) :
    transactionOpen before = true := by
  rcases split_around split with ⟨between, rfl, same⟩ | ⟨between, same, _⟩
  · cases between with
    | nil =>
        cases same
        exact absurd works ends
    | cons other between => exact absurd (List.cons.inj same).2 (by simp)
  · cases before with
    | nil =>
        cases same
        cases begins.symm.trans works
    | cons first before =>
        obtain ⟨rfl, rfl⟩ := List.cons.inj same
        have earlier : ∀ other ∈ before, other.part = .works :=
          fun other member => within other (List.mem_append_left _ member)
        rw [transactionOpen, List.foldl_cons, foldl_leavesOpen_of_forall_works earlier,
          Note.leavesOpen, begins, opens]
        rfl

theorem open_of_mem {before after : List Note} {note : Note} (plain : body.Plain)
    (of : attempt.Of body) (works : note.part = .works)
    (split : attempt.notes = before ++ note :: after) : transactionOpen before = true := by
  cases attempt with
  | notBegun cause =>
      cases before with
      | nil =>
          cases split
          cases works
      | cons other before => exact absurd (List.cons.inj split).2 (by simp)
  | concluded begun inside value reply =>
      exact open_of_works rfl rfl (fun same => Part.noConfusion same) (plain.works of) works split
  | abandoned begun inside error reply =>
      exact open_of_works rfl rfl (fun same => Part.noConfusion same) (plain.works of) works split

/-- As many commits are noted as runs have been committed. -/
theorem countP_flatMap_notes {attempts : List (Attempt α)}
    (of : ∀ attempt ∈ attempts, ∃ body : Transaction α, body.Plain ∧ attempt.Of body) :
    (attempts.flatMap notes).countP Note.isCommit = (attempts.filter isCommitted).length := by
  induction attempts with
  | nil => rfl
  | cons attempt rest ih =>
      obtain ⟨⟨body, plain, first⟩, others⟩ := List.forall_mem_cons.mp of
      rw [List.flatMap_cons, List.countP_append, countP_isCommit plain first, ih others,
        List.filter_cons]
      split
      · rw [List.length_cons, Nat.add_comm]
      · rw [Nat.zero_add]

/-- Whatever works, works inside of a transaction. -/
theorem open_of_mem_flatMap {attempts : List (Attempt α)} {before after : List Note} {note : Note}
    (of : ∀ attempt ∈ attempts, ∃ body : Transaction α, body.Plain ∧ attempt.Of body)
    (works : note.part = .works) (split : attempts.flatMap notes = before ++ note :: after) :
    transactionOpen before = true := by
  induction attempts generalizing before with
  | nil => exact absurd split (by simp)
  | cons attempt rest ih =>
      obtain ⟨⟨body, plain, first⟩, others⟩ := List.forall_mem_cons.mp of
      rw [List.flatMap_cons] at split
      rcases split_around split with ⟨between, rfl, same⟩ | ⟨between, same, _⟩
      · rw [transactionOpen_append attempt.transactionOpen_notes]
        exact ih others same
      · exact open_of_mem plain first works same

end Attempt

/-! ## One commit -/

/-- The log of a transaction is that of its runs, each of which may have another body than the runs
before. Each run is noted from its beginning on to the
request that commits it or, where the body has failed, to the request that rolls it back, whatever
the server says to that. A run is followed by another one only if it was refused a lock. There is a
value just if exactly one run is committed, and it is the value of that run; where there is an error
none is. If the bodies leave the transaction alone, then the log shows as many commits as there are
committed runs, and what the bodies ask for is asked for inside of a transaction. -/
theorem transaction_commits_once (runner : Runner σ) (body : Nat → Transaction α)
    (world : World σ) :
    ∃ (notes : List Note) (attempts : List (Attempt α)),
      Noted runner.server world notes ((Procedure.transact body).run runner world).2 ∧
      notes = attempts.flatMap Attempt.notes ∧
      (∀ i (attempt : Attempt α), attempts[i]? = some attempt → attempt.Of (body i)) ∧
      attempts.IsChain (fun earlier _ => Refused Attempt.outcome earlier) ∧
      (∀ value, ((Procedure.transact body).run runner world).1 = some (.ok value) ↔
        ∃ committed, attempts.filter Attempt.isCommitted = [committed] ∧
          committed.outcome = .ok value) ∧
      (∀ error, ((Procedure.transact body).run runner world).1 = some (.error error) →
        attempts.filter Attempt.isCommitted = []) ∧
      ((∀ i, (body i).Plain) →
        notes.countP Note.isCommit = (attempts.filter Attempt.isCommitted).length ∧
        ∀ before request reply after, notes = before ++ .asked request reply :: after →
          request.part = .works → transactionOpen before = true) := by
  obtain ⟨attempts, of, noted, attempted⟩ := Procedure.attempts_of_run runner body world
  refine ⟨_, attempts, noted, rfl, of, attempted.isChain, ?_⟩
  have plainly (plain : ∀ i, (body i).Plain) :
      (attempts.flatMap Attempt.notes).countP Note.isCommit =
        (attempts.filter Attempt.isCommitted).length ∧
      ∀ before request reply after,
        attempts.flatMap Attempt.notes = before ++ .asked request reply :: after →
          request.part = .works → transactionOpen before = true := by
    have each : ∀ attempt ∈ attempts, ∃ body : Transaction α, body.Plain ∧ attempt.Of body := by
      intro attempt member
      obtain ⟨i, found⟩ := List.getElem?_of_mem member
      exact ⟨body i, plain i, of i attempt found⟩
    refine ⟨Attempt.countP_flatMap_notes each, fun before request reply after split works => ?_⟩
    have inside : (Note.asked request reply).part = .works := works
    exact Attempt.open_of_mem_flatMap each inside split
  rcases attempted.filter_of_isOk Attempt.isCommitted_iff with
    ⟨committed, value, only, brings, ended⟩ | ⟨none, others⟩
  · refine ⟨fun other => ?_, fun error failed => ?_, plainly⟩
    · rw [ended, only]
      constructor
      · rintro ⟨⟩
        exact ⟨committed, rfl, brings⟩
      · rintro ⟨_, ⟨⟩, same⟩
        rw [Except.ok.inj (brings.symm.trans same)]
    · cases ended.symm.trans failed
  · refine ⟨fun value => ⟨fun ended => absurd ended (others value), ?_⟩, fun _ _ => none, plainly⟩
    rintro ⟨committed, only, _⟩
    cases none.symm.trans only

/-- A server that refuses a lock when it is first asked to commit. -/
def refusingOnce : Runner Bool :=
  .plain .standard (fun refused request =>
    match refused, request with
    | false, .commit =>
        ({ cancels := false, outcome := .error ⟨Error.refusedLockCode, "lock timeout"⟩ }, true)
    | _, _ => ({ cancels := false, outcome := .ok { rows := [], affected := 0 } }, refused)) 2

/-- Bodies that lock another ledger each time. -/
def lockingAnother (number : Nat) : Transaction Answer :=
  .call (.lockLedger (if number = 0 then "pgshift" else "pgshift_other"))

/-- A transaction that is refused a lock at its end is run again, and it is committed once. -/
theorem transaction_commits_once_refused :
    (∀ number, (lockingAnother number).Plain) ∧
    ∃ notes, Noted refusingOnce.server (.at .start false) notes
        ((Procedure.transact lockingAnother).run refusingOnce (.at .start false)).2 ∧
      notes.countP Note.isCommit = 1 := by
  have plain (number : Nat) : (lockingAnother number).Plain := by
    refine .send rfl fun outcome => ?_
    cases outcome with
    | ok answer => exact .done _
    | error cause => exact .fail _
  obtain ⟨notes, attempts, noted, _, _, _, succeeds, _, plainly⟩ := transaction_commits_once
    refusingOnce lockingAnother (.at .start false)
  obtain ⟨committed, only, _⟩ := (succeeds { rows := [], affected := 0 }).mp rfl
  refine ⟨plain, notes, noted, ?_⟩
  rw [(plainly plain).1, only]
  rfl

end ExpandContract.Session
