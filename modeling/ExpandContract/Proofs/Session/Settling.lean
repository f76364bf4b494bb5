import ExpandContract.Proofs.Session.Dialogue

/-!
# Notes without refused locks

An attempt that ends with a refused lock leaves no mark on the database: a single request has done
nothing, and a transaction is rolled back. `settled` strikes such attempts out of the notes of a
session. A request that was refused a lock is struck out alone. A transaction is struck out as a
whole, from its beginning, if a request in it or the request to commit it was refused a lock.

Notes can be settled piece by piece where no transaction crosses the border between two pieces
(`Settles`). Where no lock was refused, the notes stay as they are (`settled_eq_self`).
-/

set_option autoImplicit false

namespace ExpandContract.Session

/-! ## Parts of transactions -/

/-- What a request does to the transaction in progress. -/
inductive Part where
  | opens
  | commits
  | abandons
  | works
deriving DecidableEq

/-- The part of a request in a transaction. -/
def Request.part : Request → Part
  | .begin => .opens
  | .commit => .commits
  | .rollback => .abandons
  | _ => .works

/-- The part of what was noted in a transaction. -/
def Note.part : Note → Part
  | .asked request _ => request.part
  | .seen _ => .works

/-- Whether the server refused a lock. -/
def Note.isRefusal : Note → Bool
  | .asked _ (.error cause) => cause.code == Error.refusedLockCode
  | _ => false

/-- Whether a transaction has begun. -/
def Note.isOpening : Note → Bool
  | .asked .begin (.ok _) => true
  | _ => false

/-- Whether the last of some notes is of a refused lock. -/
def endsRefused (notes : List Note) : Bool :=
  notes.getLast?.any Note.isRefusal

theorem endsRefused_append (first : List Note) {rest : List Note} (ends : endsRefused rest = true) :
    endsRefused (first ++ rest) = true := by
  unfold endsRefused at ends ⊢
  rw [List.getLast?_append]
  cases last : rest.getLast? with
  | none =>
      rw [last] at ends
      cases ends
  | some note =>
      rw [last] at ends
      exact ends

/-! ## Settling -/

/-- Settles notes. Those of the transaction in progress are `pending`: whether they stay is known
when the transaction ends. -/
def settledFrom : Option (List Note) → List Note → List Note
  | none, [] => []
  | some pending, [] => pending
  | none, note :: rest =>
      if note.isOpening then settledFrom (some [note]) rest
      else if note.isRefusal then settledFrom none rest
      else note :: settledFrom none rest
  | some pending, note :: rest =>
      match note.part with
      | .commits =>
          if note.isRefusal then settledFrom none rest
          else pending ++ note :: settledFrom none rest
      | .abandons =>
          if endsRefused pending then settledFrom none rest
          else pending ++ note :: settledFrom none rest
      | _ => settledFrom (some (pending ++ [note])) rest

/-- The notes without the attempts that ended with a refused lock. -/
def settled (notes : List Note) : List Note :=
  settledFrom none notes

theorem settledFrom_eq_self {notes : List Note} (granted : ∀ note ∈ notes, note.isRefusal = false) :
    settledFrom none notes = notes ∧ ∀ pending, endsRefused pending = false →
      settledFrom (some pending) notes = pending ++ notes := by
  induction notes with
  | nil => exact ⟨rfl, fun pending _ => (List.append_nil pending).symm⟩
  | cons note rest ih =>
      have first := granted note List.mem_cons_self
      obtain ⟨outside, inside⟩ :=
        ih fun other member => granted other (List.mem_cons_of_mem _ member)
      constructor
      · unfold settledFrom
        split
        · rw [inside [note] first]
          rfl
        · rw [first, outside]
          rfl
      · intro pending before
        unfold settledFrom
        split
        · rw [first, outside]
          rfl
        · rw [before, outside]
          rfl
        · rw [inside, List.append_assoc]
          · rfl
          · rw [endsRefused, List.getLast?_append]
            exact first

/-- Where no lock was refused, nothing is struck out. -/
theorem settled_eq_self {notes : List Note} (granted : ∀ note ∈ notes, note.isRefusal = false) :
    settled notes = notes :=
  (settledFrom_eq_self granted).1

/-! ## Settling piece by piece -/

/-- The notes are settled to the kept ones whatever follows them. -/
def Settles (notes kept : List Note) : Prop :=
  ∀ rest, settled (notes ++ rest) = kept ++ settled rest

theorem Settles.settled_eq {notes kept : List Note} (settles : Settles notes kept) :
    settled notes = kept := by
  have whole := settles []
  rwa [List.append_nil, settled, settled, settledFrom, List.append_nil] at whole

namespace Settles

theorem nil : Settles [] [] :=
  fun _ => rfl

theorem append {first rest firstKept restKept : List Note} (early : Settles first firstKept)
    (late : Settles rest restKept) : Settles (first ++ rest) (firstKept ++ restKept) := by
  intro more
  rw [List.append_assoc, early, late, List.append_assoc]

/-- A note outside of transactions is kept unless it is of a refused lock. -/
theorem single {note : Note} (closed : note.isOpening = false) :
    Settles [note] (if note.isRefusal then [] else [note]) := by
  intro rest
  rw [List.cons_append, settled, settledFrom, closed, if_neg Bool.false_ne_true]
  split <;> rfl

/-- What works inside a transaction waits for its end. -/
theorem settledFrom_working {pending inside : List Note}
    (works : ∀ note ∈ inside, note.part = .works) (rest : List Note) :
    settledFrom (some pending) (inside ++ rest) = settledFrom (some (pending ++ inside)) rest := by
  induction inside generalizing pending with
  | nil => rw [List.nil_append, List.append_nil]
  | cons note others ih =>
      rw [List.cons_append, settledFrom, works note List.mem_cons_self,
        ih fun other member => works other (List.mem_cons_of_mem _ member), List.append_assoc]
      rfl

/-- A transaction is kept or struck out as a whole when it ends. -/
theorem transaction {opening : Note} {inside : List Note} (closing : Note)
    (opens : opening.isOpening = true) (works : ∀ note ∈ inside, note.part = .works)
    (closes : closing.part = .commits ∨ closing.part = .abandons) :
    Settles (opening :: inside ++ [closing])
      (if (closing.part = .commits ∧ closing.isRefusal = true) ∨
          (closing.part = .abandons ∧ endsRefused (opening :: inside) = true) then []
        else opening :: inside ++ [closing]) := by
  intro rest
  have begun : settled (opening :: inside ++ [closing] ++ rest) =
      settledFrom (some (opening :: inside)) (closing :: rest) := by
    rw [List.append_assoc, List.cons_append, settled, settledFrom, if_pos opens,
      settledFrom_working works]
    rfl
  rw [begun, settledFrom]
  rcases closes with part | part
  · rw [part]
    by_cases refused : closing.isRefusal = true
    · simp [refused, settled]
    · simp [refused, settled]
  · rw [part]
    by_cases refused : endsRefused (opening :: inside) = true
    · simp [refused, settled]
    · simp [refused, settled]

end Settles

end ExpandContract.Session
